import HandleCache.Proofs.Requests.Discipline
import HandleCache.Proofs.Requests.Trail

/-!
# Class references come back

A class reference is scoped to a session, and a session has room for few of them. So whatever a
binding does, and wherever it stops, it has at most one class reference out at a time, makes use of
that one only, gives it back once and nothing else, and has none out when it answers.

## Contents

- `Event.touch`: what a request does with class references
- `Custody`: requests that keep these rules
- `Balanced`: an action that gives back what it obtained

## Main statements

- `discipline_custody`: the rules are a discipline of every recorded host
- `custody`: resolutions, requests to bindings and scopes keep the rules on every host
-/

namespace HandleCache

variable {H : Host} {ε α : Type}

/-! ## The rules -/

/-- What is done with a class reference. -/
inductive Touch (C : Type) where
  | obtains (c : C)
  | uses (c : C)
  | releases (c : C)
  | nothing

/-- What a request does with class references. A look-up that fails and a weak reference that was
cleared yield none. -/
def Event.touch : Event H → Touch H.ClassRef
  | .findClass _ (.ok c) | .classOfPin _ (.ok c) | .classOfWeak _ (.ok (some c)) => .obtains c
  | .findMethod c _ _ _ | .findStaticMethod c _ _ _ | .findField c _ _ _
  | .findStaticField c _ _ _ | .callStatic c _ _ _ _ | .newObject c _ _ _ _
  | .readStatic c _ _ _ | .pin c _ | .weaken c _ | .isInstance _ c _ => .uses c
  | .releaseClass c => .releases c
  | .findClass _ (.error _) | .classOfPin _ (.error _) | .classOfWeak _ (.error _)
  | .classOfWeak _ (.ok none) | .callMethod .. | .readField .. | .dropPin _ | .dropWeak _
  | .isNull .. | .accepts .. => .nothing

/-- With the reference `before` out, or none, these requests are made in keeping with the rules, and
`after` is out behind them. -/
inductive Custody : (before : Option H.ClassRef) → List (Event H) → (after : Option H.ClassRef) →
    Prop where
  | nil {out : Option H.ClassRef} : Custody out [] out
  | obtain {e : Event H} {es : List (Event H)} {c : H.ClassRef} {after : Option H.ClassRef} :
      e.touch = .obtains c → Custody (some c) es after → Custody none (e :: es) after
  | use {e : Event H} {es : List (Event H)} {c : H.ClassRef} {after : Option H.ClassRef} :
      e.touch = .uses c → Custody (some c) es after → Custody (some c) (e :: es) after
  | release {e : Event H} {es : List (Event H)} {c : H.ClassRef} {after : Option H.ClassRef} :
      e.touch = .releases c → Custody none es after → Custody (some c) (e :: es) after
  | other {e : Event H} {es : List (Event H)} {before after : Option H.ClassRef} :
      e.touch = .nothing → Custody before es after → Custody before (e :: es) after

namespace Custody

variable {es fs : List (Event H)} {a b c : Option H.ClassRef}

theorem append (h : Custody a es b) (h' : Custody b fs c) : Custody a (es ++ fs) c := by
  induction h with
  | nil => exact h'
  | obtain he _ ih => exact .obtain he (ih h')
  | use he _ ih => exact .use he (ih h')
  | release he _ ih => exact .release he (ih h')
  | other he _ ih => exact .other he (ih h')

/-- The references that requests obtain, in order. -/
def obtained (es : List (Event H)) : List H.ClassRef :=
  es.filterMap fun e => match e.touch with
    | .obtains c => some c
    | _ => none

/-- The references that requests give back, in order. -/
def released (es : List (Event H)) : List H.ClassRef :=
  es.filterMap fun e => match e.touch with
    | .releases c => some c
    | _ => none

/-- What is given back is what was out before and what was obtained since, one after the other, but
for what is still out. -/
theorem released_append (h : Custody a es b) :
    released es ++ b.toList = a.toList ++ obtained es := by
  induction h with
  | nil => simp [released, obtained]
  | obtain he _ ih => simpa [released, obtained, he] using ih
  | use he _ ih => simpa [released, obtained, he] using ih
  | release he _ ih => simpa [released, obtained, he] using ih
  | other he _ ih => simpa [released, obtained, he] using ih

end Custody

/-! ## Actions that keep the rules -/

/-- The action keeps the rules and has none out in the end; so what it gave back is what it had
obtained, each reference once. -/
def Balanced (x : Action (Host.Record H) ε α) : Prop :=
  Trail x fun es _ => Custody none es none ∧ Custody.released es = Custody.obtained es

section

variable {out : Option H.ClassRef} {y : Action H.State H.Failure α}
  {event : Except H.Failure α → Event H}

/-- A request that makes use of the reference that is out. -/
theorem ensures_use {c : H.ClassRef} (h : ∀ a, (event a).touch = .uses c) :
    Ensures (Custody none · (some c)) (Host.Record.request y event)
      (fun _ => (Custody none · (some c))) (Custody none · (some c)) :=
  .request (fun v _ held => held.append (.use (h (.ok v)) .nil))
    fun e _ held => held.append (.use (h (.error e)) .nil)

/-- A request that has nothing to do with class references. -/
theorem ensures_other (h : ∀ a, (event a).touch = .nothing) :
    Ensures (Custody none · out) (Host.Record.request y event) (fun _ => (Custody none · out))
      (Custody none · out) :=
  .request (fun v _ held => held.append (.other (h (.ok v)) .nil))
    fun e _ held => held.append (.other (h (.error e)) .nil)

/-- A request for a class reference. -/
theorem ensures_obtain {y : Action H.State H.Failure H.ClassRef}
    {event : Except H.Failure H.ClassRef → Event H} (h : ∀ c, (event (.ok c)).touch = .obtains c)
    (h' : ∀ e, (event (.error e)).touch = .nothing) :
    Ensures (Custody none · none) (Host.Record.request y event) (fun c => (Custody none · (some c)))
      (Custody none · none) :=
  .request (fun c _ held => held.append (.obtain (h c) .nil))
    fun e _ held => held.append (.other (h' e) .nil)

/-- Asking a recorded host keeps the rules, from wherever the record is looked at. -/
theorem discipline_custody (r : Host.Record H) :
    H.recorded.Discipline fun out => r.Since (Custody none · out) where
  findClass _ := ensures_obtain (fun _ => rfl) (fun _ => rfl) r
  classOfPin _ := ensures_obtain (fun _ => rfl) (fun _ => rfl) r
  -- Only this request has an answer that yields no reference.
  classOfWeak w := by
    refine Ensures.request (F := fun c => (Custody none · c)) (fun c es held => ?_)
      (fun _ _ held => held.append (.other rfl .nil)) r
    cases c with
    | some c => exact held.append (.obtain rfl .nil)
    | none => exact held.append (.other rfl .nil)
  releaseClass _ _ known := known.concat fun _ held => held.append (.release rfl .nil)
  findMethod _ _ _ := ensures_use (fun _ => rfl) r
  findStaticMethod _ _ _ := ensures_use (fun _ => rfl) r
  findField _ _ _ := ensures_use (fun _ => rfl) r
  findStaticField _ _ _ := ensures_use (fun _ => rfl) r
  pin _ := ensures_use (fun _ => rfl) r
  weaken _ := ensures_use (fun _ => rfl) r
  isInstance _ _ := ensures_use (fun _ => rfl) r
  callStatic _ _ _ _ := ensures_use (fun _ => rfl) r
  newObject _ _ _ _ := ensures_use (fun _ => rfl) r
  readStatic _ _ _ := ensures_use (fun _ => rfl) r
  callMethod _ _ _ _ := ensures_other (fun _ => rfl) r
  readField _ _ _ := ensures_other (fun _ => rfl) r
  isNull _ _ known := known.concat fun _ held => held.append (.other rfl .nil)
  accepts _ _ _ known := known.concat fun _ held => held.append (.other rfl .nil)
  note _ _ _ known := known

end

/-- An action that keeps the rules, with none out before and after it, is balanced. -/
theorem balanced_of_keeps {x : Action (Host.Record H) ε α}
    (h : ∀ r : Host.Record H, Action.Keeps (r.Since (Custody none · none)) x) : Balanced x := by
  have balanced : ∀ es : List (Event H), Custody none es none →
      Custody none es none ∧ Custody.released es = Custody.obtained es := by
    intro es held
    exact ⟨held, by simpa using held.released_append⟩
  exact Ensures.trail h .nil (fun _ => balanced) fun _ => balanced

/-- On every host, and however its requests turn out: a resolution, a request to a binding, and a
scope that ends at once make their requests in keeping with the rules, and have no class reference
out when they answer. -/
theorem custody (H : Host) :
    (∀ d, Balanced (Binding.resolve H.recorded d)) ∧
      (∀ (b : Binding H.recorded) (ask : Ask H.recorded), Balanced (b.answer ask)) ∧
      ∀ name, Balanced
        (Action.bracket (H.recorded.findClass name) H.recorded.releaseClass fun _ => pure ()) := by
  refine ⟨fun d => ?_, fun b ask => ?_, fun name => ?_⟩
  · exact balanced_of_keeps fun r => (discipline_custody r).resolve d
  · exact balanced_of_keeps fun r => (discipline_custody r).answer b ask
  · refine balanced_of_keeps fun r => ?_
    have D := discipline_custody r
    refine (D.findClass name).bracket fun c => .pure fun s known => ?_
    exact D.releaseClass c s known

end HandleCache

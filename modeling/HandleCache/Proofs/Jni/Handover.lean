import HandleCache.Proofs.Jni.References
import HandleCache.Proofs.Requests.Calls

/-!
# What calls hand over

A call hands a class reference or an instance to the interface along with a handle. The class comes
from what the binding keeps of it, and then it is that of the handles; or else it is looked up by
name, and then it is the class that the name stands for at that time. Nothing compares the two.

## Contents

- `Machine.Denotes`: a reference is to a class
- `Outlook.class?`: the class that a call gets, from the functions that were called for it
- `Behind`: what a call hands over along with a handle
- `Bound`: what a binding keeps is of the class of its handles

## Main statements

- `meets_answer`: a request to a binding makes one call at most, for the class that it gets
- `meets_wrap`: an object that is wrapped is of the class that is got for it
-/

namespace HandleCache.Jni

open HandleCache.Action

/-! ## References to classes -/

namespace Machine

/-- The reference was made in a native frame, to this class. -/
def Denotes (m : Machine) (r : Reference) (c : Nat) : Prop :=
  ∃ age, m.Refers r .local (.classAt c age)

variable {m m' : Machine} {r o : Reference} {c : Nat}

theorem Denotes.grows (h : m.Denotes r c) (grows : m.Grows m') : m'.Denotes r c :=
  h.imp fun _ => grows r _ _

theorem Denotes.class?_eq (h : m.Denotes r c) : m.class? r = some c := by
  obtain ⟨age, n, made⟩ := h
  simp [class?, target?, made]

theorem denotes_referClass (m : Machine) (c : Nat) :
    (m.referClass c).2.Denotes (m.referClass c).1 c :=
  ⟨_, m.refers_refer .local _⟩

/-- A class is found through a reference to it, or the reference is cleared. -/
theorem target?_of_refers {kind : ReferenceKind} {age : Nat}
    (h : m.Refers r kind (.classAt c age)) :
    m.target? r = some (.classAt c age) ∨ m.target? r = none := by
  obtain ⟨n, made⟩ := h
  cases kind with
  | «local» => exact .inl (by simp [target?, made])
  | global => exact .inl (by simp [target?, made])
  -- Only a weak reference is cleared: its class is of a new age once it was unloaded.
  | weak => by_cases same : m.world.age c = age <;> simp [target?, made, same]

theorem refers_of_object? {i : Nat} (h : m.object? r = some i) :
    ∃ kind, m.Refers r kind (.object i) := by
  cases made : m.references.info? r with
  | none => simp [object?, target?, made] at h
  | some info =>
    obtain ⟨kind, target, n⟩ := info
    cases target with
    | classAt c age =>
      rcases target?_of_refers ⟨n, made⟩ with there | gone
      · simp [object?, there] at h
      · simp [object?, gone] at h
    | object j =>
      have same : j = i := by cases kind <;> simpa [object?, target?, made] using h
      exact ⟨kind, n, by rw [made, same]⟩

/-- A class that was found is the one that the name stands for. -/
theorem denotes_findClass {name : String} {i : Nat} (found : (m.findClass name).1 = some i) :
    ∃ c, m.world.visibleClass? name = some c ∧ (m.findClass name).2.Denotes (some i) c := by
  unfold findClass at found ⊢
  split at found
  · cases found
  · next m' h =>
    have still : m'.world = m.world := (called_of_enter h).world rfl
    rw [still] at found
    cases seen : m.world.visibleClass? name with
    | none => simp [seen] at found
    | some c =>
      refine ⟨c, rfl, ?_⟩
      simp only [still, seen] at found ⊢
      rw [← found]
      exact denotes_referClass m' c

/-- A new reference is null, or to the class that the old one is to. -/
theorem refers_newReference (kind : ReferenceKind) {kind' : ReferenceKind} {age : Nat}
    (h : m.Refers r kind' (.classAt c age)) :
    (m.newReference kind r).1 = none ∨
      ∃ age',
        (m.newReference kind r).2.Refers (m.newReference kind r).1 kind (.classAt c age') := by
  unfold newReference
  split
  · exact .inl rfl
  · next m' entered =>
    rcases target?_of_refers ((called_of_enter entered).grows _ _ _ h) with there | gone
    · rw [there]
      exact .inr ⟨_, m'.refers_refer kind _⟩
    · rw [gone]
      exact .inl rfl

theorem newReference_null (kind : ReferenceKind) (m : Machine) :
    (m.newReference kind none).1 = none := by
  unfold newReference
  split <;> rfl

/-- An object that is said to be of a class is one of its instances. -/
theorem isInstance_of_isInstanceOf (h : m.Denotes r c) (said : (m.isInstanceOf o r).1 = true) :
    ∃ kind i, (m.isInstanceOf o r).2.Refers o kind (.object i) ∧
      m.world.isInstance (some i) c = true := by
  unfold isInstanceOf at said ⊢
  split at said
  · cases said
  · next m' entered =>
    have called := called_of_enter entered
    have denotes : m'.class? r = some c := (h.grows called.grows).class?_eq
    simp only [denotes] at said ⊢
    rw [called.world rfl] at said
    cases found : m'.object? o with
    | none =>
      rw [found] at said
      simp [World.isInstance, World.objectLineage] at said
    | some i =>
      rw [found] at said
      obtain ⟨kind, made⟩ := refers_of_object? found
      exact ⟨kind, i, made, said⟩

theorem isInstanceOf_null (o : Reference) (m : Machine) : (m.isInstanceOf o none).1 = false := by
  unfold isInstanceOf
  split <;> rfl

end Machine

/-! ## What calls hand over -/

/-- What decides which class a call gets: the class of the handles, the declaration of the binding
and the world in which the call is made. -/
structure Outlook where
  bound : Nat
  declaration : Declaration
  world : World

/-- Whether a class was looked up by name. -/
def asksByName (es : List Entry) : Bool := es.any fun e => e.function == .findClass

/-- The class that a call gets after these functions were called for it: that of the handles if it
is pinned or was not looked up by name, and else the one that its name stands for. -/
def Outlook.class? (v : Outlook) (before : List Entry) : Option Nat :=
  if v.declaration.retention ≠ .global ∧ asksByName before = true then
    v.world.visibleClass? v.declaration.className
  else some v.bound

/-- The reference is null, or to the class that the call gets. -/
def Handed (v : Outlook) (m : Machine) (before : List Entry) (r : Reference) : Prop :=
  r = none ∨ ∃ c, v.class? before = some c ∧ m.Denotes r c

/-- The reference is to an instance of the class that the call gets. -/
def Accepted (v : Outlook) (m : Machine) (before : List Entry) (o : Reference) : Prop :=
  ∃ c kind i, v.class? before = some c ∧ m.Refers o kind (.object i) ∧
    v.world.isInstance (some i) c = true

/-- What a call hands to the interface along with a handle: a class reference, or else an instance,
which was accepted unless it was trusted. -/
inductive Behind (v : Outlook) (trusted : Bool) (m : Machine) (before : List Entry) : Entry → Prop
    where
  | callStatic {k : Kind} {r : Reference} {id : MemberId} {args : List (Value Reference)}
      {pending : Bool} : Handed v m before r → Behind v trusted m before
        ⟨.callStaticMethod k, [.reference r, .member id, .arguments args], pending⟩
  | newObject {r : Reference} {id : MemberId} {args : List (Value Reference)} {pending : Bool} :
      Handed v m before r → Behind v trusted m before
        ⟨.newObject, [.reference r, .member id, .arguments args], pending⟩
  | getStaticField {k : Kind} {r : Reference} {id : MemberId} {pending : Bool} :
      Handed v m before r → Behind v trusted m before
        ⟨.getStaticField k, [.reference r, .member id], pending⟩
  | callMethod {k : Kind} {o : Reference} {id : MemberId} {args : List (Value Reference)}
      {pending : Bool} : (trusted = false → Accepted v m before o) → Behind v trusted m before
        ⟨.callMethod k, [.reference o, .member id, .arguments args], pending⟩
  | getField {k : Kind} {o : Reference} {id : MemberId} {pending : Bool} :
      (trusted = false → Accepted v m before o) → Behind v trusted m before
        ⟨.getField k, [.reference o, .member id], pending⟩

/-- Whether an entry of a trace runs a member. -/
def Entry.runs (e : Entry) : Bool := e.function.runs

section

variable {v : Outlook} {trusted : Bool} {m m' : Machine} {before : List Entry} {e : Entry}
  {r o : Reference}

theorem asksByName_concat (h : e.function ≠ .findClass) :
    asksByName (before ++ [e]) = asksByName before := by
  simp [asksByName, h]

theorem Outlook.class?_concat (h : e.function ≠ .findClass) :
    v.class? (before ++ [e]) = v.class? before := by
  rw [class?, class?, asksByName_concat h]

/-- As long as nothing was looked up by name, a call gets the class of the handles. -/
theorem Outlook.class?_of_fresh (fresh : asksByName before = false)
    (he : e.function ≠ .findClass) : v.class? (before ++ [e]) = some v.bound := by
  rw [class?, asksByName_concat he, fresh, if_neg]
  exact fun byName => nomatch byName.2

theorem Handed.grows (h : Handed v m before r) (grows : m.Grows m') : Handed v m' before r :=
  h.imp_right fun ⟨c, stands, denotes⟩ => ⟨c, stands, denotes.grows grows⟩

theorem Accepted.grows (h : Accepted v m before o) (grows : m.Grows m') :
    Accepted v m' before o := by
  obtain ⟨c, kind, i, stands, made, isInstance⟩ := h
  exact ⟨c, kind, i, stands, grows o _ _ made, isInstance⟩

theorem Accepted.concat (h : Accepted v m before o) (he : e.function ≠ .findClass) :
    Accepted v m (before ++ [e]) o := by
  unfold Accepted
  rwa [Outlook.class?_concat he]

/-- What was true of a call stays true. -/
theorem Behind.grows (h : Behind v trusted m before e) (grows : m.Grows m') :
    Behind v trusted m' before e := by
  cases h with
  | callStatic handed => exact .callStatic (handed.grows grows)
  | newObject handed => exact .newObject (handed.grows grows)
  | getStaticField handed => exact .getStaticField (handed.grows grows)
  | callMethod accepted => exact .callMethod fun h => (accepted h).grows grows
  | getField accepted => exact .getField fun h => (accepted h).grows grows

end

/-! ## Before the call -/

/-- Since `m` no member was run, and `K` holds of the functions that were called. -/
def Since (m : Machine) (K : List Entry → Machine → Prop) (s : Machine) : Prop :=
  ∃ es, s.trace = m.trace ++ es ∧ m.Grows s ∧ s.world = m.world ∧ Quiet Entry.runs es ∧ K es s

/-- Nothing was looked up by name so far. -/
def Fresh (es : List Entry) (_ : Machine) : Prop := asksByName es = false

section

variable {m s t : Machine} {K K' : List Entry → Machine → Prop} {f : Function}
  {operands : List Operand}

theorem Since.grows (h : Since m K s) : m.Grows s := by
  obtain ⟨_, _, grows, _⟩ := h
  exact grows

theorem Since.imp (h : Since m K s) (weaker : ∀ es, K es s → K' es s) : Since m K' s := by
  obtain ⟨es, traced, grows, still, quiet, known⟩ := h
  exact ⟨es, traced, grows, still, quiet, weaker es known⟩

/-- One more function was called, which runs no member. -/
theorem Since.called (h : Since m K s) (call : s.Called f operands t) (runs : f.runs = false)
    (more : ∀ es, s.world = m.world → K es s →
      K' (es ++ [⟨f, operands, s.exception.isSome⟩]) t) : Since m K' t := by
  obtain ⟨es, traced, grows, still, quiet, known⟩ := h
  refine ⟨es ++ [⟨f, operands, s.exception.isSome⟩], ?_, grows.trans call.grows, ?_, ?_, ?_⟩
  · rw [call.traced, traced, List.append_assoc]
  · rw [call.world runs, still]
  · exact quiet.concat runs
  · exact more es still known

/-- Nothing was called yet. -/
theorem Since.start (m : Machine) : Since m Fresh m :=
  ⟨[], (List.append_nil _).symm, Machine.Grows.refl m, rfl, .nil, rfl⟩

end

/-- What a binding keeps of its class is what its declaration asks for, and a reference to this
class; only a pin may be null. -/
inductive Retains (m : Machine) (c : Nat) : Retention → Retained host → Prop where
  | drop : Retains m c .drop .nothing
  | weak {w : Reference} {age : Nat} :
      m.Refers w .weak (.classAt c age) → Retains m c .weak (.weakly w)
  | nullPin : Retains m c .global (.pinned (none : Reference))
  | pin {p : Reference} {age : Nat} :
      m.Refers p .global (.classAt c age) → Retains m c .global (.pinned p)

theorem Retains.grows {m m' : Machine} {c : Nat} {r : Retention} {kept : Retained host}
    (h : Retains m c r kept) (grows : m.Grows m') : Retains m' c r kept := by
  cases h with
  | drop => exact .drop
  | weak made => exact .weak (grows _ _ _ made)
  | nullPin => exact .nullPin
  | pin made => exact .pin (grows _ _ _ made)

theorem Retains.of_pinned {m : Machine} {c : Nat} {r : Retention} {p : Reference}
    (h : Retains m c r (.pinned p)) : p = none ∨ ∃ age, m.Refers p .global (.classAt c age) := by
  cases h with
  | nullPin => exact .inl rfl
  | pin made => exact .inr ⟨_, made⟩

theorem Retains.of_weakly {m : Machine} {c : Nat} {r : Retention} {w : Reference}
    (h : Retains m c r (.weakly w)) : ∃ age, m.Refers w .weak (.classAt c age) := by
  cases h with
  | weak made => exact ⟨_, made⟩

/-- The binding is seen in the world of `m`, and keeps of the class of its handles what its
declaration asks for. -/
structure Bound (m : Machine) (v : Outlook) (b : Binding host) : Prop where
  world : v.world = m.world
  declared : b.declaration = v.declaration
  retains : Retains m v.bound v.declaration.retention b.retained

/-- The functions since `m` lead up to one call at most, of which the truth is known. -/
def Done (m : Machine) (v : Outlook) (trusted : Bool) (s : Machine) : Prop :=
  ∃ es, s.trace = m.trace ++ es ∧ m.Grows s ∧ CallsOnce Entry.runs (Behind v trusted s) es

section

variable {b : Binding host} {m s t : Machine} {v : Outlook} {trusted : Bool} {f : Function}
  {operands : List Operand} {K : List Entry → Machine → Prop}

theorem Since.done (h : Since m K s) : Done m v trusted s := by
  obtain ⟨es, traced, grows, _, quiet, _⟩ := h
  exact ⟨es, traced, grows, .none quiet⟩

/-- The call itself. -/
theorem Since.call (h : Since m K s) (call : s.Called f operands t)
    (behind : ∀ es, K es s → Behind v trusted s es ⟨f, operands, s.exception.isSome⟩) :
    Done m v trusted t := by
  obtain ⟨es, traced, grows, _, quiet, known⟩ := h
  refine ⟨_, ?_, grows.trans call.grows, .call quiet ((behind es known).grows call.grows)⟩
  rw [call.traced, traced, List.append_assoc]

/-- A class reference is deleted after the call. -/
theorem Done.release (h : Done m v trusted s) (r : Reference) :
    Done m v trusted (dropLocal r s) := by
  obtain ⟨es, traced, grows, calls⟩ := h
  have dropped := Machine.called_deleteReference .local r s
  refine ⟨es ++ [⟨.deleteLocalRef, [.reference r], s.exception.isSome⟩], ?_, ?_, ?_⟩
  · exact dropped.traced.trans (by rw [traced, List.append_assoc]; rfl)
  · exact grows.trans dropped.grows
  · exact (calls.imp fun before e behind => behind.grows dropped.grows).concat rfl

/-! ## The class -/

/-- The class by name is the one that the name stands for. -/
theorem meets_lookupAgain (bound : Bound m v b) (unpinned : v.declaration.retention ≠ .global) :
    Meets (Since m Fresh) b.lookupAgain (fun r => Since m fun es s => Handed v s es r)
      fun _ => Done m v trusted := by
  refine .modify_bind (fun _ known => known) (.mapError ?_)
  refine meets_lookup (T := Since m fun _ _ => True) (meets_nonNull ?_ ?_) ?_
  · intro s r known found
    obtain ⟨i, found', rfl⟩ := Option.map_eq_some_iff.mp found
    obtain ⟨c, seen, denotes⟩ := Machine.denotes_findClass found'
    refine known.called (Machine.called_findClass b.className s) rfl fun es still _ => ?_
    refine .inr ⟨c, ?_, denotes⟩
    rw [Outlook.class?, if_pos ⟨unpinned, by simp [asksByName]⟩, bound.world, ← bound.declared,
      ← still]
    exact seen
  · intro s known
    exact known.called (Machine.called_findClass b.className s) rfl fun _ _ _ => trivial
  · intro s told known
    have noted : Since m (fun _ _ => True) { s with journal := s.journal ++ [told] } := known
    have cleared : Since m (fun _ _ => True)
        { s with journal := s.journal ++ [told] }.exceptionClear :=
      noted.called (Machine.called_exceptionClear _) rfl fun _ _ _ => trivial
    exact cleared.done

/-- What is made of a reference to the class of the handles is one to this class, or null. -/
theorem handed_newReference {s : Machine} {r : Reference} {kind : ReferenceKind} {age : Nat}
    {es : List Entry} {pending : Bool} (made : s.Refers r kind (.classAt v.bound age))
    (fresh : Fresh es s) :
    Handed v (s.newReference .local r).2 (es ++ [⟨.newLocalRef, [.reference r], pending⟩])
      (s.newReference .local r).1 := by
  rcases Machine.refers_newReference .local made with null | denotes
  · exact .inl null
  · exact .inr ⟨v.bound, Outlook.class?_of_fresh fresh nofun, denotes⟩

theorem meets_obtainClass (bound : Bound m v b) :
    Meets (Since m Fresh) b.obtainClass (fun r => Since m fun es s => Handed v s es r)
      fun _ => Done m v trusted := by
  have retains := bound.retains
  unfold Binding.obtainClass
  generalize hr : v.declaration.retention = retention at retains
  generalize b.retained = kept at retains ⊢
  cases retains with
  | drop => exact meets_lookupAgain bound (by simp [hr])
  | nullPin =>
    refine .mapError (.query fun s known => ?_)
    refine known.called (Machine.called_newReference .local none s) rfl fun es _ fresh => ?_
    exact .inl (Machine.newReference_null .local s)
  | @pin p age made =>
    refine .mapError (.query fun s known => ?_)
    have grows := known.grows
    refine known.called (Machine.called_newReference .local p s) rfl fun es _ fresh => ?_
    exact handed_newReference (grows p _ _ made) fresh
  | @weak w age made =>
    refine Meets.bind (F := fun found => Since m fun es s =>
      match found with
      | some r => Handed v s es r
      | none => Fresh es s) (.mapError (.query fun s known => ?_)) fun found => ?_
    · have grows := known.grows
      refine known.called (Machine.called_newReference .local w s) rfl fun es _ fresh => ?_
      have handed : Handed v _ (es ++ [⟨.newLocalRef, [.reference w], s.exception.isSome⟩]) _ :=
        handed_newReference (grows w _ _ made) fresh
      cases hw : (s.newReference .local w).1 with
      | none =>
        simp only [someReference, hw, Option.map_none]
        exact (asksByName_concat (by simp [Machine.maker])).trans fresh
      | some i =>
        rw [hw] at handed
        simp only [someReference, hw, Option.map_some]
        exact handed
    · cases found with
      | some r => exact .pure fun s known => known
      | none =>
        -- The weak reference was cleared, and the class is looked up by name after all.
        exact .modify_bind (fun _ known => known)
          (meets_lookupAgain bound (by simp [hr]))

theorem meets_withClass (bound : Bound m v b) {α : Type} {use : Reference → host.Request α}
    (h : ∀ r, Meets (Since m fun es s => Handed v s es r) (use r) (fun _ => Done m v trusted)
      fun _ => Done m v trusted) :
    Meets (Since m Fresh) (b.withClass use) (fun _ => Done m v trusted)
      fun _ => Done m v trusted := by
  refine (meets_obtainClass bound).bracket fun r => (h r).conseq (fun _ known => known) ?_ ?_
  · exact fun _ s done => done.release r
  · exact fun _ s done => done.release r

theorem meets_requireInstance (bound : Bound m v b) (o : Reference) :
    Meets (Since m Fresh) (b.requireInstance o) (fun _ => Since m fun es s => Accepted v s es o)
      fun _ => Done m v trusted := by
  refine Meets.bind (F := fun answer => Since m fun es s => answer = true → Accepted v s es o)
    ((meets_obtainClass bound).bracket fun r => .mapError (.query fun s known => ?_))
    fun answer => ?_
  · have dropped := Machine.called_deleteReference .local r (s.isInstanceOf o r).2
    have tested : Since m (fun es t => (s.isInstanceOf o r).1 = true → Accepted v t es o)
        (s.isInstanceOf o r).2 := by
      refine known.called (Machine.called_isInstanceOf o r s) rfl fun es still handed said => ?_
      rcases handed with rfl | ⟨c, stands, denotes⟩
      · cases (Machine.isInstanceOf_null o s).symm.trans said
      · obtain ⟨kind, i, made, isInstance⟩ := Machine.isInstance_of_isInstanceOf denotes said
        refine ⟨c, kind, i, (Outlook.class?_concat (by simp)).trans stands, made, ?_⟩
        rwa [bound.world, ← still]
    exact tested.called dropped rfl fun es _ accepted said =>
      ((accepted said).grows dropped.grows).concat (by simp [Machine.deleter])
  · cases answer with
    | true => exact .pure fun s known => known.imp fun es accepted => accepted rfl
    | false => exact .fail fun s known => known.done

/-! ## Requests to bindings -/

/-- A check that stops makes no call. -/
theorem meets_check {α : Type} {x : host.Request α} (h : Keeps (Since m Fresh) x) :
    Meets (Since m Fresh) x (fun _ => Since m Fresh) fun _ => Done m v trusted :=
  h.conseq (fun _ known => known) (fun _ _ known => known) fun _ _ known => known.done

theorem meets_call {α ε : Type} {K : List Entry → Machine → Prop} {f : Machine → α × Machine}
    {g : Failure → ε} (ran : ∀ s, Since m K s → Done m v trusted (f s).2) :
    Meets (Since m K) (Action.mapError g (checked f)) (fun _ => Done m v trusted)
      fun _ => Done m v trusted :=
  .mapError (meets_checked ran ran)

/-- Whatever a binding is asked for, there is one call at most, and what it hands over is of the
class that it gets. -/
theorem meets_answer (bound : Bound m v b) (ask : Ask host) :
    Meets (Since m Fresh) (b.answer ask) (fun _ => Done m v ask.isTrusted)
      fun _ => Done m v ask.isTrusted := by
  -- The checks in front of a scope look nothing up, so the class is got afresh behind them.
  match ask with
  | .call true name o args =>
    refine .ofExcept_reply (fun (op, id, t) _ => ?_) fun _ known => known.done
    refine (meets_check (b.keeps_requirePresent op fun _ known => known)).bind fun _ => ?_
    refine (meets_check (b.keeps_requireArguments op t args fun _ _ _ known => known)).bind ?_
    refine fun _ => meets_call fun s known => ?_
    exact known.call (Machine.called_callMethod o id _ args s) fun _ _ => .callMethod nofun
  | .call false name o args =>
    refine .ofExcept_reply (fun (op, id, t) _ => ?_) fun _ known => known.done
    refine (meets_check (b.keeps_requirePresent op fun _ known => known)).bind fun _ => ?_
    refine (meets_check (b.keeps_requireArguments op t args fun _ _ _ known => known)).bind ?_
    refine fun _ => (meets_requireInstance bound o).bind fun _ => meets_call fun s known => ?_
    exact known.call (Machine.called_callMethod o id _ args s) fun _ accepted =>
      .callMethod fun _ => accepted
  | .callStatic name args =>
    refine .ofExcept_reply (fun (op, id, t) _ => ?_) fun _ known => known.done
    refine (meets_check (b.keeps_requireArguments op t args fun _ _ _ known => known)).bind ?_
    refine fun _ => meets_withClass bound fun r => meets_call fun s known => ?_
    exact known.call (Machine.called_callStatic r id _ args s) fun _ => .callStatic
  | .create name args =>
    refine .ofExcept_reply (fun (op, id, t) _ => ?_) fun _ known => known.done
    refine (meets_check (b.keeps_requireArguments op t args fun _ _ _ known => known)).bind ?_
    refine fun _ => meets_withClass bound fun r => .mapError ?_
    have ran : ∀ s, Since m (fun es s => Handed v s es r) s →
        Done m v false (s.newObject r id args).2 := fun s known =>
      known.call (Machine.called_newObject r id args s) fun _ => .newObject
    exact meets_nonNull (fun s _ known _ => ran s known) ran
  | .read true name o =>
    refine .ofExcept_reply (fun (op, id, t) _ => ?_) fun _ known => known.done
    refine (meets_check (b.keeps_requirePresent op fun _ known => known)).bind fun _ => ?_
    refine .mapError (meets_readAs fun s known => ?_)
    exact known.call (Machine.called_getField o id _ s) fun _ _ => .getField nofun
  | .read false name o =>
    refine .ofExcept_reply (fun (op, id, t) _ => ?_) fun _ known => known.done
    refine (meets_check (b.keeps_requirePresent op fun _ known => known)).bind fun _ => ?_
    refine (meets_requireInstance bound o).bind fun _ => .mapError (meets_readAs fun s known => ?_)
    exact known.call (Machine.called_getField o id _ s) fun _ accepted =>
      .getField fun _ => accepted
  | .readStatic name =>
    refine .ofExcept_reply (fun (op, id, t) _ => ?_) fun _ known => known.done
    refine meets_withClass bound fun r => .mapError (meets_readAs fun s known => ?_)
    exact known.call (Machine.called_getStaticField r id _ s) fun _ => .getStaticField
  | .acquire => exact meets_withClass bound fun r => .pure fun _ known => known.done

/-- An object is wrapped if it is accepted, and held globally then. -/
theorem meets_wrap (bound : Bound m v b) (o : Reference) :
    Meets (Since m Fresh) (wrap b o) (fun _ => Since m fun es s => Accepted v s es o)
      fun _ => Done m v false := by
  unfold wrap
  split
  · exact .fail fun _ known => known.done
  · refine (meets_requireInstance bound o).bind fun _ => .mapError ?_
    refine Meets.bind (F := fun _ => Since m fun es s => Accepted v s es o) ?_ fun _ => ?_
    · exact (keeps_requireVirtualMachine fun _ known => known).conseq (fun _ known => known)
        (fun _ _ known => known) fun _ _ known => known.done
    · refine .query fun s known => ?_
      have held := Machine.called_newReference .global o s
      refine known.called held rfl fun es _ accepted => ?_
      exact (accepted.grows held.grows).concat (by simp [Machine.maker])

end

end HandleCache.Jni

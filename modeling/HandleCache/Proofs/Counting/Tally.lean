import HandleCache.Binding.Progress
import HandleCache.Vm.Counting
import Mathlib.Algebra.Group.Prod
import Mathlib.Algebra.Order.Ring.Int

/-!
# What a resolution costs

The counting machine answers by its classes alone, and by whether pins fail. So a request costs the
same whenever it is made, and costs add up, whoever else makes requests in between.

## Contents

- `Machine.tally`, `Machine.world`: what is counted, and what the answers depend on
- `Costs`: what a computation answers and costs

## Main statements

- `costs_advance`: each step of a resolution has its answer and its cost
- `costs_resolve`: what a whole resolution costs
-/

namespace HandleCache.Counting

/-- Counts of class lookups, of member lookups, of class references out, and of pins out. -/
abbrev Tally : Type := ℤ × ℤ × ℤ × ℤ

/-- The classes, and whether pins fail. -/
abbrev World : Type := List ClassInfo × Bool

/-- What a machine has counted. -/
def Machine.tally (m : Machine) : Tally :=
  (m.classLookups, m.memberLookups, m.liveClasses, m.livePins)

/-- What the answers of a machine depend on. -/
def Machine.world (m : Machine) : World := (m.classes, m.pinsFail)

/-- Whether a computation has this answer and this cost on all machines of one world. -/
def Costs {β : Type} (w : World) (f : Machine → β × Machine) (b : β) (t : Tally) : Prop :=
  ∀ m : Machine, m.world = w → ∃ m', f m = (b, m') ∧ m'.world = w ∧ m'.tally = m.tally + t

namespace Costs

variable {w : World} {t u : Tally}

/-- A computation has one answer and one cost only. -/
theorem unique {β : Type} {f : Machine → β × Machine} {b b' : β} (h : Costs w f b t)
    (h' : Costs w f b' u) : b = b' ∧ t = u := by
  -- There is a machine of this world, and on it both must agree.
  obtain ⟨m, hm, _, ht⟩ := h { classes := w.1, pinsFail := w.2 } rfl
  obtain ⟨m', hm', _, ht'⟩ := h' { classes := w.1, pinsFail := w.2 } rfl
  rw [hm] at hm'
  cases hm'
  exact ⟨rfl, add_left_cancel (ht.symm.trans ht')⟩

theorem of_eq {β : Type} {f : Machine → β × Machine} {b : β} (h : Costs w f b t)
    (same : t = u) : Costs w f b u :=
  same ▸ h

section Action

variable {ε ε' α β : Type} {x : Action Machine ε α} {f : α → Action Machine ε β}

theorem pure (a : α) : Costs w (Pure.pure a : Action Machine ε α) (Except.ok a) 0 := by
  intro m hm
  exact ⟨m, rfl, hm, (add_zero _).symm⟩

/-- After a first part that answers, the cost of the second comes on top. -/
theorem bind_of_ok {a : α} {r : Except ε β} (hx : Costs w x (Except.ok a) t)
    (hf : Costs w (f a) r u) : Costs w (x >>= f) r (t + u) := by
  intro m hm
  obtain ⟨m', hx, hw, ht⟩ := hx m hm
  obtain ⟨m'', hf, hw', hu⟩ := hf m' hw
  refine ⟨m'', ?_, hw', ?_⟩
  · rw [Action.bind_of_ok hx, hf]
  · rw [hu, ht, add_assoc]

/-- After a first part that stops, nothing more is spent. -/
theorem bind_of_error {e : ε} (hx : Costs w x (Except.error e) t) :
    Costs w (x >>= f) (Except.error e) t := by
  intro m hm
  obtain ⟨m', hx, hw, ht⟩ := hx m hm
  exact ⟨m', Action.bind_of_error hx, hw, ht⟩

/-- To tell an error in other words costs nothing. -/
theorem mapError (g : ε → ε') {r : Except ε α} (hx : Costs w x r t) :
    Costs w (Action.mapError g x) (r.mapError g) t := by
  intro m hm
  obtain ⟨m', hx, hw, ht⟩ := hx m hm
  refine ⟨m', ?_, hw, ht⟩
  unfold Action.mapError
  rw [hx]
  cases r <;> rfl

end Action

end Costs

/-! ## Requests -/

section Requests

variable {w : World}

/-- A class lookup counts, and hands a reference out if there is such a class. -/
theorem costs_findClass (w : World) (name : String) :
    (∃ c, Costs w (Machine.findClass name) (.ok c) (1, 0, 1, 0)) ∨
      ∃ e, Costs w (Machine.findClass name) (.error e) (1, 0, 0, 0) := by
  cases hf : w.1.findIdx? (·.name == name) with
  | some c =>
    left
    refine ⟨c, ?_⟩
    rintro m rfl
    have found : m.classes.findIdx? (·.name == name) = some c := hf
    refine ⟨{ m with classLookups := m.classLookups + 1, liveClasses := m.liveClasses + 1 },
      ?_, rfl, ?_⟩
    · simp [Machine.findClass, found, Machine.handOut]
    · simp [Machine.tally]
  | none =>
    right
    refine ⟨.noClass name, ?_⟩
    rintro m rfl
    have missing : m.classes.findIdx? (·.name == name) = none := hf
    refine ⟨{ m with classLookups := m.classLookups + 1 }, ?_, rfl, ?_⟩
    · simp only [Machine.findClass, missing]
    · simp [Machine.tally]

/-- A member lookup counts, whatever it answers. -/
theorem costs_findMember (w : World) (missing : Failure) (isStatic : Bool) (c : Nat)
    (name signature : String) :
    ∃ r, Costs w (Machine.findMember missing isStatic c name signature) r (0, 1, 0, 0) := by
  have counted (m : Machine) : ({ m with memberLookups := m.memberLookups + 1 } : Machine).tally =
      m.tally + (0, 1, 0, 0) := by simp [Machine.tally]
  cases hc : w.1[c]? with
  | none =>
    refine ⟨.error .brokenPromise, ?_⟩
    rintro m rfl
    have gone : m.classes[c]? = none := hc
    refine ⟨{ m with memberLookups := m.memberLookups + 1 }, ?_, rfl, counted m⟩
    simp only [Machine.findMember, gone]
  | some info =>
    cases hi : info.members.findIdx? fun x =>
        x.name == name && x.signature == signature && x.isStatic == isStatic with
    | none =>
      refine ⟨.error missing, ?_⟩
      rintro m rfl
      have there : m.classes[c]? = some info := hc
      refine ⟨{ m with memberLookups := m.memberLookups + 1 }, ?_, rfl, counted m⟩
      simp only [Machine.findMember, there, hi]
    | some i =>
      refine ⟨.ok ⟨c, i⟩, ?_⟩
      rintro m rfl
      have there : m.classes[c]? = some info := hc
      refine ⟨{ m with memberLookups := m.memberLookups + 1 }, ?_, rfl, counted m⟩
      simp only [Machine.findMember, there, hi]

/-- A pin counts, unless pins fail. -/
theorem costs_pin (w : World) (c : Nat) :
    (∃ p, Costs w (Machine.pin c) (.ok p) (0, 0, 0, 1)) ∨
      ∃ e, Costs w (Machine.pin c) (.error e) 0 := by
  cases hp : w.2 with
  | false =>
    left
    refine ⟨c, ?_⟩
    rintro m rfl
    have possible : m.pinsFail = false := hp
    refine ⟨{ m with livePins := m.livePins + 1 }, ?_, rfl, ?_⟩
    · simp [Machine.pin, possible]
    · simp [Machine.tally]
  | true =>
    right
    refine ⟨.thrown "global reference table is full", ?_⟩
    rintro m rfl
    have fails : m.pinsFail = true := hp
    refine ⟨m, ?_, rfl, (add_zero _).symm⟩
    simp [Machine.pin, fails]

end Requests

/-! ## Steps of a resolution -/

section Steps

variable {w : World}

theorem costs_classNamed (w : World) (name : String) :
    (∃ c, Costs w (Host.classNamed (H := host) name) (.ok c) (1, 0, 1, 0)) ∨
      ∃ e, Costs w (Host.classNamed (H := host) name) (.error e) (1, 0, 0, 0) := by
  rcases costs_findClass w name with ⟨c, h⟩ | ⟨e, h⟩
  · exact .inl ⟨c, h.mapError (Fault.classNotFound name)⟩
  · exact .inr ⟨_, h.mapError (Fault.classNotFound name)⟩

theorem costs_handle {ε ε' α β : Type} {x : Action Machine ε α} {r : Except ε α} {t : Tally}
    (told : ε → ε') (kept : α → β) (h : Costs w x r t) :
    ∃ r', Costs w (do let a ← Action.mapError told x; pure (kept a) : Action Machine ε' β) r' t := by
  have named := h.mapError told
  cases r with
  | ok a =>
    have both := named.bind_of_ok (f := fun a => pure (kept a)) (.pure (kept a))
    exact ⟨_, both.of_eq (add_zero t)⟩
  | error e => exact ⟨_, named.bind_of_error⟩

/-- Each operation is one member lookup, found or not. -/
theorem costs_lookupOperation (w : World) (c : Nat) (className : String) (op : Operation)
    (plan : Plan) :
    ∃ r, Costs w (Host.lookupOperation (H := host) c className op plan) r (0, 1, 0, 0) := by
  cases plan with
  | constructor d | method d | staticMethod d =>
    obtain ⟨r, h⟩ := costs_findMember w _ _ c op.member op.signature
    exact costs_handle _ _ h
  | field d | staticField d =>
    obtain ⟨r, h⟩ := costs_findMember w _ _ c op.member op.signature
    exact costs_handle _ _ h

/-- A strong retention costs a pin. -/
theorem costs_retain (w : World) (c : Nat) (d : Declaration) :
    (∃ kept, Costs w (Host.retain (H := host) c d) (.ok kept)
      (0, 0, 0, if d.retention = .global then 1 else 0)) ∨
      ∃ e, Costs w (Host.retain (H := host) c d) (.error e) 0 := by
  unfold Host.retain
  cases hr : d.retention with
  | drop => exact .inl ⟨.nothing, .pure _⟩
  | weak =>
    have weak : Costs w (fun m => (.ok c, m) : Action Machine Failure Nat) (.ok c) 0 := .pure c
    left
    have both := (weak.mapError (Fault.classNotRetained d.className)).bind_of_ok
      (f := fun w => pure (Retained.weakly w : Retained host)) (.pure _)
    exact ⟨_, both⟩
  | global =>
    rcases costs_pin w c with ⟨p, h⟩ | ⟨e, h⟩
    · left
      have both := (h.mapError (Fault.classNotRetained d.className)).bind_of_ok
        (f := fun p => pure (Retained.pinned p : Retained host)) (.pure _)
      exact ⟨_, both.of_eq (by simp)⟩
    · right
      exact ⟨_, (h.mapError (Fault.classNotRetained d.className)).bind_of_error⟩

/-- The first step looks the class up, unless the declaration is not well formed. -/
theorem costs_begun (w : World) (d : Declaration) :
    (∃ e, d.plans (ε := host.Failure) = .error e ∧
      Costs w (Progress.advance (H := host) d .begun) (.finished (.error e)) 0) ∨
    ∃ plans, d.plans (ε := host.Failure) = .ok plans ∧
      ((∃ c, Costs w (Progress.advance (H := host) d .begun) (.members c [] plans) (1, 0, 1, 0)) ∨
        ∃ e, Costs w (Progress.advance (H := host) d .begun) (.finished (.error e)) (1, 0, 0, 0)) := by
  cases hd : d.plans (ε := host.Failure) with
  | error e =>
    refine .inl ⟨e, rfl, ?_⟩
    intro m hm
    exact ⟨m, Progress.advance_begun_of_invalid hd, hm, (add_zero _).symm⟩
  | ok plans =>
    refine .inr ⟨plans, rfl, ?_⟩
    rcases costs_classNamed w d.className with ⟨c, h⟩ | ⟨e, h⟩
    · refine .inl ⟨c, ?_⟩
      intro m hm
      obtain ⟨m', hc, hw, ht⟩ := h m hm
      exact ⟨_, Progress.advance_begun_of_found hd hc, hw, ht⟩
    · refine .inr ⟨e, ?_⟩
      intro m hm
      obtain ⟨m', hc, hw, ht⟩ := h m hm
      exact ⟨m', Progress.advance_begun_of_missing hd hc, hw, ht⟩

theorem costs_member (w : World) (d : Declaration) (c : Nat)
    (found : List (ResolvedOperation host)) (op : Operation) (plan : Plan)
    (rest : List (Operation × Plan)) :
    (∃ handle, Costs w (Progress.advance (H := host) d (.members c found ((op, plan) :: rest)))
      (.members c (found ++ [⟨op, handle⟩]) rest) (0, 1, 0, 0)) ∨
    ∃ e, Costs w (Progress.advance (H := host) d (.members c found ((op, plan) :: rest)))
      (.leaving c (.error e)) (0, 1, 0, 0) := by
  obtain ⟨r, h⟩ := costs_lookupOperation w c d.className op plan
  cases r with
  | ok handle =>
    refine .inl ⟨handle, ?_⟩
    intro m hm
    obtain ⟨m', hl, hw, ht⟩ := h m hm
    exact ⟨m', Progress.advance_members_of_found hl, hw, ht⟩
  | error e =>
    refine .inr ⟨e, ?_⟩
    intro m hm
    obtain ⟨m', hl, hw, ht⟩ := h m hm
    exact ⟨m', Progress.advance_members_of_missing hl, hw, ht⟩

theorem costs_retention (w : World) (d : Declaration) (c : Nat)
    (found : List (ResolvedOperation host)) :
    (∃ kept, Costs w (Progress.advance (H := host) d (.members c found []))
      (.leaving c (.ok (.ofRows d found kept))) (0, 0, 0, if d.retention = .global then 1 else 0)) ∨
    ∃ e, Costs w (Progress.advance (H := host) d (.members c found [])) (.leaving c (.error e)) 0 := by
  rcases costs_retain w c d with ⟨kept, h⟩ | ⟨e, h⟩
  · refine .inl ⟨kept, ?_⟩
    intro m hm
    obtain ⟨m', hr, hw, ht⟩ := h m hm
    exact ⟨m', Progress.advance_members_of_retained hr, hw, ht⟩
  · refine .inr ⟨e, ?_⟩
    intro m hm
    obtain ⟨m', hr, hw, ht⟩ := h m hm
    exact ⟨m', Progress.advance_members_of_unretained hr, hw, ht⟩

theorem costs_leaving (w : World) (d : Declaration) (c : Nat)
    (result : Except (Fault host.Failure) (Binding host)) :
    Costs w (Progress.advance (H := host) d (.leaving c result)) (.finished result) (0, 0, -1, 0) := by
  rintro m rfl
  refine ⟨_, rfl, ?_, ?_⟩
  · cases result <;> rfl
  · cases result <;> simp [Progress.leave, host, Machine.tally, sub_eq_add_neg]

/-- Each step of a resolution has its answer and its cost. -/
theorem costs_advance (w : World) (d : Declaration) (p : Progress host) :
    ∃ p' t, Costs w (Progress.advance (H := host) d p) p' t := by
  match p with
  | .begun =>
    rcases costs_begun w d with ⟨e, _, h⟩ | ⟨plans, _, ⟨c, h⟩ | ⟨e, h⟩⟩
    · exact ⟨_, _, h⟩
    · exact ⟨_, _, h⟩
    · exact ⟨_, _, h⟩
  | .members c found ((op, plan) :: rest) =>
    rcases costs_member w d c found op plan rest with ⟨handle, h⟩ | ⟨e, h⟩
    · exact ⟨_, _, h⟩
    · exact ⟨_, _, h⟩
  | .members c found [] =>
    rcases costs_retention w d c found with ⟨kept, h⟩ | ⟨e, h⟩
    · exact ⟨_, _, h⟩
    · exact ⟨_, _, h⟩
  | .leaving c result => exact ⟨_, _, costs_leaving w d c result⟩
  | .finished result =>
    refine ⟨.finished result, 0, ?_⟩
    intro m hm
    exact ⟨m, rfl, hm, (add_zero _).symm⟩

/-! ## Whole resolutions -/

theorem Costs.steps_zero (w : World) (d : Declaration) (p : Progress host) :
    Costs w (Progress.steps (H := host) d 0 p) p 0 := by
  intro m hm
  exact ⟨m, rfl, hm, (add_zero _).symm⟩

theorem Costs.steps_succ {w : World} {d : Declaration} {k : Nat} {p p' p'' : Progress host}
    {t u : Tally} (first : Costs w (Progress.steps (H := host) d k p) p' t)
    (second : Costs w (Progress.advance (H := host) d p') p'' u) :
    Costs w (Progress.steps (H := host) d (k + 1) p) p'' (t + u) := by
  intro m hm
  obtain ⟨m', hk, hw, ht⟩ := first m hm
  obtain ⟨m'', ha, hw', hu⟩ := second m' hw
  refine ⟨m'', ?_, hw', ?_⟩
  · refine (Progress.steps_succ' d k p m).trans ?_
    rw [hk]
    exact ha
  · rw [hu, ht, add_assoc]

/-- What the steps of a resolution cost up to its end is what it costs as a whole. -/
theorem Costs.resolve_of_steps {w : World} {d : Declaration} {k : Nat}
    {result : Except (Fault host.Failure) (Binding host)} {t : Tally}
    (h : Costs w (Progress.steps (H := host) d k .begun) (.finished result) t) :
    Costs w (Binding.resolve host d) result t := by
  intro m hm
  obtain ⟨m', hk, hw, ht⟩ := h m hm
  exact ⟨m', Progress.upshot_of_steps_eq_finished hk, hw, ht⟩

/-- Once the class was found, each member is looked up until one is missing; the class is retained
if none is, and its reference comes back. -/
theorem costs_members {w : World} {d : Declaration} {k : Nat} {c : Nat}
    {found : List (ResolvedOperation host)} {rest : List (Operation × Plan)} {t : Tally}
    (h : Costs w (Progress.steps (H := host) d k .begun) (.members c found rest) t) :
    (∃ b, Costs w (Binding.resolve host d) (.ok b)
      (t + ((0, rest.length, -1, if d.retention = .global then 1 else 0) : Tally))) ∨
    ∃ e, ∃ l : ℕ, Costs w (Binding.resolve host d) (.error e) (t + ((0, l, -1, 0) : Tally)) := by
  -- The lookups made so far are in the cost of the steps, so the induction is for all of them.
  induction rest generalizing k found t with
  | nil =>
    rcases costs_retention w d c found with ⟨kept, h'⟩ | ⟨e, h'⟩
    · left
      have all := ((h.steps_succ h').steps_succ (costs_leaving w d c _)).resolve_of_steps
      exact ⟨_, all.of_eq (by simp [add_assoc])⟩
    · right
      have all := ((h.steps_succ h').steps_succ (costs_leaving w d c _)).resolve_of_steps
      exact ⟨e, 0, all.of_eq (by simp)⟩
  | cons first rest ih =>
    obtain ⟨op, plan⟩ := first
    rcases costs_member w d c found op plan rest with ⟨handle, h'⟩ | ⟨e, h'⟩
    · rcases ih (h.steps_succ h') with ⟨b, all⟩ | ⟨e, l, all⟩
      · left
        exact ⟨b, all.of_eq (by simp [add_assoc, add_comm (1 : ℤ)])⟩
      · right
        exact ⟨e, 1 + l, all.of_eq (by simp [add_assoc])⟩
    · right
      have all := ((h.steps_succ h').steps_succ (costs_leaving w d c _)).resolve_of_steps
      exact ⟨e, 1, all.of_eq (by simp [add_assoc])⟩

/-- A resolution that succeeds costs one class lookup, a member lookup for each operation, and a
pin if the class is retained strongly. One that fails costs lookups only, and none at all if the
declaration is not well formed. No class reference stays out. -/
theorem costs_resolve (w : World) (d : Declaration) :
    (∃ b, Costs w (Binding.resolve host d) (.ok b)
      (1, d.operations.length, 0, if d.retention = .global then 1 else 0)) ∨
    ∃ e, ∃ l k : ℕ, Costs w (Binding.resolve host d) (.error e) (l, k, 0, 0) ∧
      ∀ e, d.plans (ε := host.Failure) = .error e → l = 0 ∧ k = 0 := by
  -- The first step decides whether there is anything to look up.
  have start := Costs.steps_zero w d .begun
  rcases costs_begun w d with ⟨e, hd, h⟩ | ⟨plans, hd, ⟨c, h⟩ | ⟨e, h⟩⟩
  · right
    have all := (start.steps_succ h).resolve_of_steps
    exact ⟨e, 0, 0, all.of_eq (add_zero 0), fun _ _ => ⟨rfl, rfl⟩⟩
  · have length : plans.length = d.operations.length := Progress.length_plans hd
    rcases costs_members (start.steps_succ h) with ⟨b, all⟩ | ⟨e, l, all⟩
    · left
      exact ⟨b, all.of_eq (by simp [length])⟩
    · right
      exact ⟨e, 1, l, all.of_eq (by simp), fun e he => nomatch hd.symm.trans he⟩
  · right
    have all := (start.steps_succ h).resolve_of_steps
    exact ⟨e, 1, 0, all.of_eq (zero_add _), fun e he => nomatch hd.symm.trans he⟩

end Steps

end HandleCache.Counting

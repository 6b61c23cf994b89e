import HandleCache.Binding.Resolve

/-!
# Resolving step by step

The resolution of a declaration, cut into the requests that it makes to the host. Where several
threads work on one host, the requests of one may come between those of another; so it has to be
known what a resolution is about to do next, and not only what it comes to.

## Contents

- `Progress`: how far a resolution is
- `Progress.advance`, `Progress.steps`: one request further, and several
- `Progress.upshot`: what a resolution comes to if nobody interferes

## Main statements

- `Progress.upshot_advance`: a step does not change what a resolution comes to
- `Progress.exists_steps_eq_resolve`: taken to its end, a resolution answers as
  `Binding.resolve` does
-/

namespace HandleCache

/-- How far the resolution of a declaration is. -/
inductive Progress (H : Host) where
  | begun
  /-- The class is there and some operations were found; the rest is looked up next. -/
  | members (c : H.ClassRef) (found : List (ResolvedOperation H)) (rest : List (Operation × Plan))
  /-- The outcome is known, and the class reference is given back next. -/
  | leaving (c : H.ClassRef) (result : Except (Fault H.Failure) (Binding H))
  | finished (result : Except (Fault H.Failure) (Binding H))

namespace Progress

variable {H : Host}

/-! ## Steps -/

/-- The end of a resolution: the class reference is given back, and success is told. -/
def leave (d : Declaration) (c : H.ClassRef) (result : Except (Fault H.Failure) (Binding H))
    (h : H.State) : H.State :=
  match result with
  | .ok b => H.note (.cachedHandles b.resolved.length d.className d.retention) (H.releaseClass c h)
  | .error _ => H.releaseClass c h

/-- One step: each makes one request to the host at most. -/
def advance (d : Declaration) : Progress H → H.State → Progress H × H.State
  | begun, h =>
    -- A declaration that is not well formed is refused before the host hears of it.
    match d.plans with
    | .error e => (finished (.error e), h)
    | .ok plans =>
      match Host.classNamed (H := H) d.className h with
      | (.ok c, h) => (members c [] plans, H.note (.resolvedClass d.className plans.length) h)
      | (.error e, h) => (finished (.error e), h)
  | members c found ((op, plan) :: rest), h =>
    match Host.lookupOperation c d.className op plan h with
    | (.ok handle, h) => (members c (found ++ [⟨op, handle⟩]) rest, h)
    | (.error e, h) => (leaving c (.error e), h)
  | members c found [], h =>
    match Host.retain c d h with
    | (.ok retained, h) => (leaving c (.ok (.ofRows d found retained)), h)
    | (.error e, h) => (leaving c (.error e), h)
  | leaving c result, h => (finished result, leave d c result h)
  | finished result, h => (finished result, h)

/-- So many steps, one after the other. -/
def steps (d : Declaration) : Nat → Progress H → H.State → Progress H × H.State
  | 0, p, h => (p, h)
  | k + 1, p, h => steps d k (advance d p h).1 (advance d p h).2

/-- How many steps are left at most. -/
def remaining (d : Declaration) : Progress H → Nat
  | begun => d.operations.length + 3
  | members _ _ rest => rest.length + 2
  | leaving _ _ => 1
  | finished _ => 0

/-- What a resolution comes to from where it is, if nobody interferes. -/
def upshot (d : Declaration) :
    Progress H → H.State → Except (Fault H.Failure) (Binding H) × H.State
  | begun, h => Binding.resolve H d h
  | members c found rest, h =>
    match Host.lookupOperations c d.className rest h with
    | (.ok others, h) =>
      match Host.retain c d h with
      | (.ok retained, h) =>
        (.ok (.ofRows d (found ++ others) retained),
          leave d c (.ok (.ofRows d (found ++ others) retained)) h)
      | (.error e, h) => (.error e, leave d c (.error e) h)
    | (.error e, h) => (.error e, leave d c (.error e) h)
  | leaving c result, h => (result, leave d c result h)
  | finished result, h => (result, h)

/-! ## What the steps come to -/

@[simp] theorem steps_zero (d : Declaration) (p : Progress H) (h : H.State) :
    steps d 0 p h = (p, h) := rfl

theorem steps_succ (d : Declaration) (k : Nat) (p : Progress H) (h : H.State) :
    steps d (k + 1) p h = steps d k (advance d p h).1 (advance d p h).2 := rfl

/-- The last of several steps is a step as well. -/
theorem steps_succ' (d : Declaration) (k : Nat) (p : Progress H) (h : H.State) :
    steps d (k + 1) p h = advance d (steps d k p h).1 (steps d k p h).2 := by
  -- The first step is taken off, and the last one is that of the rest.
  induction k generalizing p h with
  | zero => rfl
  | succ k ih => rw [steps_succ, ih, ← steps_succ]

@[simp] theorem steps_finished (d : Declaration) (k : Nat)
    (result : Except (Fault H.Failure) (Binding H)) (h : H.State) :
    steps d k (finished result) h = (finished result, h) := by
  induction k with
  | zero => rfl
  | succ k ih => rw [steps_succ]; exact ih

theorem length_plans {ε : Type} {className : String} {earlier : List String}
    {ops : List Operation} {plans : List (Operation × Plan)}
    (h : Operation.plans (ε := ε) className earlier ops = .ok plans) :
    plans.length = ops.length := by
  induction ops generalizing earlier plans with
  | nil =>
    cases h
    rfl
  | cons op rest ih =>
    obtain ⟨-, plan, others, -, behind, rfl⟩ := Operation.plans_cons_eq_ok h
    rw [List.length_cons, List.length_cons, ih behind]

/-- A declaration that is not well formed comes to its fault, and the host hears nothing. -/
theorem resolve_of_invalid {d : Declaration} {e : Fault H.Failure} (hd : d.plans = .error e)
    (h : H.State) : Binding.resolve H d h = (.error e, h) := by
  simp only [Binding.resolve, Action.bind_apply, Action.ofExcept_apply, hd]

theorem resolve_of_missing {d : Declaration} {plans : List (Operation × Plan)}
    {e : Fault H.Failure} {h t : H.State} (hd : d.plans (ε := H.Failure) = .ok plans)
    (hc : Host.classNamed (H := H) d.className h = (.error e, t)) :
    Binding.resolve H d h = (.error e, t) := by
  simp only [Binding.resolve, Action.bind_apply, Action.ofExcept_apply, hd,
    Action.bracket_of_error hc]

/-- Once the class is there, the rest of the resolution is the look-up of its members. -/
theorem resolve_of_found {d : Declaration} {plans : List (Operation × Plan)} {c : H.ClassRef}
    {h t : H.State} (hd : d.plans (ε := H.Failure) = .ok plans)
    (hc : Host.classNamed (H := H) d.className h = (.ok c, t)) :
    Binding.resolve H d h =
      upshot d (members c [] plans) (H.note (.resolvedClass d.className plans.length) t) := by
  simp only [Binding.resolve, Action.bind_apply, Action.ofExcept_apply, hd,
    Action.bracket_of_ok hc, upshot, Host.tell, Action.modify_apply, List.nil_append]
  cases hm : Host.lookupOperations c d.className plans
      (H.note (.resolvedClass d.className plans.length) t) with
  | mk answer u =>
    cases answer with
    | error e => rfl
    | ok others =>
      simp only
      cases hr : Host.retain c d u with
      | mk answer v => cases answer <;> rfl

/-- What a resolution from `s` that succeeds has gone through: the class was found, then all members
were, and then what is to be kept was made. -/
inductive Succeeds (d : Declaration) (s : H.State) : Binding H → H.State → Prop where
  | intro {plans : List (Operation × Plan)} {c : H.ClassRef} {found looked kept : H.State}
      {rows : List (ResolvedOperation H)} {retained : Retained H} :
      d.plans (ε := H.Failure) = .ok plans →
      Host.classNamed (H := H) d.className s = (.ok c, found) →
      Host.lookupOperations c d.className plans
        (H.note (.resolvedClass d.className plans.length) found) = (.ok rows, looked) →
      Host.retain c d looked = (.ok retained, kept) →
      Succeeds d s (.ofRows d rows retained)
        (H.note (.cachedHandles rows.length d.className d.retention) (H.releaseClass c kept))

theorem succeeds_of_resolve {d : Declaration} {s t : H.State} {b : Binding H}
    (h : Binding.resolve H d s = (.ok b, t)) : Succeeds d s b t := by
  cases hd : d.plans (ε := H.Failure) with
  | error e =>
    rw [resolve_of_invalid hd] at h
    cases h
  | ok plans =>
    cases hc : Host.classNamed (H := H) d.className s with
    | mk answer found =>
      cases answer with
      | error e =>
        rw [resolve_of_missing hd hc] at h
        cases h
      | ok c =>
        rw [resolve_of_found hd hc, upshot] at h
        cases hm : Host.lookupOperations c d.className plans
            (H.note (.resolvedClass d.className plans.length) found) with
        | mk answer looked =>
          rw [hm] at h
          cases answer with
          | error e => cases h
          | ok rows =>
            cases hr : Host.retain c d looked with
            | mk answer kept =>
              simp only [hr] at h
              cases answer with
              | error e => cases h
              | ok retained =>
                cases h
                exact .intro hd hc hm hr

/-- Where nothing but what is to be kept of the class can be in the way, a resolution succeeds or
says that it could not be kept. -/
theorem resolve_of_dropped {d : Declaration} {s t : H.State} {b : Binding H}
    (h : Binding.resolve H { d with retention := .drop } s = (.ok b, t)) :
    (∃ b' t', Binding.resolve H d s = (.ok b', t')) ∨
      ∃ e t', Binding.resolve H d s = (.error (.classNotRetained d.className e), t') := by
  cases succeeds_of_resolve h with
  | @intro plans c found looked _ rows _ hd hc hm _ =>
    rw [resolve_of_found (d := d) hd hc, upshot, hm]
    simp only [Host.retain]
    cases d.retention with
    | drop => exact .inl ⟨_, _, rfl⟩
    | weak =>
      simp only [Action.bind_apply, Action.mapError]
      cases hw : H.weaken c looked with
      | mk answer kept =>
        cases answer with
        | ok w => exact .inl ⟨_, _, rfl⟩
        | error e => exact .inr ⟨e, _, rfl⟩
    | global =>
      simp only [Action.bind_apply, Action.mapError]
      cases hp : H.pin c looked with
      | mk answer kept =>
        cases answer with
        | ok p => exact .inl ⟨_, _, rfl⟩
        | error e => exact .inr ⟨e, _, rfl⟩

/-- A step does not change what a resolution comes to. -/
theorem upshot_advance (d : Declaration) (p : Progress H) (h : H.State) :
    upshot d (advance d p h).1 (advance d p h).2 = upshot d p h := by
  -- Each step is what the whole resolution does next at this point.
  match p with
  | begun =>
    show _ = Binding.resolve H d h
    cases hp : d.plans (ε := H.Failure) with
    | error e => simp only [advance, hp, resolve_of_invalid hp, upshot]
    | ok plans =>
      cases hc : Host.classNamed (H := H) d.className h with
      | mk answer t =>
        cases answer with
        | error e => simp only [advance, hp, hc, resolve_of_missing hp hc, upshot]
        | ok c => simp only [advance, hp, hc, resolve_of_found hp hc]
  -- The member that is found next joins those that were found before.
  | members c found ((op, plan) :: rest) =>
    simp only [advance, upshot, Host.lookupOperations, Action.bind_apply]
    cases ho : Host.lookupOperation c d.className op plan h with
    | mk answer t =>
      cases answer with
      | error e => rfl
      | ok handle =>
        simp only
        cases hm : Host.lookupOperations c d.className rest t with
        | mk answer u =>
          cases answer with
          | error e => rfl
          | ok others =>
            simp only [Action.pure_apply, List.append_assoc, List.cons_append, List.nil_append]
  | members c found [] =>
    simp only [advance, upshot, Host.lookupOperations, Action.pure_apply, List.append_nil]
    cases hr : Host.retain c d h with
    | mk answer t => cases answer <;> rfl
  | leaving c result => rfl
  | finished result => rfl

/-! ## Single steps -/

section Advance

variable {d : Declaration} {h t : H.State} {e : Fault H.Failure} {c : H.ClassRef}
  {found : List (ResolvedOperation H)} {op : Operation} {plan : Plan}
  {rest : List (Operation × Plan)}

theorem advance_begun_of_invalid (hd : d.plans = .error e) :
    advance d begun h = (finished (.error e), h) := by
  simp only [advance, hd]

theorem advance_begun_of_missing {plans : List (Operation × Plan)}
    (hd : d.plans (ε := H.Failure) = .ok plans)
    (hc : Host.classNamed (H := H) d.className h = (.error e, t)) :
    advance d begun h = (finished (.error e), t) := by
  simp only [advance, hd, hc]

theorem advance_begun_of_found {plans : List (Operation × Plan)}
    (hd : d.plans (ε := H.Failure) = .ok plans)
    (hc : Host.classNamed (H := H) d.className h = (.ok c, t)) :
    advance d begun h =
      (members c [] plans, H.note (.resolvedClass d.className plans.length) t) := by
  simp only [advance, hd, hc]

theorem advance_members_of_missing
    (hl : Host.lookupOperation c d.className op plan h = (.error e, t)) :
    advance d (members c found ((op, plan) :: rest)) h = (leaving c (.error e), t) := by
  simp only [advance, hl]

theorem advance_members_of_found {handle : Handle H}
    (hl : Host.lookupOperation c d.className op plan h = (.ok handle, t)) :
    advance d (members c found ((op, plan) :: rest)) h =
      (members c (found ++ [⟨op, handle⟩]) rest, t) := by
  simp only [advance, hl]

theorem advance_members_of_unretained (hr : Host.retain c d h = (.error e, t)) :
    advance d (members c found []) h = (leaving c (.error e), t) := by
  simp only [advance, hr]

theorem advance_members_of_retained {retained : Retained H}
    (hr : Host.retain c d h = (.ok retained, t)) :
    advance d (members c found []) h = (leaving c (.ok (.ofRows d found retained)), t) := by
  simp only [advance, hr]

end Advance

/-! ## Several steps -/

theorem upshot_steps (d : Declaration) (k : Nat) (p : Progress H) (h : H.State) :
    upshot d (steps d k p h).1 (steps d k p h).2 = upshot d p h := by
  induction k generalizing p h with
  | zero => rfl
  | succ k ih => rw [steps_succ, ih, upshot_advance]

/-- What a finished resolution answers is what it came to, in the state that it leaves. -/
theorem upshot_of_steps_eq_finished {d : Declaration} {k : Nat} {p : Progress H}
    {h t : H.State} {result : Except (Fault H.Failure) (Binding H)}
    (hk : steps d k p h = (finished result, t)) : upshot d p h = (result, t) := by
  rw [← upshot_steps d k p h, hk]
  rfl

/-- Each step before the end brings the end nearer. -/
theorem remaining_advance (d : Declaration) (p : Progress H) (h : H.State)
    (hp : ∀ result, p ≠ finished result) :
    remaining d (advance d p h).1 < remaining d p := by
  match p with
  | begun =>
    simp only [advance]
    split
    · simp [remaining]
    · rename_i plans hplans
      have := length_plans hplans
      split <;> simp only [remaining] <;> omega
  | members c found ((op, plan) :: rest) =>
    simp only [advance]
    split <;> simp [remaining]
  | members c found [] =>
    simp only [advance]
    split <;> simp [remaining]
  | leaving c result => simp [advance, remaining]
  | finished result => exact absurd rfl (hp result)

/-- A resolution that nobody interferes with comes to its end. -/
theorem exists_steps_eq_finished (d : Declaration) (p : Progress H) (h : H.State) :
    ∃ k ≤ remaining d p, ∃ result t, steps d k p h = (finished result, t) := by
  -- The induction is on the number of steps that are left at most.
  induction hn : remaining d p using Nat.strongRecOn generalizing p h with
  | ind n ih =>
    by_cases hp : ∃ result, p = finished result
    · obtain ⟨result, rfl⟩ := hp
      exact ⟨0, Nat.zero_le _, result, h, rfl⟩
    · have less : remaining d (advance d p h).1 < n :=
        hn ▸ remaining_advance d p h fun result hr => hp ⟨result, hr⟩
      obtain ⟨k, hk, result, t, hsteps⟩ := ih _ less (advance d p h).1 (advance d p h).2 rfl
      exact ⟨k + 1, by omega, result, t, hsteps⟩

/-- Taken to its end, a resolution answers as `Binding.resolve` does and leaves the same state. -/
theorem exists_steps_eq_resolve (d : Declaration) (h : H.State) :
    ∃ k ≤ d.operations.length + 3,
      steps d k begun h = (finished (Binding.resolve H d h).1, (Binding.resolve H d h).2) := by
  obtain ⟨k, hk, result, t, hsteps⟩ := exists_steps_eq_finished d begun h
  have same : Binding.resolve H d h = (result, t) := upshot_of_steps_eq_finished hsteps
  exact ⟨k, hk, by rw [hsteps, same]⟩

end Progress

end HandleCache

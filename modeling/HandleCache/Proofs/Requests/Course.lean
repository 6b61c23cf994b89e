import HandleCache.Proofs.Requests.Defect
import HandleCache.Proofs.Requests.Table

/-!
# The course of a resolution

What a resolution asks of a host, request by request, and what it answers. A declaration with
something wrong in it is refused, and the host hears nothing. Otherwise the class is looked up, then
each operation by one request, then the lasting reference is made that the declaration asks for; the
first of these that fails is the last but the release, and says what the resolution answers.

## Contents

- `Operation.Missed`: an operation was looked up and is not there
- `Lookups`: operations are looked up one after the other, up to the first that is not there
- `Keeping`: what lasts of the class is made, or cannot be made
- `Course`: the requests of a resolution with its answer

## Main statements

- `course_resolve`: a resolution takes its course on every host
-/

namespace HandleCache

variable {H : Host}

/-! ## The parts of a resolution -/

/-- The operation was looked up in the class `c` by the request of its kind, under its own name and
signature, and is not there. -/
inductive Operation.Missed (className : String) (c : H.ClassRef) (op : Operation) :
    Event H → Fault H.Failure → Prop where
  | method {cause : H.Failure} : op.kind = .constructor ∨ op.kind = .method →
      Missed className c op (.findMethod c op.member op.signature (.error cause))
        (.methodNotFound className op.member op.signature cause)
  | staticMethod {cause : H.Failure} : op.kind = .staticMethod →
      Missed className c op (.findStaticMethod c op.member op.signature (.error cause))
        (.methodNotFound className op.member op.signature cause)
  | field {cause : H.Failure} : op.kind = .field →
      Missed className c op (.findField c op.member op.signature (.error cause))
        (.fieldNotFound className op.member op.signature cause)
  | staticField {cause : H.Failure} : op.kind = .staticField →
      Missed className c op (.findStaticField c op.member op.signature (.error cause))
        (.fieldNotFound className op.member op.signature cause)

/-- Operations are looked up in order by these requests, one each, up to the first that is not
there. -/
inductive Lookups (className : String) (c : H.ClassRef) : List Operation → List (Event H) →
    Except (Fault H.Failure) (List (ResolvedOperation H.recorded)) → Prop where
  | nil : Lookups className c [] [] (.ok [])
  | missed {op : Operation} {rest : List Operation} {e : Event H} {fault : Fault H.Failure} :
      op.Missed className c e fault → Lookups className c (op :: rest) [e] (.error fault)
  | found {op : Operation} {rest : List Operation} {e : Event H} {handle : Handle H.recorded}
      {es : List (Event H)} {a : Except (Fault H.Failure) (List (ResolvedOperation H.recorded))} :
      handle.Looked c op e → Lookups className c rest es a →
      Lookups className c (op :: rest) (e :: es) (a.map (⟨op, handle⟩ :: ·))

/-- What the declaration wants to last of the class `c` is made by these requests, one or none. -/
inductive Keeping (d : Declaration) (c : H.ClassRef) : List (Event H) →
    Except (Fault H.Failure) (Retained H.recorded) → Prop where
  | nothing : d.retention = .drop → Keeping d c [] (.ok .nothing)
  | weakly {w : H.Weak} : d.retention = .weak → Keeping d c [.weaken c (.ok w)] (.ok (.weakly w))
  | notWeakly {cause : H.Failure} : d.retention = .weak →
      Keeping d c [.weaken c (.error cause)] (.error (.classNotRetained d.className cause))
  | pinned {p : H.Pin} : d.retention = .global → Keeping d c [.pin c (.ok p)] (.ok (.pinned p))
  | notPinned {cause : H.Failure} : d.retention = .global →
      Keeping d c [.pin c (.error cause)] (.error (.classNotRetained d.className cause))

/-- The requests of a resolution with its answer. -/
inductive Course (d : Declaration) : List (Event H) →
    Except (Fault H.Failure) (Binding H.recorded) → Prop where
  | refused {fault : Fault H.Failure} : d.Refused fault → Course d [] (.error fault)
  | classMissing {cause : H.Failure} : d.Flawless H.Failure →
      Course d [.findClass d.className (.error cause)] (.error (.classNotFound d.className cause))
  | memberMissing {c : H.ClassRef} {lookups : List (Event H)} {fault : Fault H.Failure} :
      d.Flawless H.Failure → Lookups d.className c d.operations lookups (.error fault) →
      Course d ([.findClass d.className (.ok c)] ++ lookups ++ [.releaseClass c]) (.error fault)
  | notRetained {c : H.ClassRef} {lookups keeping : List (Event H)}
      {rows : List (ResolvedOperation H.recorded)} {fault : Fault H.Failure} :
      d.Flawless H.Failure → Lookups d.className c d.operations lookups (.ok rows) →
      Keeping d c keeping (.error fault) →
      Course d ([.findClass d.className (.ok c)] ++ (lookups ++ keeping) ++ [.releaseClass c])
        (.error fault)
  | resolved {c : H.ClassRef} {lookups keeping : List (Event H)}
      {rows : List (ResolvedOperation H.recorded)} {kept : Retained H.recorded} :
      d.Flawless H.Failure → Lookups d.className c d.operations lookups (.ok rows) →
      Keeping d c keeping (.ok kept) →
      Course d ([.findClass d.className (.ok c)] ++ (lookups ++ keeping) ++ [.releaseClass c])
        (.ok (.ofRows d rows kept))

/-! ## Look-ups -/

section

variable {className : String} {c : H.ClassRef} {op : Operation} {plan : Plan}
  {ops : List Operation} {plans : List (Operation × Plan)} {d : Declaration} {α : Type}

/-- A look-up of one operation has one request, which was answered with a handle or not. -/
abbrev Looking (className : String) (c : H.ClassRef) (op : Operation) (es : List (Event H))
    (a : Except (Fault H.Failure) (Handle H.recorded)) : Prop :=
  (∃ e handle, es = [e] ∧ a = .ok handle ∧ handle.Looked c op e) ∨
    ∃ e fault, es = [e] ∧ a = .error fault ∧ op.Missed className c e fault

theorem trail_handle {y : Action H.State H.Failure α} {event : Except H.Failure α → Event H}
    {told : H.Failure → Fault H.Failure} {kept : α → Handle H.recorded}
    (looked : ∀ id, (kept id).Looked c op (event (.ok id)))
    (missed : ∀ cause, op.Missed className c (event (.error cause)) (told cause)) :
    Trail (do let id ← Action.mapError told (Host.Record.request y event); pure (kept id))
      (Looking className c op) := by
  apply Trail.request_bind
  · exact fun id => .pure (.inl ⟨_, _, rfl, rfl, looked id⟩)
  · exact fun cause => .inr ⟨_, _, rfl, rfl, missed cause⟩

theorem trail_lookupOperation (fits : plan.Fits op) :
    Trail (Host.lookupOperation (H := H.recorded) c className op plan)
      (Looking className c op) := by
  cases fits with
  | constructor kind parsed =>
    exact trail_handle (fun id => .constructor kind parsed) fun _ => .method (.inl kind)
  | method kind parsed =>
    exact trail_handle (fun id => .method kind parsed) fun _ => .method (.inr kind)
  | staticMethod kind parsed =>
    exact trail_handle (fun id => .staticMethod kind parsed) fun _ => .staticMethod kind
  | field kind parsed =>
    exact trail_handle (fun id => .field kind parsed) fun _ => .field kind
  | staticField kind parsed =>
    exact trail_handle (fun id => .staticField kind parsed) fun _ => .staticField kind

/-- Each operation is looked up in its turn, and none behind one that is missing. -/
theorem trail_lookupOperations (same : plans.map (·.1) = ops) (fits : ∀ p ∈ plans, p.2.Fits p.1) :
    Trail (Host.lookupOperations (H := H.recorded) c className plans)
      (Lookups className c ops) := by
  subst same
  induction plans with
  | nil => exact .pure .nil
  | cons first rest ih =>
    obtain ⟨op, plan⟩ := first
    obtain ⟨here, others⟩ := List.forall_mem_cons.mp fits
    apply (trail_lookupOperation here).bind
    · rintro handle es (⟨e, handle, rfl, answer, looked⟩ | ⟨e, fault, -, answer, -⟩)
      · cases answer
        apply (ih others).bind
        · intro rows es found
          apply Trail.pure
          rw [List.append_nil]
          exact .found looked found
        · exact fun fault es missed => .found looked missed
      · cases answer
    · rintro fault es (⟨e, handle, -, answer, -⟩ | ⟨e, fault, rfl, answer, missed⟩)
      · cases answer
      · cases answer
        exact .missed missed

theorem trail_retain : Trail (Host.retain (H := H.recorded) c d) (Keeping d c) := by
  unfold Host.retain
  cases kind : d.retention with
  | drop => exact .pure (.nothing kind)
  | weak =>
    apply Trail.request_bind
    · exact fun w => .pure (.weakly kind)
    · exact fun cause => .notWeakly kind
  | global =>
    apply Trail.request_bind
    · exact fun p => .pure (.pinned kind)
    · exact fun cause => .notPinned kind

end

/-! ## Resolutions -/

/-- On every host and for every declaration: a resolution makes the requests of its course, and
answers what belongs to them. -/
theorem course_resolve (H : Host) (d : Declaration) :
    Trail (Binding.resolve H.recorded d) (Course d) := by
  unfold Binding.resolve
  apply Trail.ofExcept_bind
  · intro plans checked
    obtain ⟨same, fits⟩ := fits_of_plans checked
    have flawless := Declaration.flawless_of_plans checked
    -- What the scope answers becomes the binding, and a fault in it stays what it is.
    apply Trail.bind
      (P := fun es a => Course d es (a.map fun found => .ofRows d found.1 found.2))
    · apply Trail.asked.bracket
      · rintro c es ⟨answer, rfl, told⟩
        cases answer with
        | error cause => cases told
        | ok c' =>
          cases told
          apply Trail.tell_bind
          apply (trail_lookupOperations same fits).bind
          · intro rows lookups found
            apply trail_retain.bind
            · intro kept keeping retained
              apply Trail.pure
              rw [List.append_nil]
              exact .resolved flawless found retained
            · exact fun fault keeping refused => .notRetained flawless found refused
          · exact fun fault lookups missed => .memberMissing flawless missed
      · rintro fault es ⟨answer, rfl, told⟩
        cases answer with
        | ok c => cases told
        | error cause =>
          cases told
          exact .classMissing flawless
    · intro found es resolved
      apply Trail.tell_bind
      apply Trail.pure
      rw [List.append_nil]
      exact resolved
    · exact fun fault es stopped => stopped
  · intro fault wrong
    exact .refused (Declaration.plans_eq_error_iff.mp wrong)

end HandleCache

import HandleCache.Outcome
import HandleCache.Proofs.Requests.Custody
import Mathlib.Data.List.Forall2

/-!
# Where the table of a binding comes from

A resolution finds the class and then asks for each operation of the declaration in turn, under the
name and the signature that the declaration has for it. So the table that comes out of it is read
off the requests that were made: the handle in the row of an operation is the answer to the request
for this operation and to no other.

## Contents

- `Handle.Looked`: a handle is what the host answered when an operation was looked up
- `Established`: a table comes from the requests of a resolution

## Main statements

- `fits_of_plans`: the plans of a declaration are for its operations, in order
- `established_resolve`: a resolution that succeeds establishes its table
-/

namespace HandleCache

variable {H : Host} {ε ε' α β : Type}

/-! ## Handles -/

/-- The handle is what the host answered when the operation was looked up in the class `c`, and its
descriptor is what the signature of the operation spells. -/
inductive Handle.Looked (c : H.ClassRef) (op : Operation) : Handle H.recorded → Event H → Prop where
  | constructor {id : H.MethodId} {d : MethodDescriptor} :
      op.kind = .constructor → MethodDescriptor.parse op.signature = .ok d →
      Looked c op (.constructor id d) (.findMethod c op.member op.signature (.ok id))
  | method {id : H.MethodId} {d : MethodDescriptor} :
      op.kind = .method → MethodDescriptor.parse op.signature = .ok d →
      Looked c op (.method id d) (.findMethod c op.member op.signature (.ok id))
  | staticMethod {id : H.StaticMethodId} {d : MethodDescriptor} :
      op.kind = .staticMethod → MethodDescriptor.parse op.signature = .ok d →
      Looked c op (.staticMethod id d) (.findStaticMethod c op.member op.signature (.ok id))
  | field {id : H.FieldId} {d : FieldDescriptor} :
      op.kind = .field → FieldDescriptor.parse op.signature = .ok d →
      Looked c op (.field id d) (.findField c op.member op.signature (.ok id))
  | staticField {id : H.StaticFieldId} {d : FieldDescriptor} :
      op.kind = .staticField → FieldDescriptor.parse op.signature = .ok d →
      Looked c op (.staticField id d) (.findStaticField c op.member op.signature (.ok id))

/-- A plan is for the kind of the operation, under the descriptor that its signature spells. -/
inductive Plan.Fits (op : Operation) : Plan → Prop where
  | constructor {d : MethodDescriptor} : op.kind = .constructor →
      MethodDescriptor.parse op.signature = .ok d → Fits op (.constructor d)
  | method {d : MethodDescriptor} : op.kind = .method →
      MethodDescriptor.parse op.signature = .ok d → Fits op (.method d)
  | staticMethod {d : MethodDescriptor} : op.kind = .staticMethod →
      MethodDescriptor.parse op.signature = .ok d → Fits op (.staticMethod d)
  | field {d : FieldDescriptor} : op.kind = .field →
      FieldDescriptor.parse op.signature = .ok d → Fits op (.field d)
  | staticField {d : FieldDescriptor} : op.kind = .staticField →
      FieldDescriptor.parse op.signature = .ok d → Fits op (.staticField d)

theorem Operation.fits_of_plan {op : Operation} {className : String} {plan : Plan}
    (h : op.plan (ε := ε) className = .ok plan) : plan.Fits op := by
  unfold Operation.plan at h
  split at h
  · next kind =>
    cases hd : op.methodDescriptor (ε := ε) className with
    | error e => rw [hd] at h; cases h
    | ok d =>
      simp only [hd, bind, Except.bind] at h
      split at h
      · cases h
        exact .constructor kind (eq_ok_of_mapError hd)
      · cases h
  · next kind =>
    obtain ⟨d, hd, rfl⟩ := exists_of_map_eq_ok h
    exact .method kind (eq_ok_of_mapError hd)
  · next kind =>
    obtain ⟨d, hd, rfl⟩ := exists_of_map_eq_ok h
    exact .staticMethod kind (eq_ok_of_mapError hd)
  · next kind =>
    obtain ⟨d, hd, rfl⟩ := exists_of_map_eq_ok h
    exact .field kind (eq_ok_of_mapError hd)
  · next kind =>
    obtain ⟨d, hd, rfl⟩ := exists_of_map_eq_ok h
    exact .staticField kind (eq_ok_of_mapError hd)

/-- A declaration that is well formed has a fitting plan for each of its operations, in order. -/
theorem fits_of_plans {className : String} {earlier : List String} {ops : List Operation}
    {plans : List (Operation × Plan)}
    (h : Operation.plans (ε := ε) className earlier ops = .ok plans) :
    plans.map (·.1) = ops ∧ ∀ p ∈ plans, p.2.Fits p.1 := by
  induction ops generalizing earlier plans with
  | nil =>
    cases h
    exact ⟨rfl, by simp⟩
  | cons op rest ih =>
    obtain ⟨-, plan, others, planned, behind, rfl⟩ := Operation.plans_cons_eq_ok h
    obtain ⟨same, fits⟩ := ih behind
    refine ⟨by rw [List.map_cons, same], fun p hp => ?_⟩
    rcases List.mem_cons.mp hp with rfl | hp
    · exact Operation.fits_of_plan planned
    · exact fits p hp

/-! ## Resolutions -/

/-- The class was found as `c`, and then these rows were looked up in it, one request each. -/
def Rows (d : Declaration) (c : H.ClassRef) (rows : List (ResolvedOperation H.recorded))
    (es : List (Event H)) : Prop :=
  ∃ lookups, es = .findClass d.className (.ok c) :: lookups ∧
    List.Forall₂ (fun r e => r.handle.Looked c r.operation e) rows lookups

/-- The table of a binding has a row for each operation of the declaration, in order, and comes from
the requests that the resolution began with. -/
structure Established (d : Declaration) (b : Binding H.recorded) (es : List (Event H)) : Prop where
  declared : b.operations = d.operations
  distinct : (d.operations.map (·.name)).Nodup
  looked : ∃ c asked, Rows d c b.resolved asked ∧ asked <+: es

variable {d : Declaration} {c : H.ClassRef} {rows : List (ResolvedOperation H.recorded)}

theorem ensures_handle {op : Operation} {y : Action H.State H.Failure α}
    {event : Except H.Failure α → Event H} {told : H.Failure → Fault H.Failure}
    {kept : α → Handle H.recorded} (looked : ∀ id, (kept id).Looked c op (event (.ok id))) :
    Ensures (Rows d c rows)
      (do let id ← Action.mapError told (Host.Record.request y event); pure (kept id))
      (fun handle => Rows d c (rows ++ [⟨op, handle⟩])) fun _ => True := by
  refine Ensures.bind (F := fun id => Rows d c (rows ++ [⟨op, kept id⟩]))
    (.mapError (.request ?_ fun _ _ _ => trivial)) fun id => .pure fun _ known => known
  rintro id _ ⟨lookups, rfl, all⟩
  exact ⟨lookups ++ [event (.ok id)], rfl, List.rel_append all (.cons (looked id) .nil)⟩

/-- An operation is looked up by one request, that of its kind. -/
theorem ensures_lookupOperation {op : Operation} {plan : Plan} (fits : plan.Fits op) :
    Ensures (Rows d c rows) (Host.lookupOperation (H := H.recorded) c d.className op plan)
      (fun handle => Rows d c (rows ++ [⟨op, handle⟩])) fun _ => True := by
  cases fits with
  | constructor kind parsed => exact ensures_handle fun id => .constructor kind parsed
  | method kind parsed => exact ensures_handle fun id => .method kind parsed
  | staticMethod kind parsed => exact ensures_handle fun id => .staticMethod kind parsed
  | field kind parsed => exact ensures_handle fun id => .field kind parsed
  | staticField kind parsed => exact ensures_handle fun id => .staticField kind parsed

theorem ensures_lookupOperations {plans : List (Operation × Plan)}
    (fits : ∀ p ∈ plans, p.2.Fits p.1) :
    Ensures (Rows d c rows) (Host.lookupOperations (H := H.recorded) c d.className plans)
      (fun found es => found.map (·.operation) = plans.map (·.1) ∧ Rows d c (rows ++ found) es)
      fun _ => True := by
  induction plans generalizing rows with
  | nil => exact .pure fun es known => ⟨rfl, by rwa [List.append_nil]⟩
  | cons first rest ih =>
    obtain ⟨op, plan⟩ := first
    refine (ensures_lookupOperation (fits (op, plan) List.mem_cons_self)).bind fun handle => ?_
    refine (ih fun p hp => fits p (List.mem_cons_of_mem _ hp)).bind fun others => .pure ?_
    rintro es ⟨names, known⟩
    rw [List.append_assoc] at known
    exact ⟨by rw [List.map_cons, names]; rfl, known⟩

/-- Whatever is made to last of the class, this takes a request more or none. -/
theorem ensures_retain {K F : List (Event H) → Prop}
    (kept : ∀ es more, K es → F (es ++ more)) :
    Ensures K (Host.retain (H := H.recorded) c d) (fun _ => F) fun _ => True := by
  unfold Host.retain
  cases d.retention with
  | drop => exact .pure fun es known => by simpa using kept es [] known
  | weak =>
    exact Ensures.bind (F := fun _ => F)
      (.mapError (.request (fun _ es => kept es _) fun _ _ _ => trivial)) fun _ =>
      .pure fun _ known => known
  | global =>
    exact Ensures.bind (F := fun _ => F)
      (.mapError (.request (fun _ es => kept es _) fun _ _ _ => trivial)) fun _ =>
      .pure fun _ known => known

/-- A resolution that succeeds establishes the table that it answers with. -/
theorem established_resolve (d : Declaration) :
    Ensures (· = []) (Binding.resolve H.recorded d) (Established d) fun _ => True := by
  unfold Binding.resolve
  refine .ofExcept_bind (fun plans hplans => ?_) fun _ _ => trivial
  obtain ⟨same, fits⟩ := fits_of_plans hplans
  refine Ensures.bind (F := fun p es => p.1.map (·.operation) = d.operations ∧
    ∃ c asked, Rows d c p.1 asked ∧ asked <+: es) ?_ fun p =>
      .tell_bind (.pure fun es known =>
        ⟨known.1, Declaration.nodup_of_plans hplans, known.2⟩)
  refine .bracket (F := fun c => Rows d c []) (.mapError (.request ?_ fun _ _ _ => trivial))
    fun c => .tell_bind ?_
  · rintro c _ rfl
    exact ⟨[], rfl, .nil⟩
  refine (ensures_lookupOperations fits).bind fun found => ?_
  -- The retention and then the release come after the rows and leave them as they are.
  refine (ensures_retain (F := fun es => found.map (·.operation) = d.operations ∧
    ∃ asked, Rows d c found asked ∧ asked <+: es) ?_).bind fun _ => .pure ?_
  · rintro es more ⟨names, rows⟩
    exact ⟨names.trans same, es, rows, List.prefix_append es more⟩
  · rintro es ⟨names, asked, rows, before⟩
    exact ⟨names, c, asked, rows, before.trans (List.prefix_append es _)⟩

end HandleCache

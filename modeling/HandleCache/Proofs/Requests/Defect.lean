import HandleCache.Binding.Resolve
import HandleCache.Outcome

/-!
# What is wrong with a declaration

A declaration is refused for the first of its operations that has something wrong with it. One
operation can have several things wrong, and then a taken name is told before a signature, and a
signature before the result of a constructor.

## Contents

- `Operation.Unfit`: an operation that cannot be looked up as what it is declared to be
- `Operation.Defect`: what is wrong with an operation behind those before it
- `FirstDefect`, `Declaration.Refused`, `Declaration.Flawless`: what is wrong first, if anything is
- `Operation.ReturnsNothing`: the signature is that of a constructor

## Main statements

- `Declaration.plans_eq_error_iff`: the check of a declaration finds what is wrong first
-/

namespace HandleCache

variable {ε : Type}

/-! ## Single operations -/

/-- The operation cannot be looked up as what it is declared to be: its signature is not of the form
that its kind needs, or it is a constructor with a result. -/
inductive Operation.Unfit (className : String) (op : Operation) : Fault ε → Prop where
  | methodSignature {e : Descriptor.ParseError} : op.kind.isCallable = true →
      MethodDescriptor.parse op.signature = .error e →
      Unfit className op (.invalidSignature className op.name e.message)
  | fieldSignature {e : Descriptor.ParseError} : op.kind.isCallable = false →
      FieldDescriptor.parse op.signature = .error e →
      Unfit className op (.invalidSignature className op.name e.message)
  | result {t : MethodDescriptor} : op.kind = .constructor →
      MethodDescriptor.parse op.signature = .ok t → t.result ≠ .primitive .void →
      Unfit className op (.constructorWithResult className op.name op.signature)

/-- What is wrong with an operation behind those before it: its name is taken, or it is unfit. -/
inductive Operation.Defect (className : String) (earlier : List Operation) (op : Operation) :
    Fault ε → Prop where
  | duplicate : (∃ other ∈ earlier, other.name = op.name) →
      Defect className earlier op (.duplicateOperation className op.name)
  | unfit {fault : Fault ε} : (∀ other ∈ earlier, other.name ≠ op.name) →
      op.Unfit className fault → Defect className earlier op fault

namespace Operation

variable {op : Operation} {className : String} {fault : Fault ε}

theorem methodDescriptor_eq_error {e : Descriptor.ParseError}
    (h : MethodDescriptor.parse op.signature = .error e) :
    op.methodDescriptor (ε := ε) className =
      .error (.invalidSignature className op.name e.message) := by
  rw [methodDescriptor, h]
  rfl

theorem fieldDescriptor_eq_error {e : Descriptor.ParseError}
    (h : FieldDescriptor.parse op.signature = .error e) :
    op.fieldDescriptor (ε := ε) className =
      .error (.invalidSignature className op.name e.message) := by
  rw [fieldDescriptor, h]
  rfl

theorem methodDescriptor_eq_ok {t : MethodDescriptor}
    (h : MethodDescriptor.parse op.signature = .ok t) :
    op.methodDescriptor (ε := ε) className = .ok t := by
  rw [methodDescriptor, h]
  rfl

theorem fieldDescriptor_eq_ok {t : FieldDescriptor}
    (h : FieldDescriptor.parse op.signature = .ok t) :
    op.fieldDescriptor (ε := ε) className = .ok t := by
  rw [fieldDescriptor, h]
  rfl

theorem unfit_of_methodDescriptor (callable : op.kind.isCallable = true)
    (h : op.methodDescriptor className = .error fault) : op.Unfit className fault := by
  obtain ⟨e, parsed, rfl⟩ := exists_of_mapError_eq_error h
  exact .methodSignature callable parsed

theorem unfit_of_fieldDescriptor (callable : op.kind.isCallable = false)
    (h : op.fieldDescriptor className = .error fault) : op.Unfit className fault := by
  obtain ⟨e, parsed, rfl⟩ := exists_of_mapError_eq_error h
  exact .fieldSignature callable parsed

theorem unfit_of_plan (h : op.plan className = .error fault) : op.Unfit className fault := by
  unfold plan at h
  split at h
  · next kind =>
    cases hd : op.methodDescriptor (ε := ε) className with
    | error e =>
      rw [hd] at h
      cases h
      exact unfit_of_methodDescriptor (by rw [kind]; rfl) hd
    | ok t =>
      simp only [hd, bind, Except.bind] at h
      split at h
      · cases h
      · next result =>
        cases h
        exact .result kind (eq_ok_of_mapError hd) (by simpa using result)
  · next kind => exact unfit_of_methodDescriptor (by rw [kind]; rfl) (eq_error_of_map h)
  · next kind => exact unfit_of_methodDescriptor (by rw [kind]; rfl) (eq_error_of_map h)
  · next kind => exact unfit_of_fieldDescriptor (by rw [kind]; rfl) (eq_error_of_map h)
  · next kind => exact unfit_of_fieldDescriptor (by rw [kind]; rfl) (eq_error_of_map h)

/-- There is no plan for an operation exactly if it is unfit. -/
theorem plan_eq_error_iff : op.plan className = .error fault ↔ op.Unfit className fault := by
  constructor
  · exact unfit_of_plan
  · intro h
    unfold plan
    cases h with
    | methodSignature callable parsed =>
      have refused : op.methodDescriptor (ε := ε) className = .error _ :=
        methodDescriptor_eq_error parsed
      cases kind : op.kind with
      | constructor | method | staticMethod => simp only [refused]; rfl
      | field | staticField => simp [kind, OperationKind.isCallable] at callable
    | fieldSignature callable parsed =>
      have refused : op.fieldDescriptor (ε := ε) className = .error _ :=
        fieldDescriptor_eq_error parsed
      cases kind : op.kind with
      | constructor | method | staticMethod => simp [kind, OperationKind.isCallable] at callable
      | field | staticField => simp only [refused]; rfl
    | result kind parsed hasResult =>
      simp [kind, methodDescriptor_eq_ok parsed, bind, Except.bind, hasResult]

end Operation

/-! ## Whole declarations -/

/-- What is wrong first with operations behind those `earlier`: nothing is wrong with those in front
of it. -/
inductive FirstDefect (className : String) : (earlier : List Operation) → List Operation →
    Fault ε → Prop where
  | here {earlier : List Operation} {op : Operation} {rest : List Operation} {fault : Fault ε} :
      op.Defect className earlier fault → FirstDefect className earlier (op :: rest) fault
  | later {earlier : List Operation} {op : Operation} {rest : List Operation} {fault : Fault ε} :
      (∀ other : Fault ε, ¬op.Defect className earlier other) →
      FirstDefect className (earlier ++ [op]) rest fault →
      FirstDefect className earlier (op :: rest) fault

/-- The declaration is refused for what is wrong with it first. -/
def Declaration.Refused (d : Declaration) (fault : Fault ε) : Prop :=
  FirstDefect d.className [] d.operations fault

/-- Nothing is wrong with the declaration, for a host whose own failures are `ε`. -/
def Declaration.Flawless (ε : Type) (d : Declaration) : Prop := ∀ fault : Fault ε, ¬d.Refused fault

section

variable {className : String} {earlier ops rest : List Operation} {op : Operation}
  {names : List String} {fault : Fault ε}

theorem Operation.defect_iff_of_taken (taken : ∃ other ∈ earlier, other.name = op.name) :
    op.Defect className earlier fault ↔ fault = .duplicateOperation className op.name := by
  constructor
  · intro h
    cases h with
    | duplicate => rfl
    | unfit fresh _ =>
      obtain ⟨other, before, same⟩ := taken
      exact absurd same (fresh other before)
  · rintro rfl
    exact .duplicate taken

theorem Operation.defect_iff_of_fresh (fresh : ∀ other ∈ earlier, other.name ≠ op.name) :
    op.Defect className earlier fault ↔ op.plan className = .error fault := by
  rw [Operation.plan_eq_error_iff]
  constructor
  · intro h
    cases h with
    | duplicate taken =>
      obtain ⟨other, before, same⟩ := taken
      exact absurd same (fresh other before)
    | unfit _ unfit => exact unfit
  · exact .unfit fresh

theorem firstDefect_cons_iff : FirstDefect className earlier (op :: rest) fault ↔
    op.Defect className earlier fault ∨
      (∀ other : Fault ε, ¬op.Defect className earlier other) ∧
        FirstDefect className (earlier ++ [op]) rest fault := by
  constructor
  · intro h
    cases h with
    | here h => exact .inl h
    | later sound h => exact .inr ⟨sound, h⟩
  · rintro (h | ⟨sound, h⟩)
    · exact .here h
    · exact .later sound h

/-- A check of fresh operations goes on behind one that there is a plan for. -/
theorem Operation.plans_cons_eq_error_iff (fresh : op.name ∉ names) :
    Operation.plans className names (op :: rest) = .error fault ↔
      op.plan className = .error fault ∨
        (∀ other : Fault ε, op.plan className ≠ .error other) ∧
          Operation.plans className (op.name :: names) rest = .error fault := by
  rw [Operation.plans, if_neg fresh]
  cases op.plan (ε := ε) className with
  | error e => simp [bind, Except.bind]
  | ok plan =>
    cases Operation.plans (ε := ε) className (op.name :: names) rest with
    | error e => simp [bind, Except.bind]
    | ok others => simp [bind, Except.bind]

/-- The check of operations finds what is wrong first, whatever the order in which the names are
kept that are taken. -/
theorem Operation.plans_eq_error_iff
    (kept : ∀ name, name ∈ names ↔ ∃ other ∈ earlier, other.name = name) :
    Operation.plans className names ops = .error fault ↔
      FirstDefect className earlier ops fault := by
  induction ops generalizing earlier names with
  | nil =>
    constructor
    · intro h
      cases h
    · intro h
      cases h
  | cons op rest ih =>
    have kept' (name : String) :
        name ∈ op.name :: names ↔ ∃ other ∈ earlier ++ [op], other.name = name := by
      simp [kept, or_comm, or_and_right, exists_or, eq_comm]
    rw [firstDefect_cons_iff]
    by_cases taken : op.name ∈ names
    · have defect (other : Fault ε) : op.Defect className earlier other ↔
          other = .duplicateOperation className op.name :=
        Operation.defect_iff_of_taken ((kept op.name).mp taken)
      rw [Operation.plans, if_pos taken]
      simp [defect, eq_comm]
    · have fresh : ∀ other ∈ earlier, other.name ≠ op.name := fun other before same =>
        taken ((kept op.name).mpr ⟨other, before, same⟩)
      rw [Operation.plans_cons_eq_error_iff taken, ih kept']
      simp only [Operation.defect_iff_of_fresh fresh, ne_eq]

/-- The check of a declaration finds what is wrong with it first. -/
theorem Declaration.plans_eq_error_iff {d : Declaration} {fault : Fault ε} :
    d.plans = .error fault ↔ d.Refused fault :=
  Operation.plans_eq_error_iff (by simp)

/-- A declaration has plans only if nothing is wrong with it. -/
theorem Declaration.flawless_of_plans {d : Declaration} {plans : List (Operation × Plan)}
    (h : d.plans (ε := ε) = .ok plans) : d.Flawless ε := by
  intro fault refused
  rw [Declaration.plans_eq_error_iff.mpr refused] at h
  cases h

end

/-! ## Constructors -/

/-- The signature is a method descriptor without a result. -/
def Operation.ReturnsNothing (op : Operation) : Prop :=
  ∃ t, MethodDescriptor.parse op.signature = .ok t ∧ t.result = .primitive .void

theorem Operation.returnsNothing_of_plan {op : Operation} {className : String} {plan : Plan}
    (planned : op.plan (ε := ε) className = .ok plan) (kind : op.kind = .constructor) :
    op.ReturnsNothing := by
  have fit : ∀ fault : Fault ε, ¬op.Unfit className fault := by
    intro fault unfit
    rw [Operation.plan_eq_error_iff.mpr unfit] at planned
    cases planned
  cases parsed : MethodDescriptor.parse op.signature with
  | error e => exact absurd (.methodSignature (by rw [kind]; rfl) parsed) (fit _)
  | ok t =>
    refine ⟨t, parsed, Decidable.byContradiction fun hasResult => ?_⟩
    exact fit _ (.result kind parsed hasResult)

/-- In operations that there are plans for, no constructor has a result. -/
theorem Operation.returnsNothing_of_plans {className : String} {earlier : List String}
    {ops : List Operation} {all : List (Operation × Plan)}
    (h : Operation.plans (ε := ε) className earlier ops = .ok all) :
    ∀ op ∈ ops, op.kind = .constructor → op.ReturnsNothing := by
  induction ops generalizing earlier all with
  | nil => simp
  | cons op rest ih =>
    obtain ⟨-, plan, others, planned, behind, -⟩ := Operation.plans_cons_eq_ok h
    intro other mem
    rcases List.mem_cons.mp mem with rfl | mem
    · exact Operation.returnsNothing_of_plan planned
    · exact ih behind other mem

end HandleCache

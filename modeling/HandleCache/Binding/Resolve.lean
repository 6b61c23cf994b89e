import HandleCache.Binding.Basic
import HandleCache.Descriptor.Parser

/-!
# Resolving a declaration

A declaration is checked as a whole before the host is asked for anything. Then the class is
looked up, each operation in turn, and the reference that the declaration asks for is made. The
class reference that this takes is given back in the end, whatever happened in between.

## Contents

- `Plan`, `Operation.plan`: an operation that can be looked up, with its descriptor
- `Declaration.plans`: the check of a whole declaration
- `Binding.resolve`: the table, or the first thing that is missing

## Main statements

- `Operation.nodup_of_plans`: the logical names of operations that there are plans for are distinct
-/

namespace HandleCache

/-! ## Checking a declaration -/

/-- How an operation is to be looked up: by its kind, under a descriptor of the form that its kind
needs. -/
inductive Plan where
  | constructor (descriptor : MethodDescriptor)
  | method (descriptor : MethodDescriptor)
  | staticMethod (descriptor : MethodDescriptor)
  | field (descriptor : FieldDescriptor)
  | staticField (descriptor : FieldDescriptor)
  deriving DecidableEq, Repr

variable {H : Host}

namespace Operation

/-- The method descriptor that the signature stands for. -/
def methodDescriptor {ε : Type} (op : Operation) (className : String) :
    Except (Fault ε) MethodDescriptor :=
  (MethodDescriptor.parse op.signature).mapError fun e =>
    .invalidSignature className op.name e.message

/-- The field descriptor that the signature stands for. -/
def fieldDescriptor {ε : Type} (op : Operation) (className : String) :
    Except (Fault ε) FieldDescriptor :=
  (FieldDescriptor.parse op.signature).mapError fun e =>
    .invalidSignature className op.name e.message

/-- How an operation of a class is to be looked up; a constructor must have no result. -/
def plan {ε : Type} (op : Operation) (className : String) : Except (Fault ε) Plan :=
  match op.kind with
  | .constructor => do
    let d ← op.methodDescriptor className
    if d.result.isVoid then .ok (.constructor d)
    else .error (.constructorWithResult className op.name op.signature)
  | .method => (op.methodDescriptor className).map .method
  | .staticMethod => (op.methodDescriptor className).map .staticMethod
  | .field => (op.fieldDescriptor className).map .field
  | .staticField => (op.fieldDescriptor className).map .staticField

/-- The plans of operations in order; `earlier` are the logical names that are taken. -/
def plans {ε : Type} (className : String) :
    (earlier : List String) → List Operation → Except (Fault ε) (List (Operation × Plan))
  | _, [] => .ok []
  | earlier, op :: rest =>
    -- A name that is taken is a fault even if the signature is one as well.
    if op.name ∈ earlier then .error (.duplicateOperation className op.name)
    else do
      let plan ← op.plan className
      let others ← plans className (op.name :: earlier) rest
      .ok ((op, plan) :: others)

/-- There are plans for operations if the first has a fresh name and a plan, and the others have
plans behind it. -/
theorem plans_cons_eq_ok {ε : Type} {className : String} {earlier : List String} {op : Operation}
    {rest : List Operation} {all : List (Operation × Plan)}
    (h : plans (ε := ε) className earlier (op :: rest) = .ok all) :
    op.name ∉ earlier ∧ ∃ plan others, op.plan (ε := ε) className = .ok plan ∧
      plans (ε := ε) className (op.name :: earlier) rest = .ok others ∧
      all = (op, plan) :: others := by
  unfold plans at h
  split at h
  · cases h
  · next fresh =>
    cases hplan : op.plan (ε := ε) className with
    | error e => rw [hplan] at h; cases h
    | ok plan =>
      cases hothers : plans (ε := ε) className (op.name :: earlier) rest with
      | error e => rw [hplan, hothers] at h; cases h
      | ok others =>
        rw [hplan, hothers] at h
        cases h
        exact ⟨fresh, plan, others, rfl, rfl, rfl⟩

/-- Operations that there are plans for have names of their own, and none that was taken. -/
theorem nodup_of_plans {ε : Type} {className : String} {earlier : List String}
    {ops : List Operation} {all : List (Operation × Plan)}
    (h : plans (ε := ε) className earlier ops = .ok all) :
    (ops.map (·.name)).Nodup ∧ ∀ op ∈ ops, op.name ∉ earlier := by
  -- By induction on the operations: each name is taken for all that come behind it.
  induction ops generalizing earlier all with
  | nil => simp
  | cons op rest ih =>
    obtain ⟨fresh, plan, others, -, behind, -⟩ := plans_cons_eq_ok h
    obtain ⟨distinct, apart⟩ := ih behind
    have unlike : ∀ other ∈ rest, other.name ≠ op.name := fun other mem same =>
      apart other mem (by simp [same])
    have notTaken : ∀ other ∈ rest, other.name ∉ earlier := fun other mem taken =>
      apart other mem (by simp [taken])
    simp only [List.map_cons, List.nodup_cons, List.mem_map, List.forall_mem_cons]
    exact ⟨⟨fun ⟨other, mem, same⟩ => unlike other mem same, distinct⟩, fresh, notTaken⟩

end Operation

/-- The plans of all operations of a declaration, or the first fault in it. -/
def Declaration.plans {ε : Type} (d : Declaration) : Except (Fault ε) (List (Operation × Plan)) :=
  Operation.plans d.className [] d.operations

theorem Declaration.nodup_of_plans {ε : Type} {d : Declaration} {all : List (Operation × Plan)}
    (h : d.plans (ε := ε) = .ok all) : (d.operations.map (·.name)).Nodup :=
  (Operation.nodup_of_plans h).1

/-! ## Asking the host -/

namespace Host

/-- Looks a class up by name. -/
def classNamed (name : String) : H.Request H.ClassRef :=
  Action.mapError (.classNotFound name) (H.findClass name)

/-- Looks one operation up, by the request of its kind. -/
def lookupOperation (c : H.ClassRef) (className : String) (op : Operation) (plan : Plan) :
    H.Request (Handle H) :=
  let noMethod := Fault.methodNotFound className op.member op.signature
  let noField := Fault.fieldNotFound className op.member op.signature
  match plan with
  | .constructor d => do
    let id ← Action.mapError noMethod (H.findMethod c op.member op.signature)
    pure (.constructor id d)
  | .method d => do
    let id ← Action.mapError noMethod (H.findMethod c op.member op.signature)
    pure (.method id d)
  | .staticMethod d => do
    let id ← Action.mapError noMethod (H.findStaticMethod c op.member op.signature)
    pure (.staticMethod id d)
  | .field d => do
    let id ← Action.mapError noField (H.findField c op.member op.signature)
    pure (.field id d)
  | .staticField d => do
    let id ← Action.mapError noField (H.findStaticField c op.member op.signature)
    pure (.staticField id d)

/-- Looks operations up in order, up to the first that is missing. -/
def lookupOperations (c : H.ClassRef) (className : String) :
    List (Operation × Plan) → H.Request (List (ResolvedOperation H))
  | [] => pure []
  | (op, plan) :: rest => do
    let handle ← lookupOperation c className op plan
    let others ← lookupOperations c className rest
    pure (⟨op, handle⟩ :: others)

/-- Makes the lasting reference that a declaration asks for. -/
def retain (c : H.ClassRef) (d : Declaration) : H.Request (Retained H) :=
  match d.retention with
  | .drop => pure .nothing
  | .weak => do
    let w ← Action.mapError (.classNotRetained d.className) (H.weaken c)
    pure (.weakly w)
  | .global => do
    let p ← Action.mapError (.classNotRetained d.className) (H.pin c)
    pure (.pinned p)

end Host

/-- Resolves a declaration: every operation, and the lasting reference if one is asked for. -/
def Binding.resolve (H : Host) (d : Declaration) : H.Request (Binding H) := do
  -- The host is not asked for anything unless the whole declaration is well formed.
  let plans ← Action.ofExcept d.plans
  let (resolved, retained) ←
    Action.bracket (Host.classNamed d.className) H.releaseClass fun c => do
      Host.tell (.resolvedClass d.className plans.length)
      let resolved ← Host.lookupOperations c d.className plans
      let retained ← Host.retain c d
      pure (resolved, retained)
  -- The reference is given back by now.
  Host.tell (.cachedHandles resolved.length d.className d.retention)
  pure (.ofRows d resolved retained)

end HandleCache

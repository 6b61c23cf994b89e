import HandleCache.Binding.Ask

/-!
# Without a table

What a program does that keeps no table: for each request it looks up the class by name and the
member in it, makes the call and gives the class back.

## Contents

- `Declaration.named`: the operation that is asked for
- `Declaration.withMember`: a class and a member of it for the length of their use
- `Declaration.uncached`: what is done instead of asking a binding
-/

namespace HandleCache

namespace Declaration

variable {H : Host} {ε α ι : Type}

/-- The operation of this logical name, or the fault that there is none. -/
def named (d : Declaration) (name : String) : Except (Fault ε) Operation :=
  match d.operation? name with
  | some op => .ok op
  | none => .error (.unknownOperation d.className name)

/-- Looks the class up by name and then, by the request `find`, the member that an operation stands
for. The class is given back after their use. -/
def withMember (d : Declaration) (op : Operation)
    (find : H.ClassRef → String → String → Action H.State H.Failure ι)
    (use : H.ClassRef → ι → H.Request α) : H.Request α :=
  Action.bracket (Host.classNamed d.className) H.releaseClass fun c => do
    let id ← Host.direct (find c op.member op.signature)
    use c id

/-- What is done instead of asking a binding. Nothing is checked but that the operation is declared
and has a descriptor of the form that the request needs. -/
def uncached (d : Declaration) : Ask H → H.Request (Reply H)
  | .call _ name o args => do
    let op ← Action.ofExcept (d.named name)
    let t ← Action.ofExcept (op.methodDescriptor d.className)
    d.withMember op H.findMethod fun _ id => do
      return .value (← Host.direct (H.callMethod o id t args))
  | .callStatic name args => do
    let op ← Action.ofExcept (d.named name)
    let t ← Action.ofExcept (op.methodDescriptor d.className)
    d.withMember op H.findStaticMethod fun c id => do
      return .value (← Host.direct (H.callStatic c id t args))
  | .create name args => do
    let op ← Action.ofExcept (d.named name)
    let t ← Action.ofExcept (op.methodDescriptor d.className)
    d.withMember op H.findMethod fun c id => do
      return .object (← Host.direct (H.newObject c id t args))
  | .read _ name o => do
    let op ← Action.ofExcept (d.named name)
    let t ← Action.ofExcept (op.fieldDescriptor d.className)
    d.withMember op H.findField fun _ id => do
      return .value (← Host.direct (H.readField o id t))
  | .readStatic name => do
    let op ← Action.ofExcept (d.named name)
    let t ← Action.ofExcept (op.fieldDescriptor d.className)
    d.withMember op H.findStaticField fun c id => do
      return .value (← Host.direct (H.readStatic c id t))
  | .acquire => Action.bracket (Host.classNamed d.className) H.releaseClass fun _ => pure .nothing

end Declaration

end HandleCache

import HandleCache.Action
import HandleCache.Descriptor.Basic
import HandleCache.Fault
import HandleCache.Journal

/-!
# Hosts

A host is a virtual machine as the cache sees it: a state, the handles that it gives out, and the
primitive requests that it answers. The cache is written over any host, and reaches a virtual
machine in no other way.

A class reference is scoped to a session and has to be given back with `releaseClass`. A pin and a
weak reference outlive the session; a pin keeps its class loaded and a weak reference does not.

## Contents

- `Host`: types and primitives
- `Host.Request`: an action of the cache against a host
-/

namespace HandleCache

/-- A virtual machine as the cache sees it. -/
structure Host where
  /-- What the machine remembers between requests. -/
  State : Type
  /-- Why a request to the machine fails. -/
  Failure : Type
  /-- A reference to a class, to be given back. -/
  ClassRef : Type
  /-- A reference to an object, possibly null. -/
  Object : Type
  Argument : Type
  /-- What a call or a field read answers. -/
  Value : Type
  /-- The handle of an instance method or constructor. -/
  MethodId : Type
  StaticMethodId : Type
  FieldId : Type
  StaticFieldId : Type
  /-- A lasting reference that keeps its class loaded. -/
  Pin : Type
  /-- A lasting reference that does not keep its class loaded. -/
  Weak : Type
  findClass : String → Action State Failure ClassRef
  /-- Looks an instance method or a constructor up by name and signature. -/
  findMethod : ClassRef → String → String → Action State Failure MethodId
  findStaticMethod : ClassRef → String → String → Action State Failure StaticMethodId
  findField : ClassRef → String → String → Action State Failure FieldId
  findStaticField : ClassRef → String → String → Action State Failure StaticFieldId
  callMethod : Object → MethodId → MethodDescriptor → List Argument → Action State Failure Value
  callStatic :
    ClassRef → StaticMethodId → MethodDescriptor → List Argument → Action State Failure Value
  /-- Makes an object through a constructor. -/
  newObject :
    ClassRef → MethodId → MethodDescriptor → List Argument → Action State Failure Object
  readField : Object → FieldId → FieldDescriptor → Action State Failure Value
  readStatic : ClassRef → StaticFieldId → FieldDescriptor → Action State Failure Value
  releaseClass : ClassRef → State → State
  pin : ClassRef → Action State Failure Pin
  weaken : ClassRef → Action State Failure Weak
  classOfPin : Pin → Action State Failure ClassRef
  /-- A class reference from a weak one, or nothing if the class is gone. -/
  classOfWeak : Weak → Action State Failure (Option ClassRef)
  dropPin : Pin → State → State
  dropWeak : Weak → State → State
  isNull : Object → State → Bool × State
  /-- Whether an object is an instance of a class or of a class below it. -/
  isInstance : Object → ClassRef → Action State Failure Bool
  /-- Whether an argument may stand where a parameter of this type is declared. -/
  accepts : TypeDescriptor → Argument → State → Bool × State
  /-- Takes note of what the cache tells about its work. -/
  note : LogEntry → State → State

namespace Host

variable (H : Host)

/-- An action of the cache against a host. -/
abbrev Request (α : Type) : Type := Action H.State (Fault H.Failure) α

variable {H}

/-- Tells the journal something. -/
def tell (e : LogEntry) : H.Request Unit := Action.modify (H.note e)

/-- A primitive request whose failure is the fault, as it is. -/
def direct {α : Type} (x : Action H.State H.Failure α) : H.Request α :=
  Action.mapError Fault.host x

end Host

end HandleCache

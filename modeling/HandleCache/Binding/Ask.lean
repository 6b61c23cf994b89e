import HandleCache.Binding.Call

/-!
# What bindings are asked for

The requests that a program can make to a binding, as data, so that runs of them can be spoken
about.

## Contents

- `Ask`, `Reply`: a request and what it is answered with
- `Binding.answer`: what a binding does when it is asked
-/

namespace HandleCache

variable {H : Host}

/-- What a binding can be asked for. -/
inductive Ask (H : Host) where
  /-- Calls an instance method; a trusted instance is not tested to be of the class. -/
  | call (trusted : Bool) (name : String) (o : H.Object) (args : List H.Argument)
  | callStatic (name : String) (args : List H.Argument)
  | create (name : String) (args : List H.Argument)
  /-- Reads an instance field; a trusted instance is not tested to be of the class. -/
  | read (trusted : Bool) (name : String) (o : H.Object)
  | readStatic (name : String)
  /-- Has a reference to the class for a moment. -/
  | acquire

/-- Whether an instance is taken to be of the class without a test. -/
def Ask.isTrusted : Ask H → Bool
  | call trusted _ _ _ | read trusted _ _ => trusted
  | _ => false

/-- What a binding answers. -/
inductive Reply (H : Host) where
  | value (v : H.Value)
  | object (o : H.Object)
  | nothing

/-- What a binding does when it is asked. -/
def Binding.answer (b : Binding H) : Ask H → H.Request (Reply H)
  | .call true name o args => do return .value (← b.callTrusted name o args)
  | .call false name o args => do return .value (← b.call name o args)
  | .callStatic name args => do return .value (← b.callStatic name args)
  | .create name args => do return .object (← b.create name args)
  | .read true name o => do return .value (← b.readTrusted name o)
  | .read false name o => do return .value (← b.read name o)
  | .readStatic name => do return .value (← b.readStatic name)
  | .acquire => b.withClass fun _ => pure .nothing

end HandleCache

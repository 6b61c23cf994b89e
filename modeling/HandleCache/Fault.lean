import HandleCache.Declaration

/-!
# Faults

Why a request to the cache is not answered. A fault is either a declaration that cannot be
resolved, a request that the boundary checks refuse, or a failure of the host underneath, which is
kept unchanged as the fault's cause.

## Contents

- `Cause`: what can be said of a host's own failures
- `Fault`: the reasons, over any type of host failures
- `Fault.isResolution`, `Fault.isMisuse`: the two classes that callers tell apart
- `Fault.message`, `Fault.sources`: what is reported

## Main statements

- `Fault.not_isMisuse_of_isResolution`: no fault is in both classes
- `Fault.cause?_eq_none_of_isMisuse`: a refused request has no host failure underneath
-/

namespace HandleCache

/-! ## Host failures -/

/-- What can be said of a host's own failures. -/
class Cause (ε : Type) where
  /-- The name of the kind of failure. -/
  kind : ε → String
  /-- How the failure is worded. -/
  message : ε → String
  /-- The wordings of what lies underneath the failure, the nearest first. -/
  sources : ε → List String

/-! ## Faults -/

/-- Why a request is not answered; `ε` is the type of the host's own failures. -/
inductive Fault (ε : Type) where
  /-- The host knows no class of this name. -/
  | classNotFound (className : String) (cause : ε)
  /-- The class has no such method or constructor. -/
  | methodNotFound (className member signature : String) (cause : ε)
  /-- The class has no such field. -/
  | fieldNotFound (className member signature : String) (cause : ε)
  /-- No lasting reference to the class could be made. -/
  | classNotRetained (className : String) (cause : ε)
  /-- The signature of an operation is no descriptor of the form its kind needs. -/
  | invalidSignature (className operation reason : String)
  /-- A constructor is declared with a result. -/
  | constructorWithResult (className operation signature : String)
  /-- Two operations of a declaration have one name. -/
  | duplicateOperation (className operation : String)
  /-- The class is known with another declaration. -/
  | conflictingDeclaration (className : String)
  /-- The class is not known at all. -/
  | undeclaredClass (className : String)
  /-- The binding has no operation of this name. -/
  | unknownOperation (className operation : String)
  /-- The operation is of another kind than the request. -/
  | wrongKind (className operation : String) (expected actual : OperationKind)
  /-- The instance is null. -/
  | nullInstance (className operation : String)
  /-- The instance is not of the bound class. -/
  | wrongClass (className : String)
  /-- There are too many or too few arguments. -/
  | argumentCount (className operation : String) (expected actual : Nat)
  /-- The argument at this position does not fit its parameter. -/
  | argumentType (className operation : String) (index : Nat) (expected : String)
  /-- The host failed at the call itself, or at the steps that lead up to it. -/
  | host (cause : ε)
  deriving DecidableEq, Repr

namespace Fault

variable {ε : Type}

/-- The host's failure underneath, if there is one. -/
def cause? : Fault ε → Option ε
  | classNotFound _ e | methodNotFound _ _ _ e | fieldNotFound _ _ _ e | classNotRetained _ e
  | host e => some e
  | _ => none

/-- Whether the fault says that a declaration is not available, or not well formed. -/
def isResolution : Fault ε → Bool
  | classNotFound .. | methodNotFound .. | fieldNotFound .. | classNotRetained ..
  | invalidSignature .. | constructorWithResult .. | duplicateOperation ..
  | conflictingDeclaration .. | undeclaredClass .. => true
  | _ => false

/-- Whether the request was refused before the call it asked for was made. -/
def isMisuse : Fault ε → Bool
  | unknownOperation .. | wrongKind .. | nullInstance .. | wrongClass .. | argumentCount ..
  | argumentType .. => true
  | _ => false

/-- How the fault is worded; a failure of the host speaks for itself. -/
def message [Cause ε] : Fault ε → String
  | classNotFound c _ => s!"Class not found: {c}"
  | methodNotFound c m s _ => s!"Method not found: {c}.{m} {s}"
  | fieldNotFound c m s _ => s!"Field not found: {c}.{m} {s}"
  | classNotRetained c _ => s!"Could not keep a reference to class {c}"
  | invalidSignature c op r => s!"Invalid signature for {c}.{op}: {r}"
  | constructorWithResult c op s =>
    s!"Invalid constructor return type (must be void) for {c}.{op}: {s}"
  | duplicateOperation c op => s!"Operation {op} declared more than once for {c}"
  | conflictingDeclaration c => s!"A different declaration is already registered for {c}"
  | undeclaredClass c => s!"No declaration registered for {c}"
  | unknownOperation c op => s!"Unknown operation {op} on {c}"
  | wrongKind c op expected actual =>
    s!"Operation {c}.{op} is a {actual.describe}, not a {expected.describe}"
  | nullInstance c op => s!"Null instance passed to {c}.{op}"
  | wrongClass c => s!"Object is not an instance of {c}"
  | argumentCount c op expected actual =>
    s!"Invalid number of arguments for {c}.{op}: expected {expected}, got {actual}"
  | argumentType c op index expected =>
    s!"Argument {index} of {c}.{op} is not a valid {expected}"
  | host e => Cause.message e

/-- What lies underneath the fault, the nearest first. -/
def sources [Cause ε] (f : Fault ε) : List String :=
  match f.cause? with
  | some e => Cause.message e :: Cause.sources e
  | none => []

/-- The kind of the host's failure underneath, if there is one. -/
def causeKind? [Cause ε] (f : Fault ε) : Option String :=
  f.cause?.map Cause.kind

/-- A fault of resolution is no misuse. -/
theorem not_isMisuse_of_isResolution {f : Fault ε} (h : f.isResolution = true) :
    f.isMisuse = false := by
  cases f <;> simp_all [isResolution, isMisuse]

/-- A refused request has no failure of the host underneath. -/
theorem cause?_eq_none_of_isMisuse {f : Fault ε} (h : f.isMisuse = true) : f.cause? = none := by
  cases f <;> simp_all [isMisuse, cause?]

end Fault

/-! ## Plain failures -/

/-- A failure that is only told in words, possibly with another one underneath. -/
inductive ToldFailure where
  /-- A failure in words. -/
  | plain (message : String)
  /-- A failure in words, caused by another. -/
  | causedBy (message cause : String)
  deriving DecidableEq, Repr

instance : Cause ToldFailure where
  kind
    | .plain _ => "Text"
    | .causedBy _ _ => "Nested"
  message
    | .plain m => m
    | .causedBy m _ => m
  sources
    | .plain _ => []
    | .causedBy _ c => [c]

end HandleCache

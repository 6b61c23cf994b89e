import HandleCache.Jni.Machine

/-!
# The native interface as a host

What the cache makes of the native functions. A failed lookup is told to the journal and leaves no
exception pending; a call that throws leaves its exception for the caller. Plain reads and the
making of references do not look whether an exception is pending.

## Contents

- `Failure`: why a request fails
- `host`: the native interface as a host
- `makeGlobal`, `dropGlobal`, `dropLocal`: references that a program holds itself
-/

namespace HandleCache.Jni

/-- Why a request fails. -/
inductive Failure where
  | exceptionThrown
  /-- Something is null that must not be. -/
  | nullPointer (what : String)
  | methodNotFound (name signature : String)
  | fieldNotFound (name signature : String)
  /-- The virtual machine could not be had. -/
  | callFailed
  deriving DecidableEq, Repr

instance : Cause Failure where
  kind
    | .exceptionThrown => "JavaException"
    | .nullPointer _ => "NullPtr"
    | .methodNotFound _ _ => "MethodNotFound"
    | .fieldNotFound _ _ => "FieldNotFound"
    | .callFailed => "JniCall"
  message
    | .exceptionThrown => "Java exception was thrown"
    | .nullPointer what => s!"Null pointer in {what}"
    | .methodNotFound n s => s!"Method not found: {n} {s}"
    | .fieldNotFound n s => s!"Field not found: {n} {s}"
    | .callFailed => "JNI call failed"
  sources
    | .callFailed => ["Unknown error"]
    | _ => []

/-- An action on a machine. -/
abbrev Step (α : Type) : Type := Action Machine Failure α

variable {α : Type}

/-! ## How functions are called -/

/-- A function whose answer is taken as it is. -/
def unchecked (f : Machine → α × Machine) : Step α := Action.query f

/-- A function whose answer is lost if an exception is pending after it. -/
def checked (f : Machine → α × Machine) : Step α := fun m =>
  if (f m).2.exception.isSome then (.error .exceptionThrown, (f m).2)
  else (.ok (f m).1, (f m).2)

/-- A function that must not answer null. -/
def nonNull (failure : Failure) (f : Machine → Option α × Machine) : Step α := do
  match ← checked f with
  | some a => pure a
  | none => Action.fail failure

/-- A lookup: on failure it tells the journal and takes the pending exception away. -/
def lookup (name signature : String) (x : Step α) : Step α := fun m =>
  match x m with
  | (.ok a, m) => (.ok a, m)
  | (.error e, m) =>
    -- The journal is told first; taking the exception away is a call of its own.
    let told := .lookupFailed name signature (Cause.message e)
    (.error e, { m with journal := m.journal ++ [told] }.exceptionClear)

/-- Requires that the virtual machine can be had. -/
def requireVirtualMachine : Step Unit := do
  if ← Action.query Machine.hasVirtualMachine then pure () else Action.fail .callFailed

/-- A local reference that is not null, as an answer. -/
def someReference (f : Machine → Reference × Machine) (m : Machine) :
    Option Reference × Machine :=
  ((f m).1.map some, (f m).2)

/-! ## Requests -/

/-- Looks a class up. -/
def findClass (name : String) : Step Reference :=
  lookup name ""
    (nonNull (.nullPointer "FindClass result") (someReference (Machine.findClass name)))

/-- Looks a method up. -/
def findMethod (isStatic : Bool) (c : Reference) (name signature : String) : Step MemberId :=
  let f := if isStatic then Function.getStaticMethodId else Function.getMethodId
  lookup name signature
    (nonNull (.methodNotFound name signature)
      (Machine.getMember f isStatic "NoSuchMethodError" c name signature))

/-- Looks a field up. -/
def findField (isStatic : Bool) (c : Reference) (name signature : String) : Step MemberId :=
  let f := if isStatic then Function.getStaticFieldId else Function.getFieldId
  lookup name signature
    (nonNull (.fieldNotFound name signature)
      (Machine.getMember f isStatic "NoSuchFieldError" c name signature))

/-- Reads a field: only the read of a reference looks whether an exception is pending. -/
def readAs (k : Kind) (f : Machine → Value Reference × Machine) : Step (Value Reference) :=
  match k with
  | .reference => checked f
  | .primitive _ => unchecked f

/-- Makes a global reference, null if there is none to be had. -/
def makeGlobal (r : Reference) : Step Reference := do
  requireVirtualMachine
  unchecked (Machine.newReference .global r)

/-- Makes a weak reference, which must not be null. -/
def makeWeak (r : Reference) : Step Reference := do
  requireVirtualMachine
  match r with
  | none => Action.fail (.nullPointer "downgrade_class class argument")
  -- A pending exception wins over null, and then a reference that was made is lost.
  | some _ =>
    nonNull (.nullPointer "downgrade_class class argument")
      (someReference (Machine.newReference .weak r))

/-- Deletes a global reference. -/
def dropGlobal (r : Reference) (m : Machine) : Machine := m.deleteReference .global r

/-- Deletes a local reference. -/
def dropLocal (r : Reference) (m : Machine) : Machine := m.deleteReference .local r

/-- Whether a value may stand where a type is declared: a primitive needs its own kind, and for
references any reference will do. -/
def accepts : TypeDescriptor → Value Reference → Bool
  | .primitive .void, _ => false
  | .primitive p, v => v.kind == .primitive p
  | .object _, v => v.kind == .reference
  | .array _, v => v.kind == .reference

/-! ## The host -/

/-- The native interface as a host. -/
def host : Host where
  State := Machine
  Failure := Failure
  ClassRef := Reference
  Object := Reference
  Argument := Value Reference
  Value := Value Reference
  MethodId := MemberId
  StaticMethodId := MemberId
  FieldId := MemberId
  StaticFieldId := MemberId
  Pin := Reference
  Weak := Reference
  findClass := findClass
  findMethod := findMethod false
  findStaticMethod := findMethod true
  findField := findField false
  findStaticField := findField true
  callMethod o id d args := checked (Machine.callMethod o id (Kind.ofType d.result) args)
  callStatic c id d args := checked (Machine.callStatic c id (Kind.ofType d.result) args)
  newObject c id _ args :=
    nonNull (.nullPointer "NewObjectA result") (someReference (Machine.newObject c id args))
  readField o id d :=
    readAs (Kind.ofType d.type) (Machine.getField o id (Kind.ofType d.type))
  readStatic c id d :=
    readAs (Kind.ofType d.type) (Machine.getStaticField c id (Kind.ofType d.type))
  releaseClass := dropLocal
  pin := makeGlobal
  weaken := makeWeak
  classOfPin p := unchecked (Machine.newReference .local p)
  classOfWeak w := unchecked (someReference (Machine.newReference .local w))
  dropPin := dropGlobal
  dropWeak w m := m.deleteReference .weak w
  isNull o m := (o.isNone, m)
  isInstance o c := unchecked (Machine.isInstanceOf o c)
  accepts t v m := (accepts t v, m)
  note e m := { m with journal := m.journal ++ [e] }

instance : Cause host.Failure := inferInstanceAs (Cause Failure)

end HandleCache.Jni

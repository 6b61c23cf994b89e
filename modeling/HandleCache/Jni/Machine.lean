import HandleCache.Host
import HandleCache.Jni.Function
import HandleCache.Text.Blank

/-!
# The native interface

A world behind the native interface: everything is reached through references, and a call that goes
wrong leaves an exception pending and answers null or zero. Functions run even while an exception is
pending. Each function can be made to go wrong on demand.

## Contents

- `Fate`: what is queued for a function
- `Machine`: world, references, pending exception, queue and trace
- `Machine.findClass` and the other functions
- `Machine.referenceText`, `Machine.showEntry`: references and traces as text
-/

namespace HandleCache.Jni

/-! ## The machine -/

/-- What is queued for a function. -/
inductive Fate where
  /-- It answers null or zero. -/
  | null
  /-- It answers null or zero and leaves an exception pending. -/
  | throws (exception : String)
  | pass
  deriving DecidableEq, Repr

/-- The state of a machine. -/
structure Machine where
  world : World := {}
  /-- All references ever made. -/
  references : ReferenceTable := []
  exception : Option String := none
  /-- What is queued, by the name of the function, the earliest first. -/
  queue : List (String × Fate) := []
  /-- The calls so far, the oldest first. -/
  trace : List Entry := []
  journal : List LogEntry := []

namespace Machine

/-! ## References -/

/-- What a reference is to, unless it is null or a weak reference whose class is of a new age. -/
def target? (m : Machine) (r : Reference) : Option Target := do
  let info ← m.references.info? r
  match info.kind, info.target with
  | .weak, .classAt c age => if m.world.age c = age then some (.classAt c age) else none
  | _, target => some target

/-- The class that a reference is to. -/
def class? (m : Machine) (r : Reference) : Option Nat :=
  match m.target? r with
  | some (.classAt c _) => some c
  | _ => none

/-- The object that a reference is to. -/
def object? (m : Machine) (r : Reference) : ObjectId :=
  match m.target? r with
  | some (.object i) => some i
  | _ => none

/-- Makes a reference to a class as it is now. -/
def refer (m : Machine) (kind : ReferenceKind) (target : Target) : Reference × Machine :=
  ((m.references.make kind target).1, { m with references := (m.references.make kind target).2 })

/-- A new local reference to a class. -/
def referClass (m : Machine) (c : Nat) : Reference × Machine :=
  m.refer .local (.classAt c (m.world.age c))

/-- A new local reference to an object; none to null. -/
def referObject (m : Machine) : ObjectId → Reference × Machine
  | none => (none, m)
  | some i => m.refer .local (.object i)

/-! ## Going wrong -/

/-- What is queued first under a name, and what is queued after that is taken off. -/
def next (name : String) : List (String × Fate) → Option Fate × List (String × Fate)
  | [] => (none, [])
  | (n, fate) :: rest =>
    if n = name then (some fate, rest)
    else ((next name rest).1, (n, fate) :: (next name rest).2)

/-- Leaves an exception pending. -/
def raise (m : Machine) (x : String) : Machine := { m with exception := some x }

/-- Takes off the queue what is to befall a function: whether it goes wrong. -/
def strike (f : Function) (m : Machine) : Bool × Machine :=
  let m' := { m with queue := (next f.name m.queue).2 }
  match (next f.name m.queue).1 with
  | none | some .pass => (false, m')
  | some .null => (true, m')
  | some (.throws x) => (true, m'.raise x)

/-- Begins a call: it is written into the trace before anything befalls it. -/
def enter (f : Function) (operands : List Operand) (m : Machine) : Bool × Machine :=
  strike f { m with trace := m.trace ++ [⟨f, operands, m.exception.isSome⟩] }

/-! ## The functions -/

/-- Looks a class up; answers a local reference. -/
def findClass (name : String) (m : Machine) : Reference × Machine :=
  match m.enter .findClass [.text name] with
  | (true, m) => (none, m)
  | (false, m) =>
    match m.world.visibleClass? name with
    | some c => m.referClass c
    | none => (none, m.raise "NoClassDefFoundError")

/-- Looks a member up; the exception tells what kind of member is missing. -/
def getMember (f : Function) (isStatic : Bool) (missing : String) (r : Reference)
    (name signature : String) (m : Machine) : Option MemberId × Machine :=
  match m.enter f [.reference r, .text name, .text signature] with
  | (true, m) => (none, m)
  | (false, m) =>
    match (m.class? r).bind fun c => m.world.findMember isStatic c name signature with
    | some id => (some id, m)
    | none => (none, m.raise missing)

/-- The value of the world that a value of native code is. -/
def lower (m : Machine) (v : Value Reference) : Value ObjectId :=
  v.map m.object?

/-- The value for native code that a value of the world is: an object becomes a new local
reference. -/
def lift (m : Machine) (v : Value ObjectId) : Value Reference × Machine :=
  match v with
  | .reference o => (.reference (m.referObject o).1, (m.referObject o).2)
  | v => (v.map fun _ => none, m)

/-- Runs a member: its value, or nothing and its exception pending. -/
def runMember (o : ObjectId) (id : MemberId) (args : List (Value Reference)) (k : Kind)
    (m : Machine) : Value Reference × Machine :=
  match m.world.run id o (args.map m.lower) k with
  | (.ok v, world) => lift { m with world } v
  | (.error x, world) => (Value.zero none k, { m with world }.raise x)

/-- Calls an instance method. -/
def callMethod (o : Reference) (id : MemberId) (k : Kind) (args : List (Value Reference))
    (m : Machine) : Value Reference × Machine :=
  match m.enter (.callMethod k) [.reference o, .member id, .arguments args] with
  | (true, m) => (Value.zero none k, m)
  | (false, m) => m.runMember (m.object? o) id args k

/-- Calls a static method. -/
def callStatic (c : Reference) (id : MemberId) (k : Kind) (args : List (Value Reference))
    (m : Machine) : Value Reference × Machine :=
  match m.enter (.callStaticMethod k) [.reference c, .member id, .arguments args] with
  | (true, m) => (Value.zero none k, m)
  | (false, m) => m.runMember none id args k

/-- Makes an object; without a class it is of the one that declares the constructor. -/
def newObject (c : Reference) (id : MemberId) (args : List (Value Reference)) (m : Machine) :
    Reference × Machine :=
  match m.enter .newObject [.reference c, .member id, .arguments args] with
  | (true, m) => (none, m)
  | (false, m) =>
    -- The class may be null where a pin was made of nothing.
    match m.world.make ((m.class? c).getD id.owner) id (args.map m.lower) with
    | (.ok o, world) => referObject { m with world } o
    | (.error x, world) => (none, { m with world }.raise x)

/-- Reads an instance field. -/
def getField (o : Reference) (id : MemberId) (k : Kind) (m : Machine) :
    Value Reference × Machine :=
  match m.enter (.getField k) [.reference o, .member id] with
  | (true, m) => (Value.zero none k, m)
  | (false, m) => m.runMember (m.object? o) id [] k

/-- Reads a static field. -/
def getStaticField (c : Reference) (id : MemberId) (k : Kind) (m : Machine) :
    Value Reference × Machine :=
  match m.enter (.getStaticField k) [.reference c, .member id] with
  | (true, m) => (Value.zero none k, m)
  | (false, m) => m.runMember none id [] k

/-- The function that makes references of a kind. -/
def maker : ReferenceKind → Function
  | .local => .newLocalRef
  | .global => .newGlobalRef
  | .weak => .newWeakGlobalRef

/-- The function that deletes references of a kind. -/
def deleter : ReferenceKind → Function
  | .local => .deleteLocalRef
  | .global => .deleteGlobalRef
  | .weak => .deleteWeakGlobalRef

/-- Makes a reference to what another one is to; there is none to null, nor to what is gone. -/
def newReference (kind : ReferenceKind) (r : Reference) (m : Machine) : Reference × Machine :=
  match m.enter (maker kind) [.reference r] with
  | (true, m) => (none, m)
  | (false, m) =>
    match m.target? r with
    -- The new reference is made in the present age, whatever age the old one is of.
    | some (.classAt c _) => m.refer kind (.classAt c (m.world.age c))
    | some (.object i) => m.refer kind (.object i)
    | none => (none, m)

/-- Deletes a reference; nothing keeps it from being deleted. -/
def deleteReference (kind : ReferenceKind) (r : Reference) (m : Machine) : Machine :=
  -- An exception that is queued is left pending, but the reference is gone all the same.
  let m := (m.enter (deleter kind) [.reference r]).2
  { m with references := m.references.delete r }

/-- Whether an object is of a class; null is of none. -/
def isInstanceOf (o c : Reference) (m : Machine) : Bool × Machine :=
  match m.enter .isInstanceOf [.reference o, .reference c] with
  | (true, m) => (false, m)
  | (false, m) =>
    match m.class? c with
    | some c => (m.world.isInstance (m.object? o) c, m)
    | none => (false, m)

/-- Takes the pending exception away. -/
def exceptionClear (m : Machine) : Machine :=
  { (m.enter .exceptionClear []).2 with exception := none }

/-- Whether the virtual machine itself can be had, which is not written into the trace; if it goes
wrong no exception is left. -/
def hasVirtualMachine (m : Machine) : Bool × Machine :=
  let (struck, m') := m.strike .getVirtualMachine
  (!struck, { m' with exception := m.exception })

/-! ## Text -/

/-- A reference as text, by what it was made for. -/
def referenceText (m : Machine) (r : Reference) : String :=
  match m.references.info? r with
  | none => "null"
  | some info =>
    match info.target with
    | .classAt c _ => "class " ++ m.world.className c
    | .object i => m.world.objectText (some i)

/-- An operand as text. -/
def operandText (m : Machine) : Operand → String
  | .text s => s
  | .reference r => m.referenceText r
  | .member id => m.world.memberText id
  | .arguments args => "[" ++ " ".intercalate (args.map (Value.render m.referenceText)) ++ "]"

/-- A call as a line: the name of the function and its operands, without blanks at the end. -/
def showEntry (m : Machine) (e : Entry) : String :=
  Text.trimEnd (" ".intercalate (e.function.name :: e.operands.map m.operandText))

end Machine

end HandleCache.Jni

import HandleCache.Host

/-!
# A virtual machine that counts

A small virtual machine with two classes whose members all work on whole numbers. It counts what is
asked of it and what it has handed out, so that the cost and the balance of the cache's work can be
read off its state.

## Contents

- `Counting.MemberId`, `Counting.ObjectNumber`, `Counting.Value`, `Counting.Failure`
- `Counting.Machine`: classes, objects, counters and two switches for failures
- `Counting.host`: the machine as a host

## Main statements

- `Machine.findMember_memberLookups`: each member lookup is counted once
- `Machine.findClass_classLookups`: each class lookup is counted once
-/

namespace HandleCache.Counting

/-! ## Handles and values -/

/-- A member, by the numbers of its class and of its place in the class. -/
structure MemberId where
  owner : Nat
  index : Nat
  deriving DecidableEq, Repr

/-- A reference to an object by its number, or null. -/
abbrev ObjectNumber := Option Nat

/-- What a member yields. -/
inductive Value where
  | int (v : Int32)
  | object (o : ObjectNumber)
  deriving DecidableEq

/-- Why the machine refuses. -/
inductive Failure where
  | noClass (name : String)
  | noMethod (name signature : String)
  | noField (name signature : String)
  /-- A member, or the machine itself, threw. -/
  | thrown (message : String)
  /-- The caller broke a promise: there is no such member or object, or an instance or an
  argument is missing. -/
  | brokenPromise
  deriving DecidableEq, Repr

instance : Cause Failure where
  kind
    | .noClass _ => "NoClass"
    | .noMethod _ _ => "NoMethod"
    | .noField _ _ => "NoField"
    | .thrown _ => "Thrown"
    | .brokenPromise => "BrokenPromise"
  message
    | .noClass n => s!"java.lang.NoClassDefFoundError: {n}"
    | .noMethod n s => s!"java.lang.NoSuchMethodError: {n} {s}"
    | .noField n s => s!"java.lang.NoSuchFieldError: {n} {s}"
    | .thrown m => s!"java.lang.IllegalStateException: {m}"
    | .brokenPromise => "broken promise"
  sources _ := []

/-! ## Classes -/

/-- What a member does. -/
inductive Behavior where
  /-- Makes an object that holds the first argument, or zero. -/
  | make
  | holds
  /-- Adds the argument to what the object holds, and yields the sum. -/
  | add
  | throws
  /-- Yields the greatest argument, or zero. -/
  | greatest
  | constant (v : Int32)
  deriving DecidableEq

/-- A member of a class. -/
structure Member where
  name : String
  signature : String
  /-- Whether it belongs to the class and not to its instances. -/
  isStatic : Bool
  behavior : Behavior
  deriving DecidableEq

/-- A class of the machine. -/
structure ClassInfo where
  name : String
  members : List Member
  /-- Whether weak references to it are cleared. -/
  unloaded : Bool := false

/-- The two classes of every machine. -/
def standardClasses : List ClassInfo :=
  [{ name := "test/Counter"
     members :=
      [⟨"<init>", "()V", false, .make⟩,
       ⟨"<init>", "(I)V", false, .make⟩,
       ⟨"get", "()I", false, .holds⟩,
       ⟨"add", "(I)I", false, .add⟩,
       ⟨"fail", "()V", false, .throws⟩,
       ⟨"max", "(II)I", true, .greatest⟩,
       ⟨"value", "I", false, .holds⟩,
       ⟨"ZERO", "I", true, .constant 0⟩,
       ⟨"LIMIT", "I", true, .constant 1000⟩] },
   { name := "test/Point"
     members :=
      [⟨"<init>", "(I)V", false, .make⟩,
       ⟨"x", "I", false, .holds⟩] }]

/-! ## The machine -/

/-- An object: the number of its class and what it holds. -/
structure Instance where
  owner : Nat
  held : Int32
  deriving DecidableEq

/-- The state of a machine. -/
structure Machine where
  classes : List ClassInfo := standardClasses
  objects : List Instance := []
  classLookups : Nat := 0
  memberLookups : Nat := 0
  liveClasses : Int := 0
  livePins : Int := 0
  calls : Nat := 0
  pinsFail : Bool := false
  journal : List LogEntry := []

namespace Machine

/-- An action on a machine. -/
abbrev Step (α : Type) : Type := Action Machine Failure α

/-- Clears the weak references to all classes of this name, those that are made later included. -/
def unload (name : String) (m : Machine) : Machine :=
  { m with
    classes := m.classes.map fun c => if c.name = name then { c with unloaded := true } else c }

/-- Hands a class reference out. -/
def handOut (c : Nat) : Step Nat := fun m =>
  (.ok c, { m with liveClasses := m.liveClasses + 1 })

/-- The class of this name. -/
def findClass (name : String) : Step Nat := fun m =>
  let m := { m with classLookups := m.classLookups + 1 }
  match m.classes.findIdx? (·.name == name) with
  | some c => handOut c m
  | none => (.error (.noClass name), m)

/-- The member of this name, signature and staticness in a class. -/
def findMember (missing : Failure) (isStatic : Bool) (c : Nat) (name signature : String) :
    Step MemberId := fun m =>
  let m := { m with memberLookups := m.memberLookups + 1 }
  match m.classes[c]? with
  | none => (.error .brokenPromise, m)
  | some info =>
    match info.members.findIdx? fun x =>
        x.name == name && x.signature == signature && x.isStatic == isStatic with
    | some i => (.ok ⟨c, i⟩, m)
    | none => (.error missing, m)

/-- The member behind a handle. -/
def member? (m : Machine) (id : MemberId) : Option Member :=
  m.classes[id.owner]?.bind (·.members[id.index]?)

/-- The object behind a reference. -/
def instance? (m : Machine) (o : ObjectNumber) : Option (Nat × Instance) :=
  o.bind fun i => m.objects[i]?.map (i, ·)

/-- Runs a member on an object, if it needs one, and arguments. -/
def runMember (o : ObjectNumber) (id : MemberId) (args : List Int32) : Step Value := fun m =>
  let m := { m with calls := m.calls + 1 }
  match m.member? id with
  | none => (.error .brokenPromise, m)
  | some member =>
    match member.behavior with
    | .make =>
      (.ok (.object (some m.objects.length)),
       { m with objects := m.objects ++ [⟨id.owner, args.headD 0⟩] })
    | .holds =>
      match m.instance? o with
      | some (_, x) => (.ok (.int x.held), m)
      | none => (.error .brokenPromise, m)
    | .add =>
      match m.instance? o, args with
      | some (i, x), a :: _ =>
        (.ok (.int (x.held + a)), { m with objects := m.objects.set i ⟨x.owner, x.held + a⟩ })
      | _, _ => (.error .brokenPromise, m)
    | .throws => (.error (.thrown (member.name ++ " failed")), m)
    | .greatest =>
      match args with
      | [] => (.ok (.int 0), m)
      | a :: rest => (.ok (.int (rest.foldl max a)), m)
    | .constant v => (.ok (.int v), m)

/-- Runs a constructor. -/
def make (id : MemberId) (args : List Int32) : Step ObjectNumber := fun m =>
  match runMember none id args m with
  | (.ok (.object o), m) => (.ok o, m)
  | (.ok (.int _), m) => (.error .brokenPromise, m)
  | (.error e, m) => (.error e, m)

/-- Makes a pin, unless pinning fails. -/
def pin (c : Nat) : Step Nat := fun m =>
  if m.pinsFail then (.error (.thrown "global reference table is full"), m)
  else (.ok c, { m with livePins := m.livePins + 1 })

/-- A class reference from a weak one, unless the class is unloaded. -/
def strengthen (c : Nat) : Step (Option Nat) := fun m =>
  match m.classes[c]? with
  | none => (.error .brokenPromise, m)
  | some info =>
    -- There are no ages here: a class that was unloaded is gone for every weak reference.
    if info.unloaded then (.ok none, m)
    else (.ok (some c), { m with liveClasses := m.liveClasses + 1 })

/-- Whether an object is of a class; each class stands alone. -/
def isInstance (o : ObjectNumber) (c : Nat) : Step Bool := fun m =>
  match o with
  | none => (.ok false, m)
  | some _ =>
    match m.instance? o with
    | some (_, x) => (.ok (x.owner == c), m)
    | none => (.error .brokenPromise, m)

/-! ## What is counted -/

theorem findClass_classLookups (name : String) (m : Machine) :
    (findClass name m).2.classLookups = m.classLookups + 1 := by
  unfold findClass
  dsimp only
  split <;> rfl

theorem findMember_memberLookups (missing : Failure) (isStatic : Bool) (c : Nat)
    (name signature : String) (m : Machine) :
    (findMember missing isStatic c name signature m).2.memberLookups = m.memberLookups + 1 := by
  unfold findMember
  dsimp only
  split
  · rfl
  · split <;> rfl

end Machine

/-! ## The host -/

/-- The machine as a host: its parameters are all whole numbers. -/
def host : Host where
  State := Machine
  Failure := Failure
  ClassRef := Nat
  Object := ObjectNumber
  Argument := Int32
  Value := Value
  MethodId := MemberId
  StaticMethodId := MemberId
  FieldId := MemberId
  StaticFieldId := MemberId
  Pin := Nat
  Weak := Nat
  findClass := Machine.findClass
  findMethod c n s := Machine.findMember (.noMethod n s) false c n s
  findStaticMethod c n s := Machine.findMember (.noMethod n s) true c n s
  findField c n s := Machine.findMember (.noField n s) false c n s
  findStaticField c n s := Machine.findMember (.noField n s) true c n s
  callMethod o id _ args := Machine.runMember o id args
  callStatic _ id _ args := Machine.runMember none id args
  newObject _ id _ args := Machine.make id args
  readField o id _ := Machine.runMember o id []
  readStatic _ id _ := Machine.runMember none id []
  releaseClass _ m := { m with liveClasses := m.liveClasses - 1 }
  pin := Machine.pin
  weaken c m := (.ok c, m)
  classOfPin := Machine.handOut
  classOfWeak := Machine.strengthen
  dropPin _ m := { m with livePins := m.livePins - 1 }
  dropWeak _ m := m
  isNull o m := (o.isNone, m)
  isInstance := Machine.isInstance
  accepts t _ m := (t == .primitive .int, m)
  note e m := { m with journal := m.journal ++ [e] }

instance : Cause host.Failure := inferInstanceAs (Cause Failure)

instance : DecidableEq host.Failure := inferInstanceAs (DecidableEq Failure)

end HandleCache.Counting

import HandleCache.Host.Faulty
import HandleCache.Host.Recorded
import HandleCache.World.Basic

/-!
# A plain virtual machine

A world as a host, without references of its own: a class or an object is handed out by its number,
and only the class references that are out are counted. The host that scripts work with can fail
on demand and is recorded.

## Contents

- `Plain.Machine`, `Plain.host`: the machine and its primitives
- `Plain.traced`: the machine that can fail and keeps its events
- `Plain.showEvent`: an event as a line
-/

namespace HandleCache.Plain

/-! ## The machine -/

/-- Why the machine refuses. -/
inductive Failure where
  | noClass (name : String)
  | noMethod (name signature : String)
  | noField (name signature : String)
  | thrown (exception : String)
  deriving DecidableEq, Repr

instance : Cause Failure where
  kind
    | .noClass _ => "NoClass"
    | .noMethod _ _ => "NoMethod"
    | .noField _ _ => "NoField"
    | .thrown _ => "Thrown"
  message
    | .noClass n => s!"no class {n}"
    | .noMethod n s => s!"no method {n} {s}"
    | .noField n s => s!"no field {n} {s}"
    | .thrown x => s!"exception {x}"
  sources _ := []

/-- The state of a machine. -/
structure Machine where
  world : World := {}
  live : Int := 0
  journal : List LogEntry := []

/-- A weak reference: a class and the age in which the reference was made. -/
structure DatedClass where
  target : Nat
  /-- The age of the class at that time. -/
  age : Nat
  deriving DecidableEq, Repr

namespace Machine

/-- An action on a machine. -/
abbrev Step (α : Type) : Type := Action Machine Failure α

/-- Hands a class reference out. -/
def handOut (c : Nat) : Step Nat := fun m => (.ok c, { m with live := m.live + 1 })

/-- The class that is found by name. -/
def findClass (name : String) : Step Nat := fun m =>
  match m.world.visibleClass? name with
  | some c => handOut c m
  | none => (.error (.noClass name), m)

/-- The member of a class. -/
def findMember (missing : Failure) (isStatic : Bool) (c : Nat) (name signature : String) :
    Step MemberId := fun m =>
  match m.world.findMember isStatic c name signature with
  | some id => (.ok id, m)
  | none => (.error missing, m)

/-- Runs a member on an instance if there is one. -/
def runMember (o : ObjectId) (id : MemberId) (args : List (Value ObjectId)) (t : TypeDescriptor) :
    Step (Value ObjectId) := fun m =>
  let r := m.world.run id o args (Kind.ofType t)
  (r.1.mapError .thrown, { m with world := r.2 })

/-- Makes an object of a class. -/
def make (c : Nat) (id : MemberId) (args : List (Value ObjectId)) : Step ObjectId := fun m =>
  let r := m.world.make c id args
  (r.1.mapError .thrown, { m with world := r.2 })

/-- A class reference from a weak one, unless a new age of the class has begun. -/
def strengthen (w : DatedClass) : Step (Option Nat) := fun m =>
  if m.world.age w.target = w.age then (.ok (some w.target), { m with live := m.live + 1 })
  else (.ok none, m)

/-- Whether a value may stand where a type is declared: a primitive needs its own kind, a reference
is null or for an object type of the first class of that name. -/
def accepts (m : Machine) (t : TypeDescriptor) (v : Value ObjectId) : Bool :=
  match t, v with
  | .primitive p, v => v.kind == .primitive p
  -- Null fits every reference type, and no object fits an array.
  | _, .reference none => true
  | .object name, .reference o => m.world.isInstanceNamed o name
  | _, _ => false

end Machine

/-- The machine as a host. -/
def host : Host where
  State := Machine
  Failure := Failure
  ClassRef := Nat
  Object := ObjectId
  Argument := Value ObjectId
  Value := Value ObjectId
  MethodId := MemberId
  StaticMethodId := MemberId
  FieldId := MemberId
  StaticFieldId := MemberId
  Pin := Nat
  Weak := DatedClass
  findClass := Machine.findClass
  findMethod c n s := Machine.findMember (.noMethod n s) false c n s
  findStaticMethod c n s := Machine.findMember (.noMethod n s) true c n s
  findField c n s := Machine.findMember (.noField n s) false c n s
  findStaticField c n s := Machine.findMember (.noField n s) true c n s
  callMethod o id d args := Machine.runMember o id args d.result
  callStatic _ id d args := Machine.runMember none id args d.result
  newObject c id _ args := Machine.make c id args
  readField o id d := Machine.runMember o id [] d.type
  readStatic _ id d := Machine.runMember none id [] d.type
  releaseClass _ m := { m with live := m.live - 1 }
  pin c m := (.ok c, m)
  weaken c m := (.ok ⟨c, m.world.age c⟩, m)
  classOfPin := Machine.handOut
  classOfWeak := Machine.strengthen
  dropPin _ m := m
  dropWeak _ m := m
  isNull o m := (o.isNone, m)
  isInstance o c m := (.ok (m.world.isInstance o c), m)
  accepts t v m := (m.accepts t v, m)
  note e m := { m with journal := m.journal ++ [e] }

/-- The machine that can fail on demand and keeps its events. -/
def traced : Host := host.faulty.recorded

instance : Cause traced.Failure := inferInstanceAs (Cause (Mishap Failure))

/-! ## Events as lines -/

/-- Arguments between brackets. -/
def showArguments (w : World) (args : List (Value ObjectId)) : String :=
  "[" ++ " ".intercalate (args.map (Value.render w.objectText)) ++ "]"

/-- An event as a line: the name of the request and its operands. What is given back without a
request is not shown. -/
def showEvent (w : World) : Event host.faulty → Option String
  | .findClass n _ => line .findClass [n]
  | .findMethod c n s _ => line .findMethod [w.className c, n, s]
  | .findStaticMethod c n s _ => line .findStaticMethod [w.className c, n, s]
  | .findField c n s _ => line .findField [w.className c, n, s]
  | .findStaticField c n s _ => line .findStaticField [w.className c, n, s]
  | .callMethod o m d args _ =>
    line .callMethod [w.objectText o, w.memberText m, "as", d.render, showArguments w args]
  | .callStatic c m d args _ =>
    line .callStatic [w.className c, w.memberText m, "as", d.render, showArguments w args]
  | .newObject c m d args _ =>
    line .newObject [w.className c, w.memberText m, "as", d.render, showArguments w args]
  | .readField o m d _ =>
    line .readField [w.objectText o, w.memberText m, "as", d.render, showArguments w []]
  | .readStatic c m d _ =>
    line .readStatic [w.className c, w.memberText m, "as", d.render, showArguments w []]
  | .releaseClass c => some (" ".intercalate ["release_class", w.className c])
  | .pin c _ => line .pin [w.className c]
  | .weaken c _ => line .weaken [w.className c]
  | .classOfPin c _ => line .classOfPin [w.className c]
  | .classOfWeak c _ => line .classOfWeak [w.className c.target]
  | .dropPin _ => none
  | .dropWeak _ => none
  | .isNull o _ => some (" ".intercalate ["is_null", w.objectText o])
  | .isInstance o c _ => line .isInstance [w.objectText o, w.className c]
  | .accepts t v _ =>
    some (" ".intercalate ["arg_matches", t.render, v.render w.objectText])
where
  /-- The name of a request and its operands, with blanks between them. -/
  line (s : Service) (operands : List String) : Option String :=
    some (" ".intercalate (s.name :: operands))

end HandleCache.Plain

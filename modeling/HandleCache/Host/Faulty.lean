import HandleCache.Host

/-!
# Faulty hosts

A host that behaves as another one, except that requests can be made to fail on demand. A failure
is queued for a kind of request and strikes the next request of that kind; a request can also be
let through, so that it is a later one that fails.

## Contents

- `Service`: the kinds of requests that can fail
- `Mishap`: failures of the host underneath, and failures on demand
- `Host.faulty`: the host that fails on demand
-/

namespace HandleCache

/-- The kinds of requests that can fail. -/
inductive Service where
  | findClass
  | findMethod
  | findStaticMethod
  | findField
  | findStaticField
  | callMethod
  | callStatic
  | newObject
  | readField
  | readStatic
  | pin
  | weaken
  | classOfPin
  | classOfWeak
  | isInstance
  deriving DecidableEq, Repr

namespace Service

/-- All kinds of requests that can fail. -/
def all : List Service :=
  [findClass, findMethod, findStaticMethod, findField, findStaticField, callMethod, callStatic,
   newObject, readField, readStatic, pin, weaken, classOfPin, classOfWeak, isInstance]

/-- The name of a kind of request in traces and messages. -/
def name : Service → String
  | findClass => "resolve_class"
  | findMethod => "resolve_method"
  | findStaticMethod => "resolve_static_method"
  | findField => "resolve_field"
  | findStaticField => "resolve_static_field"
  | callMethod => "invoke"
  | callStatic => "invoke_static"
  | newObject => "new_instance"
  | readField => "read_field"
  | readStatic => "read_static_field"
  | pin => "pin_class"
  | weaken => "downgrade_class"
  | classOfPin => "class_from_pinned"
  | classOfWeak => "class_from_weak"
  | isInstance => "instance_of"

/-- The kind of request of this name. -/
def named? (text : String) : Option Service :=
  all.find? (·.name == text)

end Service

/-- What is queued for a request. -/
inductive Fate where
  | fail
  | pass
  deriving DecidableEq, Repr

/-- Why a faulty host fails. -/
inductive Mishap (ε : Type) where
  /-- The host underneath failed. -/
  | underneath (e : ε)
  /-- The request was made to fail. -/
  | injected (s : Service)
  deriving DecidableEq, Repr

instance {ε : Type} [Cause ε] : Cause (Mishap ε) where
  kind
    | .underneath e => Cause.kind e
    | .injected _ => "Injected"
  message
    | .underneath e => Cause.message e
    | .injected s => "injected failure in " ++ s.name
  sources
    | .underneath e => Cause.sources e
    | .injected _ => []

namespace Host

/-- The state of a faulty host: the state underneath, and what is queued. -/
structure Rigged (H : Host) where
  state : H.State
  /-- What is queued, the earliest first. -/
  queue : List (Service × Fate) := []

namespace Rigged

variable {H : Host} {α : Type}

/-- What is queued first for a kind of request, and what is queued after that is taken off. -/
def next (service : Service) : List (Service × Fate) → Option Fate × List (Service × Fate)
  | [] => (none, [])
  | (s, fate) :: rest =>
    if s = service then (some fate, rest)
    else ((next service rest).1, (s, fate) :: (next service rest).2)

/-- A request that fails if that is queued for it. -/
def request (service : Service) (x : Action H.State H.Failure α) :
    Action (Rigged H) (Mishap H.Failure) α := fun r =>
  match next service r.queue with
  -- A request that is made to fail does not reach the host underneath.
  | (some .fail, queue) => (.error (.injected service), ⟨r.state, queue⟩)
  | (_, queue) => Action.mapError .underneath (fun r =>
      ((x r.state).1, (⟨(x r.state).2, r.queue⟩ : Rigged H))) ⟨r.state, queue⟩

/-- A question never fails. -/
def question (x : H.State → α × H.State) (r : Rigged H) : α × Rigged H :=
  ((x r.state).1, ⟨(x r.state).2, r.queue⟩)

/-- A change never fails. -/
def change (f : H.State → H.State) (r : Rigged H) : Rigged H :=
  ⟨f r.state, r.queue⟩

end Rigged

/-- The host that answers as `H` except where a failure is queued. -/
def faulty (H : Host) : Host where
  State := Rigged H
  Failure := Mishap H.Failure
  ClassRef := H.ClassRef
  Object := H.Object
  Argument := H.Argument
  Value := H.Value
  MethodId := H.MethodId
  StaticMethodId := H.StaticMethodId
  FieldId := H.FieldId
  StaticFieldId := H.StaticFieldId
  Pin := H.Pin
  Weak := H.Weak
  findClass n := Rigged.request .findClass (H.findClass n)
  findMethod c n s := Rigged.request .findMethod (H.findMethod c n s)
  findStaticMethod c n s := Rigged.request .findStaticMethod (H.findStaticMethod c n s)
  findField c n s := Rigged.request .findField (H.findField c n s)
  findStaticField c n s := Rigged.request .findStaticField (H.findStaticField c n s)
  callMethod o m d args := Rigged.request .callMethod (H.callMethod o m d args)
  callStatic c m d args := Rigged.request .callStatic (H.callStatic c m d args)
  newObject c m d args := Rigged.request .newObject (H.newObject c m d args)
  readField o f d := Rigged.request .readField (H.readField o f d)
  readStatic c f d := Rigged.request .readStatic (H.readStatic c f d)
  releaseClass c := Rigged.change (H.releaseClass c)
  pin c := Rigged.request .pin (H.pin c)
  weaken c := Rigged.request .weaken (H.weaken c)
  classOfPin p := Rigged.request .classOfPin (H.classOfPin p)
  classOfWeak w := Rigged.request .classOfWeak (H.classOfWeak w)
  dropPin p := Rigged.change (H.dropPin p)
  dropWeak w := Rigged.change (H.dropWeak w)
  isNull o := Rigged.question (H.isNull o)
  isInstance o c := Rigged.request .isInstance (H.isInstance o c)
  accepts t a := Rigged.question (H.accepts t a)
  note e := Rigged.change (H.note e)

end Host

end HandleCache

import HandleCache.Host

/-!
# Recorded hosts

A host that behaves as another one and keeps the list of the requests that it got, each with its
operands and with what was answered. What the cache does to a host is thereby a value, and can be
shown or reasoned about.

## Contents

- `Event`: one request with its answer
- `Host.recorded`: the host that keeps its events
-/

namespace HandleCache

/-- A request to a host and what was answered. -/
inductive Event (H : Host) where
  | findClass (name : String) (answer : Except H.Failure H.ClassRef)
  | findMethod (c : H.ClassRef) (name signature : String) (answer : Except H.Failure H.MethodId)
  | findStaticMethod (c : H.ClassRef) (name signature : String)
      (answer : Except H.Failure H.StaticMethodId)
  | findField (c : H.ClassRef) (name signature : String) (answer : Except H.Failure H.FieldId)
  | findStaticField (c : H.ClassRef) (name signature : String)
      (answer : Except H.Failure H.StaticFieldId)
  | callMethod (o : H.Object) (m : H.MethodId) (d : MethodDescriptor) (args : List H.Argument)
      (answer : Except H.Failure H.Value)
  | callStatic (c : H.ClassRef) (m : H.StaticMethodId) (d : MethodDescriptor)
      (args : List H.Argument) (answer : Except H.Failure H.Value)
  | newObject (c : H.ClassRef) (m : H.MethodId) (d : MethodDescriptor) (args : List H.Argument)
      (answer : Except H.Failure H.Object)
  | readField (o : H.Object) (f : H.FieldId) (d : FieldDescriptor)
      (answer : Except H.Failure H.Value)
  | readStatic (c : H.ClassRef) (f : H.StaticFieldId) (d : FieldDescriptor)
      (answer : Except H.Failure H.Value)
  | releaseClass (c : H.ClassRef)
  | pin (c : H.ClassRef) (answer : Except H.Failure H.Pin)
  | weaken (c : H.ClassRef) (answer : Except H.Failure H.Weak)
  | classOfPin (p : H.Pin) (answer : Except H.Failure H.ClassRef)
  | classOfWeak (w : H.Weak) (answer : Except H.Failure (Option H.ClassRef))
  | dropPin (p : H.Pin)
  | dropWeak (w : H.Weak)
  | isNull (o : H.Object) (answer : Bool)
  | isInstance (o : H.Object) (c : H.ClassRef) (answer : Except H.Failure Bool)
  | accepts (t : TypeDescriptor) (a : H.Argument) (answer : Bool)

namespace Host

/-- The state of a recorded host: the state underneath and the events so far, the oldest first. -/
structure Record (H : Host) where
  state : H.State
  /-- The requests so far, the oldest first. -/
  events : List (Event H)

namespace Record

variable {H : Host} {α : Type}

/-- Runs a request of the host underneath and writes it down with its answer. -/
def request (x : Action H.State H.Failure α) (event : Except H.Failure α → Event H) :
    Action (Record H) H.Failure α := fun r =>
  ((x r.state).1, ⟨(x r.state).2, r.events ++ [event (x r.state).1]⟩)

/-- Asks the host underneath a question and writes it down with its answer. -/
def question (x : H.State → α × H.State) (event : α → Event H) (r : Record H) :
    α × Record H :=
  ((x r.state).1, ⟨(x r.state).2, r.events ++ [event (x r.state).1]⟩)

/-- Changes the host underneath and writes it down. -/
def change (f : H.State → H.State) (event : Event H) (r : Record H) : Record H :=
  ⟨f r.state, r.events ++ [event]⟩

end Record

/-- The host that answers as `H` and keeps its events; what is told to the journal is no event. -/
def recorded (H : Host) : Host where
  State := Record H
  Failure := H.Failure
  ClassRef := H.ClassRef
  Object := H.Object
  Argument := H.Argument
  Value := H.Value
  MethodId := H.MethodId
  StaticMethodId := H.StaticMethodId
  FieldId := H.FieldId
  StaticFieldId := H.StaticFieldId
  Pin := H.Pin
  Weak := H.Weak
  findClass n := Record.request (H.findClass n) (.findClass n)
  findMethod c n s := Record.request (H.findMethod c n s) (.findMethod c n s)
  findStaticMethod c n s := Record.request (H.findStaticMethod c n s) (.findStaticMethod c n s)
  findField c n s := Record.request (H.findField c n s) (.findField c n s)
  findStaticField c n s := Record.request (H.findStaticField c n s) (.findStaticField c n s)
  callMethod o m d args := Record.request (H.callMethod o m d args) (.callMethod o m d args)
  callStatic c m d args := Record.request (H.callStatic c m d args) (.callStatic c m d args)
  newObject c m d args := Record.request (H.newObject c m d args) (.newObject c m d args)
  readField o f d := Record.request (H.readField o f d) (.readField o f d)
  readStatic c f d := Record.request (H.readStatic c f d) (.readStatic c f d)
  releaseClass c := Record.change (H.releaseClass c) (.releaseClass c)
  pin c := Record.request (H.pin c) (.pin c)
  weaken c := Record.request (H.weaken c) (.weaken c)
  classOfPin p := Record.request (H.classOfPin p) (.classOfPin p)
  classOfWeak w := Record.request (H.classOfWeak w) (.classOfWeak w)
  dropPin p := Record.change (H.dropPin p) (.dropPin p)
  dropWeak w := Record.change (H.dropWeak w) (.dropWeak w)
  isNull o := Record.question (H.isNull o) (.isNull o)
  isInstance o c := Record.request (H.isInstance o c) (.isInstance o c)
  accepts t a := Record.question (H.accepts t a) (.accepts t a)
  note e r := ⟨H.note e r.state, r.events⟩

end Host

end HandleCache

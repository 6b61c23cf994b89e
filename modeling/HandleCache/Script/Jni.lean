import HandleCache.Catalog
import HandleCache.Jni.Holdings
import HandleCache.Script.Run

/-!
# Scripts on the native interface

The dialect of the native interface. Arguments are values of any kind; classes and objects are
written by what their references were made for. Scripts can also wrap objects with their bindings.
-/

namespace HandleCache.Jni

open Script

/-- What only scripts on the native interface can do. -/
inductive Feature where
  | change (c : World.Change)
  | rig (function : String) (fate : Fate)
  | clear
  /-- Wraps an object: what a global reference is to if there is one of the name, or else the
  object of a variable. -/
  | wrap (binding : Given String) (globalName objectName : Option String) (keep : Given String)
  | wrapNew (binding operation : Given String) (arguments : List String) (keep : Given String)
  | callWrapped (name operation : Given String) (arguments : List String)
      (keep : Option String)
  | readWrapped (name operation : Given String) (keep : Option String)
  | describeWrapped (name : Given String)
  | copyWrapped (name keep : Given String)
  /-- Takes the global reference out of a wrapped object, which is no more. -/
  | takeOut (name keep : Given String)
  | dropWrapped (name : String)
  | dropGlobal (name : String)
  /-- Asks a class type for its binding, where its class is missing. -/
  | classType (name : String)

/-! ## Work on holdings -/

/-- An action of a script on the native interface. -/
abbrev Job (α : Type) : Type := Work host Holdings α

/-- Changes the machine alone. -/
def onMachine (f : Machine → Machine) : Job Answer :=
  Action.query fun ws =>
    (.nothing, { ws with store := { ws.store with host := f ws.store.host } })

/-- Changes the holdings alone. -/
def onHoldings (f : Holdings → Holdings) : Job Unit :=
  Action.modify fun ws => { ws with extra := f ws.extra }

/-- A wrapped object by its variable. -/
def wrappedObject (name : Given String) : Job WrappedObject :=
  Work.valueOf (·.extra.wrapped) .noSuchWrapped name

/-- The global reference of a wrapped object. -/
def referenceOf (w : WrappedObject) : Job Reference :=
  Work.gets fun ws => ws.extra.reference w.share

/-- The reference that is to be wrapped: a global one of this name comes first. -/
def referenceToWrap (globalName objectName : Option String) : Job Reference := fun ws =>
  match globalName.bind ws.extra.globals.get?, objectName.bind ws.objects.get? with
  | some s, _ => (.ok (ws.extra.reference s), ws)
  | none, some o => (.ok o, ws)
  | none, none => (.error (.refusal .noSuchObject), ws)

/-- Deletes the global references that nobody holds any more. -/
def sweep (ws : Workspace host Holdings) : Workspace host Holdings :=
  let (holdings, machine) := ws.extra.collect ws.store.host
  { ws with extra := holdings, store := { ws.store with host := machine } }

/-! ## The dialect -/

/-- An object as text. -/
def showObject (m : Machine) (r : Reference) : String := "L:" ++ m.referenceText r

/-- Answers an object. -/
def answerReference (r : Reference) : Job Answer :=
  Work.gets fun ws => .text (showObject ws.store.host r)

/-- The dialect without what only scripts on the native interface can do. -/
def basicDialect : Dialect host Holdings Empty where
  null := (none : Reference)
  readArgument := Value.read
  object? := Value.reference?
  showClass m c := m.referenceText c
  showObject := showObject
  showValue m v := Value.render m.referenceText v
  showMethod m id := m.world.memberText id
  showStaticMethod m id := m.world.memberText id
  showField m id := m.world.memberText id
  showStaticField m id := m.world.memberText id
  trace m := m.trace.map m.showEntry
  journal := Machine.journal
  clear m := { m with trace := [], journal := [] }
  classLookup := Function.findClass.name
  holds := Holdings.holds
  sweep := sweep
  perform step := nomatch step

namespace Feature

/-- Keeps a new wrapped object and answers it. -/
def keepWrapped (keep : Given String) (b : BindingId) (r : Reference) : Job Answer := do
  -- If there is no variable for it, nobody holds the reference and it is deleted again.
  let s ← Action.query fun ws =>
    ((ws.extra.share r).1, { ws with extra := (ws.extra.share r).2 })
  let name ← Work.given keep
  onHoldings fun h => h.keep name ⟨b, s⟩
  answerReference r

/-- Performs what only scripts on the native interface can do. -/
def perform : Feature → Job Answer
  | change c => onMachine fun m => { m with world := m.world.apply c }
  | rig f fate => onMachine fun m => { m with queue := m.queue ++ [(f, fate)] }
  | clear => onMachine fun m => { m with exception := none }
  | wrap binding globalName objectName keep => do
    let id ← Work.bindingId binding
    let b ← Work.bindingOf id
    let o ← referenceToWrap globalName objectName
    keepWrapped keep id (← Work.onHost (Jni.wrap b o))
  | wrapNew binding operation arguments keep => do
    let id ← Work.bindingId binding
    let b ← Work.bindingOf id
    let operation ← Work.given operation
    let args ← basicDialect.arguments arguments
    keepWrapped keep id (← Work.onHost (Jni.wrapNew b operation args))
  | callWrapped name operation arguments keep => do
    let w ← wrappedObject name
    let operation ← Work.given operation
    let args ← basicDialect.arguments arguments
    let b ← Work.bindingOf w.binding
    let o ← referenceOf w
    basicDialect.answerValue keep (← Work.onHost (b.callTrusted operation o args))
  | readWrapped name operation keep => do
    let w ← wrappedObject name
    let operation ← Work.given operation
    let b ← Work.bindingOf w.binding
    let o ← referenceOf w
    basicDialect.answerValue keep (← Work.onHost (b.readTrusted operation o))
  | describeWrapped name => do
    let w ← wrappedObject name
    let b ← Work.bindingOf w.binding
    let o ← referenceOf w
    Work.gets fun ws => .wrapped (showObject ws.store.host o) b.className true
  | copyWrapped name keep => do
    let w ← wrappedObject name
    let keep ← Work.given keep
    onHoldings fun h => h.keep keep w
    pure .nothing
  | takeOut name keep => do
    let w ← wrappedObject name
    let o ← referenceOf w
    let name ← Work.given name
    onHoldings fun h => h.forget name
    let keep ← Work.given keep
    onHoldings fun h => h.keepShare keep w.share
    answerReference o
  | dropWrapped name =>
    forget (·.extra.wrapped)
      (fun vars ws => { ws with extra := { ws.extra with wrapped := vars } }) name
  | dropGlobal name =>
    forget (·.extra.globals)
      (fun vars ws => { ws with extra := { ws.extra with globals := vars } }) name
  | classType name =>
    match ClassType.named? name with
    | none => Work.refuse (.unknownType name)
    | some t => do
      if ← Work.gets fun ws => (ws.store.host.world.visibleClass? t.className).isSome then
        Work.refuse .classPresent
      else
        let l ← Action.query fun ws =>
          let (l, store) := Deferred.ofDeclaration t.declaration ws.store
          (l, { ws with store := store })
        answerBinding none (← Work.onStore l.get)

end Feature

/-- How scripts speak about the native interface. -/
def dialect : Dialect host Holdings Feature :=
  { basicDialect with perform := Feature.perform }

/-- A machine with these classes on which nothing happened yet. -/
def newMachine (classes : List WorldClass) : Machine :=
  { world := { classes } }

end HandleCache.Jni

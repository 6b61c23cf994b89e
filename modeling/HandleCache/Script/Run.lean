import HandleCache.Binding.Call
import HandleCache.Script.Dialect

/-!
# Runs of scripts

A script is a list of steps on one workspace. For each step an entry tells what it came to, which
calls it made, what the cache told meanwhile, and the state of the host afterwards. After each step
what nothing holds any more is given back, and this still belongs to the step.

Where the order of the work is open, trace and journal are brought into ascending order: when all
that a registry knows is resolved the order of the classes is open, and when something is dropped
the order in which its parts are given back.

## Contents

- `Step.perform`: what a step does
- `Entry`: what is told of a step
- `run`: a whole script

## Main statements

- `length_run`: each step has one entry
-/

namespace HandleCache.Script

variable {H : Host} {ξ χ : Type}

/-! ## Answers -/

namespace Dialect

variable (D : Dialect H ξ χ)

/-- The arguments that texts stand for; each must stand for one. -/
def arguments (texts : List String) : Work H ξ (List H.Argument) := fun ws =>
  match texts.mapM (D.readArgument ws.objects.get?) with
  | some args => (.ok args, ws)
  | none => (.error (.refusal .badArguments), ws)

/-- Answers a text about the state of the host. -/
def answerText (f : H.State → String) : Work H ξ Answer :=
  Work.gets fun ws => .text (f ws.store.host)

/-- Answers a value; if it is an object it is kept in a variable, if one is named. -/
def answerValue (keep : Option String) (v : H.Value) : Work H ξ Answer := do
  match D.object? v with
  | some o => Work.keepObject keep o
  | none => pure ()
  answerText fun h => D.showValue h v

/-- Answers an object, which is kept in a variable if one is named. -/
def answerObject (keep : Option String) (o : H.Object) : Work H ξ Answer := do
  Work.keepObject keep o
  answerText fun h => D.showObject h o

end Dialect

/-- Answers the summary of a binding, which is kept in a variable if one is named. -/
def answerBinding (keep : Option String) (b : BindingId) : Work H ξ Answer := do
  let binding ← Work.bindingOf b
  Work.keepBinding keep b
  pure (.text binding.summary)

/-! ## Registries and deferred bindings -/

/-- An action on a registry of the workspace and on the store. -/
def onRegistry {α : Type} (name : String) (x : Shared.Request H α) : Work H ξ α := fun ws =>
  match ws.registries.get? name with
  | none => (.error (.refusal .noSuchRegistry), ws)
  | some r =>
    let (result, s) := x (ws.shared r)
    (result.mapError .fault,
     { ws with registries := ws.registries.put name s.registry, store := s.store })

/-- The name of a registry, of which there must be one. -/
def registryName (name : Given String) : Work H ξ String := do
  let name ← Work.given name
  let _ ← Work.valueNamed (·.registries) .noSuchRegistry name
  pure name

/-- The declarations of these names. -/
def declarations (names : List String) : Work H ξ (List Declaration) :=
  names.mapM (Work.valueNamed (·.declarations) .noSuchDeclaration)

/-- A deferred binding by its variable. -/
def deferred (name : Given String) : Work H ξ Deferred :=
  Work.valueOf (·.deferred) .noSuchDeferred name

/-- Takes a variable away: whether there was one. -/
def forget {α : Type} (vars : Workspace H ξ → Variables α)
    (change : Variables α → Workspace H ξ → Workspace H ξ) (name : String) : Work H ξ Answer :=
  Action.query fun ws =>
    (.flag ((vars ws).get? name).isSome, change ((vars ws).erase name) ws)

/-! ## Steps -/

namespace Dialect

variable (D : Dialect H ξ χ)

/-- The text of a member's handle, looked up in a class. -/
def lookupMember (c : H.ClassRef) (kind : MemberKind) (name signature : String) :
    Action H.State H.Failure String :=
  match kind with
  | .method => written (H.findMethod c name signature) D.showMethod
  | .staticMethod => written (H.findStaticMethod c name signature) D.showStaticMethod
  | .field => written (H.findField c name signature) D.showField
  | .staticField => written (H.findStaticField c name signature) D.showStaticField
where
  /-- The text of a handle that was looked up. -/
  written {ι : Type} (find : Action H.State H.Failure ι) (text : H.State → ι → String) :
      Action H.State H.Failure String := do
    let id ← find
    Action.query fun h => (text h id, h)

/-- Looks members up while a reference to their class is had. -/
def scope (className : String) (members : List (MemberKind × String × String)) :
    H.Request Answer :=
  Host.direct <| Action.bracket (H.findClass className) H.releaseClass fun c => do
    let handles ← members.mapM fun (kind, name, signature) => D.lookupMember c kind name signature
    Action.query fun h => (.scope (D.showClass h c) handles, h)

/-- The text of the handle of an operation. -/
def handleText (kind : MemberKind) (b : Binding H) (operation : String) : H.Request String :=
  match kind with
  | .method => written (b.methodId operation) D.showMethod
  | .staticMethod => written (b.staticMethodId operation) D.showStaticMethod
  | .field => written (b.fieldId operation) D.showField
  | .staticField => written (b.staticFieldId operation) D.showStaticField
where
  /-- The text of a handle that is known. -/
  written {ι : Type} (id : Except (Fault H.Failure) ι) (text : H.State → ι → String) :
      H.Request String := do
    let id ← Action.ofExcept id
    Action.query fun h => (text h id, h)

end Dialect

namespace Step

/-- Performs a step: its answer, or why it has none. -/
def perform (D : Dialect H ξ χ) : Step χ → Work H ξ Answer
  | resolve declaration keep => do
    let d ← Work.declaration declaration
    answerBinding keep (← Work.onStore (Store.resolve d))
  | describe binding => do
    let b ← Work.binding binding
    pure (.binding b.declaration b.keepsClass (b.operations.map (·.name)) b.summary)
  | contains binding operation => do
    let b ← Work.binding binding
    pure (.flag (b.contains (← Work.given operation)))
  | handle kind binding operation => do
    let b ← Work.binding binding
    return .text (← Work.onHost (D.handleText kind b (← Work.given operation)))
  | call trusted binding operation instanceName arguments keep => do
    let b ← Work.binding binding
    let name ← Work.given operation
    let args ← D.arguments arguments
    let o ← Work.object instanceName
    D.answerValue keep (← Work.onHost
      (if trusted then b.callTrusted name o args else b.call name o args))
  | callStatic binding operation arguments keep => do
    let b ← Work.binding binding
    let name ← Work.given operation
    let args ← D.arguments arguments
    D.answerValue keep (← Work.onHost (b.callStatic name args))
  | create binding operation arguments keep => do
    let b ← Work.binding binding
    let name ← Work.given operation
    let args ← D.arguments arguments
    D.answerObject keep (← Work.onHost (b.create name args))
  | read trusted binding operation instanceName arguments keep => do
    let b ← Work.binding binding
    let name ← Work.given operation
    let _ ← D.arguments arguments
    let o ← Work.object instanceName
    D.answerValue keep (← Work.onHost (if trusted then b.readTrusted name o else b.read name o))
  | readStatic binding operation arguments keep => do
    let b ← Work.binding binding
    let name ← Work.given operation
    let _ ← D.arguments arguments
    D.answerValue keep (← Work.onHost (b.readStatic name))
  | acquire binding => do
    let b ← Work.binding binding
    return .text (← Work.onHost
      (b.withClass fun c => Action.query fun h => (D.showClass h c, h)))
  | scope className members => do
    let name ← Work.given className
    Work.onHost (D.scope name (← Work.given members))
  | same first second => do
    let a ← Work.bindingId first
    let b ← Work.bindingId second
    pure (.flag (a == b))
  | drop name kind => do
    let name ← Work.given name
    match ← Work.given kind with
    | .binding => forget (·.bindings) (fun vars ws => { ws with bindings := vars }) name
    | .registry => forget (·.registries) (fun vars ws => { ws with registries := vars }) name
  | registry keep => makeRegistry keep []
  | registryOf keep names => do makeRegistry keep (← declarations names)
  | request r declaration keep => do
    let d ← Work.declaration declaration
    let r ← registryName r
    answerBinding keep (← onRegistry r (Registry.request d))
  | named r className keep => do
    let r ← registryName r
    let name ← Work.given className
    answerBinding keep (← onRegistry r (Registry.named name))
  | preload r => do
    onRegistry (← registryName r) Registry.preload
    pure .nothing
  | peek r className keep => do
    let r ← registryName r
    let name ← Work.given className
    let found ← onRegistry r (Action.query fun s => (Registry.peek s name, s))
    match found with
    | some b => answerBinding keep b
    | none => pure .nothing
  | describeRegistry r => do
    let r ← Work.valueOf (·.registries) .noSuchRegistry r
    pure (.registry r.classNames r.resolutions r.summary)
  | defer declaration keep => do
    let d ← Work.declaration declaration
    let keep ← Work.given keep
    let l ← Action.query fun ws =>
      let (l, store) := Deferred.ofDeclaration d ws.store
      (l, { ws with
        store := store
        deferred := ws.deferred.put keep l
        lasting := ws.lasting ++ [l] })
    Work.gets fun ws => .text (l.summary ws.store)
  | force name keep => do
    let l ← deferred name
    answerBinding keep (← Work.onStore l.get)
  | describeDeferred name keep => do
    let l ← deferred name
    let found ← Work.gets fun ws => l.resolved? ws.store
    let resolved ← found.mapM fun b => do
      Work.keepBinding keep b
      return (← Work.bindingOf b).summary
    Work.gets fun ws => .deferred l.declaration resolved (l.summary ws.store)
  | classType name keep => do
    let l ← deferred name
    let b ← Work.onStore l.get
    Work.keepBinding keep b
    return .classType l.declaration.className (← Work.bindingOf b).summary
  | special step => D.perform step
where
  /-- Makes a registry that knows these declarations. -/
  makeRegistry (keep : Given String) (ds : List Declaration) : Work H ξ Answer := do
    let r ← Work.onStore (Registry.ofDeclarations ds)
    let keep ← Work.given keep
    Action.modify fun ws => { ws with registries := ws.registries.put keep r }
    pure (.text r.summary)

/-- What is told in front of a step: when a registry is made from declarations, which. -/
def foreword (ws : Workspace H ξ) : Step χ → List String
  | registryOf _ names =>
    match names.mapM ws.declarations.get? with
    | some ds => [Registry.declarationsSummary ds]
    | none => []
  | _ => []

end Step

/-! ## Order -/

/-- A list cut in front of each element that begins a part. -/
def cutBefore {α : Type} (begins : α → Bool) : List α → List (List α)
  | [] => []
  | a :: rest =>
    match cutBefore begins rest with
    | [] => [[a]]
    | part :: parts =>
      if part.head?.any begins then [a] :: part :: parts else (a :: part) :: parts

/-- Lines in ascending order. -/
def ascending (lines : List String) : List String :=
  lines.mergeSort fun a b => decide (a ≤ b)

/-- Whether lines come before other lines or are the same: the first line that differs decides, and
of two parts that agree the shorter one comes first. -/
def precedes : List String → List String → Bool
  | [], _ => true
  | _ :: _, [] => false
  | a :: as, b :: bs => if a = b then precedes as bs else decide (a < b)

/-- The parts of a trace, each from a class lookup to the next, in ascending order. -/
def ascendingParts (classLookup : String) (lines : List String) : List String :=
  ((cutBefore classLookup.isPrefixOf lines).mergeSort precedes).flatten

/-- The calls of a step as they are told. -/
def Step.arrangeTrace (classLookup : String) : Step χ → List String → List String
  | preload _ => ascendingParts classLookup
  | drop _ _ => ascending
  | _ => id

/-- What the cache told during a step as it is told. -/
def Step.arrangeLog : Step χ → List String → List String
  | preload _ => ascending
  | _ => id

/-! ## Scripts -/

/-- What a step came to. -/
inductive Outcome (ε : Type) where
  /-- It was performed and answered. -/
  | answered (a : Answer)
  /-- It was performed and is not answered. -/
  | faulted (f : Fault ε)
  /-- It could not be performed. -/
  | refused (r : Refusal)
  deriving DecidableEq, Repr

/-- The outcome of an action that was performed. -/
def Outcome.ofExcept {ε : Type} : Except (Trouble ε) Answer → Outcome ε
  | .ok a => answered a
  | .error (.fault f) => faulted f
  | .error (.refusal r) => refused r

/-- What is told of a step. -/
structure Entry (H : Host) where
  /-- What it came to. -/
  outcome : Outcome H.Failure
  /-- The calls that the host received. -/
  trace : List String
  log : List String
  state : H.State

namespace Dialect

variable (D : Dialect H ξ χ)

/-- A workspace for a script. -/
def workspace (declarations : Variables Declaration) (state : H.State) (extra : ξ) :
    Workspace H ξ :=
  { declarations, store := { host := state }, objects := [("null", D.null)], extra }

/-- Clears what the host remembers of earlier steps. -/
def prepare (ws : Workspace H ξ) : Workspace H ξ :=
  { ws with store := { ws.store with host := D.clear ws.store.host } }

/-- Gives back what nothing holds any more, the rest of the workspace first. -/
def tidy (ws : Workspace H ξ) : Workspace H ξ :=
  (D.sweep ws).collect D.holds

/-- Takes a step: what is told of it, and the workspace after it. -/
def take (step : Step χ) (ws : Workspace H ξ) : Entry H × Workspace H ξ :=
  let (result, ws') := step.perform D (D.prepare ws)
  -- What the step let go of is given back at once, and shows in its trace.
  let ws' := D.tidy ws'
  let state := ws'.store.host
  ({ outcome := .ofExcept result
     trace := step.arrangeTrace D.classLookup (D.trace state)
     log := step.foreword ws ++ step.arrangeLog ((D.journal state).map LogEntry.render)
     state }, ws')

/-- Passes over a step that cannot be understood. -/
def refuse (r : Refusal) (ws : Workspace H ξ) : Entry H × Workspace H ξ :=
  let ws := D.prepare ws
  ({ outcome := .refused r, trace := [], log := [], state := ws.store.host }, ws)

/-- Runs the steps of a script, those that cannot be understood being passed over. -/
def run : List (Except Refusal (Step χ)) → Workspace H ξ → List (Entry H)
  | [], _ => []
  | step :: rest, ws =>
    let (entry, ws) :=
      match step with
      | .ok step => D.take step ws
      | .error r => D.refuse r ws
    entry :: run rest ws

theorem length_run (steps : List (Except Refusal (Step χ))) (ws : Workspace H ξ) :
    (D.run steps ws).length = steps.length := by
  induction steps generalizing ws with
  | nil => rfl
  | cons step rest ih => simp [run, ih]

end Dialect

end HandleCache.Script

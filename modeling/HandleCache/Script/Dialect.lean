import HandleCache.Script.Step
import HandleCache.Script.Workspace

/-!
# Dialects

How scripts speak about a kind of host: how arguments are read, how what the host hands out is
written, where its trace and its journal are found, and which steps only scripts on it have. Scripts
run on any host that has a dialect.

## Contents

- `Work`: an action of a script on its workspace
- `Dialect`: what scripts have to know of a host
-/

namespace HandleCache.Script

/-! ## Work on a workspace -/

/-- Why a step has no answer. -/
inductive Trouble (ε : Type) where
  /-- It cannot be performed. -/
  | refusal (r : Refusal)
  /-- It was performed and is not answered. -/
  | fault (f : Fault ε)
  deriving DecidableEq, Repr

/-- An action of a script on its workspace. -/
abbrev Work (H : Host) (ξ α : Type) : Type :=
  Action (Workspace H ξ) (Trouble H.Failure) α

namespace Work

variable {H : Host} {ξ α : Type}

/-- Stops because the step cannot be performed. -/
def refuse (r : Refusal) : Work H ξ α := Action.fail (.refusal r)

/-- Looks at the workspace. -/
def gets (f : Workspace H ξ → α) : Work H ξ α := Action.query fun ws => (f ws, ws)

/-- An entry of the step, which is needed now. -/
def given (entry : Given α) : Work H ξ α := Action.ofExcept (entry.mapError .refusal)

/-- The value of a variable by its name; there must be one. -/
def valueNamed (vars : Workspace H ξ → Variables α) (missing : Refusal) (name : String) :
    Work H ξ α := fun ws =>
  match (vars ws).get? name with
  | some a => (.ok a, ws)
  | none => (.error (.refusal missing), ws)

/-- The value of the variable that an entry of the step names. -/
def valueOf (vars : Workspace H ξ → Variables α) (missing : Refusal) (name : Given String) :
    Work H ξ α := do
  valueNamed vars missing (← given name)

/-- An action on the store. -/
def onStore (x : Store.Request H α) : Work H ξ α := fun ws =>
  Action.mapError Trouble.fault (fun ws =>
    ((x ws.store).1, { ws with store := (x ws.store).2 })) ws

/-- An action on the host. -/
def onHost (x : H.Request α) : Work H ξ α := onStore (Store.onHost x)

/-- A declaration of the script. -/
def declaration (name : Given String) : Work H ξ Declaration :=
  valueOf (·.declarations) .noSuchDeclaration name

/-- A binding by its variable. -/
def bindingId (name : Given String) : Work H ξ BindingId :=
  valueOf (·.bindings) .noSuchBinding name

/-- The binding of a number. -/
def bindingOf (b : BindingId) : Work H ξ (Binding H) := fun ws =>
  match ws.store.binding? b with
  | some binding => (.ok binding, ws)
  | none => (.error (.refusal .noSuchBinding), ws)

/-- A binding by its variable, itself. -/
def binding (name : Given String) : Work H ξ (Binding H) := do
  bindingOf (← bindingId name)

/-- An object by its variable. -/
def object (name : String) : Work H ξ H.Object :=
  valueNamed (·.objects) .noSuchObject name

/-- Keeps a binding in a variable, if one is named. -/
def keepBinding (keep : Option String) (b : BindingId) : Work H ξ Unit :=
  Action.modify fun ws => { ws with bindings := ws.bindings.keep keep b }

/-- Keeps an object in a variable, if one is named. -/
def keepObject (keep : Option String) (o : H.Object) : Work H ξ Unit :=
  Action.modify fun ws => { ws with objects := ws.objects.keep keep o }

end Work

/-! ## Dialects -/

/-- What scripts have to know of a host; `ξ` is what only scripts on it have, and `χ` are the steps
that only they can take. -/
structure Dialect (H : Host) (ξ χ : Type) where
  null : H.Object
  /-- The argument that a text stands for, given the objects that names stand for. -/
  readArgument : (String → Option H.Object) → String → Option H.Argument
  object? : H.Value → Option H.Object
  showClass : H.State → H.ClassRef → String
  showObject : H.State → H.Object → String
  showValue : H.State → H.Value → String
  showMethod : H.State → H.MethodId → String
  showStaticMethod : H.State → H.StaticMethodId → String
  showField : H.State → H.FieldId → String
  showStaticField : H.State → H.StaticFieldId → String
  /-- The calls since the host was last cleared, as lines. -/
  trace : H.State → List String
  /-- What the cache told since the host was last cleared. -/
  journal : H.State → List LogEntry
  clear : H.State → H.State
  /-- The name of the request that looks a class up, as it stands in the trace. -/
  classLookup : String
  /-- What the rest of a workspace holds. -/
  holds : ξ → BindingId → Bool
  /-- Gives back what nothing in the rest of a workspace holds any more. -/
  sweep : Workspace H ξ → Workspace H ξ
  /-- Performs a step that only scripts on this kind of host can take. -/
  perform : χ → Work H ξ Answer

end HandleCache.Script

import HandleCache.Script.Run
import HandleCache.Vm.Counting
import HandleCache.World.Value

/-!
# Scripts on the counting machine

The dialect of the counting machine. It keeps no trace; arguments are whole numbers; classes,
objects and members are written as the numbers that they are.
-/

namespace HandleCache.Counting

open Script

/-- What only scripts on the counting machine can do. -/
inductive Feature where
  /-- Clears the weak references to a class. -/
  | unload (className : String)
  /-- Makes pinning fail, or work again. -/
  | failPins (on : Bool)
  /-- Begins a new session on the same machine. -/
  | session
  deriving DecidableEq, Repr

/-- A class by its number. -/
def showClass (c : Nat) : String := s!"ClassRef({c})"

/-- An object by its number. -/
def showObject : ObjectNumber → String
  | some i => s!"L:ObjectRef(Some({i}))"
  | none => "L:ObjectRef(None)"

/-- A value: a whole number or an object. -/
def showValue : Value → String
  | .int v => s!"I:{v.toInt}"
  | .object o => showObject o

/-- A member by its numbers. -/
def showMember (id : MemberId) : String :=
  Text.record "MemberId" [("class", toString id.owner), ("member", toString id.index)]

/-- The argument that a text stands for, which must be a whole number. -/
def readArgument (text : String) : Option Int32 :=
  match HandleCache.Value.read (fun _ => (none : Option Empty)) text with
  | some (.int v) => some v
  | _ => none

/-- The machine after what only scripts on it can do; a session has nothing of its own. -/
def Feature.apply : Feature → Machine → Machine
  | unload name, m => m.unload name
  | failPins on, m => { m with pinsFail := on }
  | session, m => m

/-- How scripts speak about the counting machine. -/
def dialect : Dialect host Unit Feature where
  null := (none : ObjectNumber)
  readArgument _ := readArgument
  object?
    | .object o => some o
    | .int _ => none
  showClass _ := showClass
  showObject _ := showObject
  showValue _ := showValue
  showMethod _ := showMember
  showStaticMethod _ := showMember
  showField _ := showMember
  showStaticField _ := showMember
  trace _ := []
  journal := Machine.journal
  clear m := { m with journal := [] }
  classLookup := ""
  holds _ _ := false
  sweep ws := ws
  perform feature := Action.query fun ws =>
    (.nothing, { ws with store := { ws.store with host := feature.apply ws.store.host } })

end HandleCache.Counting

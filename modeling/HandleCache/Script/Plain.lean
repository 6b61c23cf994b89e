import HandleCache.Script.Run
import HandleCache.Vm.Plain

/-!
# Scripts on the plain machine

The dialect of the plain machine that fails on demand and keeps its events. Arguments are values of
any kind; classes, objects and members are written by their names.
-/

namespace HandleCache.Plain

open Script

/-- What only scripts on the plain machine can do. -/
inductive Feature where
  | change (c : World.Change)
  /-- Queues something for a kind of request; nothing can be queued for a request that never
  fails. -/
  | rig (service : Option Service) (fate : Fate)
  /-- Clears the pending exception, of which there is none on this machine. -/
  | clear

/-- The world of a recorded machine. -/
def worldOf (s : traced.State) : World := s.state.state.world

/-- The machine after what only scripts on it can do. -/
def Feature.apply : Feature → traced.State → traced.State
  | change c, s =>
    let m := s.state.state
    { s with state := { s.state with state := { m with world := m.world.apply c } } }
  | rig (some service) fate, s =>
    { s with state := { s.state with queue := s.state.queue ++ [(service, fate)] } }
  | rig none _, s => s
  | clear, s => s

/-- The machine without its events and its journal. -/
def forgetPast (s : traced.State) : traced.State :=
  ⟨{ s.state with state := { s.state.state with journal := [] } }, []⟩

/-- How scripts speak about the plain machine. -/
def dialect : Dialect traced Unit Feature where
  null := (none : ObjectId)
  -- An argument can be null even while a variable of that name holds an object.
  readArgument lookup := Value.read (ObjectId.named lookup)
  object? := Value.reference?
  showClass s c := (worldOf s).className c
  showObject s o := "L:" ++ (worldOf s).objectText o
  showValue s v := Value.render (worldOf s).objectText v
  showMethod s := (worldOf s).memberText
  showStaticMethod s := (worldOf s).memberText
  showField s := (worldOf s).memberText
  showStaticField s := (worldOf s).memberText
  trace s := s.events.filterMap (showEvent (worldOf s))
  journal s := s.state.state.journal
  clear := forgetPast
  classLookup := Service.findClass.name
  holds _ _ := false
  sweep ws := ws
  perform feature := Action.query fun ws =>
    (.nothing, { ws with store := { ws.store with host := feature.apply ws.store.host } })

/-- A machine with these classes on which nothing happened yet. -/
def newMachine (classes : List WorldClass) : traced.State :=
  ⟨⟨{ world := { classes } }, []⟩, []⟩

end HandleCache.Plain

import HandleCache.Binding.Ask
import HandleCache.Jni.Wrapped

/-!
# What happens on a machine

Between two requests to a binding the machine does not stand still: other bindings are resolved and
used, classes come and go, references are deleted and functions are made to go wrong.

## Contents

- `Happening`: one thing that happens
- `Machine.after`: the machine after a run of them
- `Turn`, `Machine.takeTurns`: the same with several sessions
-/

namespace HandleCache.Jni

/-- What can happen on a machine, by the cache or from outside. -/
inductive Happening where
  | resolve (d : Declaration)
  | ask (b : Binding host) (ask : Ask host)
  | wrap (b : Binding host) (o : Reference)
  | wrapNew (b : Binding host) (name : String) (args : List (Value Reference))
  /-- A binding gives back what it keeps of its class. -/
  | release (b : Binding host)
  /-- The program deletes a reference that it holds. -/
  | delete (kind : ReferenceKind) (r : Reference)
  | change (c : World.Change)
  /-- A function is made to go wrong. -/
  | rig (function : String) (fate : Fate)
  | clear

namespace Machine

/-- The machine after one thing has happened, whatever came of it. -/
def afterOne (m : Machine) : Happening → Machine
  | .resolve d => (Binding.resolve host d m).2
  | .ask b a => (b.answer a m).2
  | .wrap b o => (Jni.wrap b o m).2
  | .wrapNew b name args => (Jni.wrapNew b name args m).2
  | .release b => b.release m
  | .delete kind r => m.deleteReference kind r
  | .change c => { m with world := m.world.apply c }
  | .rig f fate => { m with queue := m.queue ++ [(f, fate)] }
  | .clear => { m with exception := none }

/-- The machine after all this has happened, one after the other. -/
def after (m : Machine) (run : List Happening) : Machine := run.foldl afterOne m

end Machine

/-- One turn of a run in which several sessions take part. -/
inductive Turn where
  | happens (h : Happening)
  /-- Another session goes on, in which this exception is pending, if any. -/
  | session (pending : Option String)

namespace Machine

/-- The machine after one turn. Sessions share all but the exception that is pending. -/
def takeTurn (m : Machine) : Turn → Machine
  | .happens h => m.afterOne h
  | .session pending => { m with exception := pending }

/-- The machine after all these turns. -/
def takeTurns (m : Machine) (turns : List Turn) : Machine := turns.foldl takeTurn m

end Machine

end HandleCache.Jni

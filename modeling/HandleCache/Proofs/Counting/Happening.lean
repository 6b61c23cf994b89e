import HandleCache.Binding.Ask
import HandleCache.Script.Counting

/-!
# What happens on a counting machine

Between two requests to a binding the machine does not stand still: other bindings are resolved,
used and dropped, sessions begin, weak references are cleared and pinning is made to fail.

## Contents

- `Happening`: one thing that happens
- `Machine.after`: the machine after a run of them
-/

namespace HandleCache.Counting

/-- What can happen on a machine, by the cache or from outside. -/
inductive Happening where
  | resolve (d : Declaration)
  | ask (b : Binding host) (ask : Ask host)
  /-- A binding gives back what it keeps of its class. -/
  | release (b : Binding host)
  | feature (f : Feature)

namespace Machine

/-- The machine after one thing has happened, whatever came of it. -/
def afterOne (m : Machine) : Happening → Machine
  | .resolve d => (Binding.resolve host d m).2
  | .ask b a => (b.answer a m).2
  | .release b => b.release m
  | .feature f => f.apply m

/-- The machine after all this has happened, one after the other. -/
def after (m : Machine) (run : List Happening) : Machine := run.foldl afterOne m

end Machine

end HandleCache.Counting

import HandleCache.Binding.Call
import HandleCache.Jni.Host

/-!
# Wrapped objects

An object that is held by a global reference together with the binding of its class. It is checked
once, when it is wrapped, to be there and to be of the class; calls through it go straight to the
handles after that, in whatever frame they are made.

## Contents

- `wrap`: wraps an object that is there already
- `wrapNew`: makes an object and wraps it
-/

namespace HandleCache.Jni

/-- A global reference to an object, which is not checked. -/
def holdGlobally (o : Reference) : host.Request Reference :=
  Host.direct (H := host) (makeGlobal o)

/-- Wraps an object, which must be there and of the bound class: answers the global reference to
hold it by. -/
def wrap (b : Binding host) (o : Reference) : host.Request Reference := do
  if o.isNone then Action.fail (.nullInstance b.className "new")
  else
    b.requireInstance o
    holdGlobally o

/-- Makes an object through a constructor and wraps it; the local reference to it is deleted, also
if it cannot be wrapped. -/
def wrapNew (b : Binding host) (name : String) (args : List (Value Reference)) :
    host.Request Reference :=
  Action.bracket (b.create name args) dropLocal holdGlobally

end HandleCache.Jni

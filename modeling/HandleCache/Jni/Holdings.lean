import HandleCache.Jni.Wrapped
import HandleCache.Script.Workspace

/-!
# Holdings

What a program keeps of wrapped objects. A global reference is shared by the copies of a wrapped
object and by those who took it out, and is deleted once nobody holds it any more; a wrapped object
holds its binding as well.

## Contents

- `WrappedObject`: a share of a global reference with a binding
- `Holdings`: wrapped objects and bare global references by name
- `Holdings.collect`: deletes the global references that nobody holds
-/

namespace HandleCache.Jni

open Script

/-- A global reference by its number among those that were made for wrapped objects. -/
abbrev ShareId := Nat

/-- A wrapped object: the binding of its class, and the global reference it is held by. -/
structure WrappedObject where
  binding : BindingId
  share : ShareId
  deriving DecidableEq, Repr

/-- What a program keeps of wrapped objects. -/
structure Holdings where
  /-- The global references that were made for wrapped objects, by number. -/
  shares : List Reference := []
  /-- Those that were deleted. -/
  deleted : List ShareId := []
  wrapped : Variables WrappedObject := []
  /-- Global references that were taken out of wrapped objects. -/
  globals : Variables ShareId := []

namespace Holdings

/-- The global reference of a number. -/
def reference (h : Holdings) (s : ShareId) : Reference := (h.shares[s]?).join

/-- Adds a global reference, which nobody holds yet. -/
def share (h : Holdings) (r : Reference) : ShareId × Holdings :=
  (h.shares.length, { h with shares := h.shares ++ [r] })

/-- Keeps a wrapped object; copies of it share its global reference. -/
def keep (h : Holdings) (name : String) (w : WrappedObject) : Holdings :=
  { h with wrapped := h.wrapped.put name w }

/-- Forgets a wrapped object. -/
def forget (h : Holdings) (name : String) : Holdings :=
  { h with wrapped := h.wrapped.erase name }

/-- Keeps a global reference by itself. -/
def keepShare (h : Holdings) (name : String) (s : ShareId) : Holdings :=
  { h with globals := h.globals.put name s }

/-- Whether a wrapped object holds a binding. -/
def holds (h : Holdings) (b : BindingId) : Bool :=
  h.wrapped.any fun w => w.binding == b

/-- Whether a global reference is held by a wrapped object, or was taken out of one. -/
def holdsShare (h : Holdings) (s : ShareId) : Bool :=
  h.wrapped.any (fun w => w.share == s) || h.globals.any (· == s)

/-- Deletes the global references that nobody holds any more. -/
def collect (h : Holdings) (m : Machine) : Holdings × Machine :=
  let gone := unheld h.shares.length h.deleted h.holdsShare
  ({ h with deleted := h.deleted ++ gone },
   gone.foldl (fun m s => dropGlobal (h.reference s) m) m)

end Holdings

end HandleCache.Jni

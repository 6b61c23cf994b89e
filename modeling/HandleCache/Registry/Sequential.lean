import HandleCache.Registry.Threads

/-!
# One request after the other

A registry as a single thread uses it: it is made from declarations, and then each operation runs to
its end before the next one begins. Between two operations, and for each of them, the host may be
another one than before.

## Contents

- `Inquiry`: what a registry is asked for a binding of
- `Registry.Happening`: one thing that happens to a registry
- `Shared.Reached`: registries with their stores after any run of them
-/

namespace HandleCache

variable {H : Host}

/-- What a registry is asked for a binding of: a declaration, or a class that is known. -/
inductive Inquiry where
  | declared (d : Declaration)
  | named (name : String)

/-- The class that is asked for. -/
def Inquiry.className : Inquiry → String
  | declared d => d.className
  | named name => name

namespace Registry

/-- The binding that is asked for. -/
def answer : Inquiry → Shared.Request H BindingId
  | .declared d => request d
  | .named name => named name

/-- Asks for classes by name, one after the other, up to the first that is not answered. -/
def namedAll : List String → Shared.Request H Unit
  | [] => pure ()
  | name :: rest => do
    let _ ← named name
    namedAll rest

/-- What can happen to a registry. -/
inductive Happening (H : Host) where
  | inquiry (q : Inquiry)
  | preload (arrangement : Arrangement)
  /-- A binding is asked for that may be there already. -/
  | peek (name : String)
  /-- What comes next is done on a host in another state. -/
  | elsewhere (host : H.State)

end Registry

namespace Shared

/-- The same registry on a host in this state. -/
def withHost (h : H.State) (s : Shared H) : Shared H :=
  { s with store := { s.store with host := h } }

/-- A registry after one thing has happened, whatever came of it. -/
def afterOne (s : Shared H) : Registry.Happening H → Shared H
  | .inquiry q => (Registry.answer q s).2
  | .preload arrangement => (Registry.preloadAlong (arrangement.order s.pending) s).2
  | .peek _ => s
  | .elsewhere h => s.withHost h

/-- A registry was made from declarations that were accepted, if only from none, and then this and
that has happened. -/
inductive Reached : Shared H → Prop where
  | made {ds : List Declaration} {store store' : Store H} {r : Registry} :
      Registry.ofDeclarations ds store = (.ok r, store') → Reached ⟨r, store'⟩
  | next {s : Shared H} (h : Registry.Happening H) : Reached s → Reached (s.afterOne h)

end Shared

end HandleCache

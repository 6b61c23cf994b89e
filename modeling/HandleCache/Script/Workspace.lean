import HandleCache.Registry.Basic
import HandleCache.Registry.Deferred

/-!
# Workspaces

What a script works with: a store, and variables for bindings, objects, registries and deferred
bindings, each kind in a name space of its own. A workspace is also where ownership shows. A binding
is shared by everything that holds it, and what it keeps of its class is given back once nothing
holds it any more.

## Contents

- `Variables`: values by name
- `Workspace`: the store with the variables, and the bindings that were given back
- `Workspace.holds`: whether anything holds a binding
- `Workspace.collect`: gives back what nothing holds

## Main statements

- `Variables.get?_put`: a variable is what was put into it last
- `unheld_of_mem`: what is given back is held by nothing, and was not given back before
-/

namespace HandleCache.Script

/-! ## Variables -/

/-- Values by name, each name once. -/
abbrev Variables (α : Type) : Type := List (String × α)

namespace Variables

variable {α : Type}

/-- The value of a variable. -/
def get? (vars : Variables α) (name : String) : Option α :=
  (vars.find? (·.1 == name)).map (·.2)

/-- The variables without one. -/
def erase (vars : Variables α) (name : String) : Variables α :=
  vars.filter (·.1 != name)

/-- Puts a value into a variable. -/
def put (vars : Variables α) (name : String) (value : α) : Variables α :=
  (name, value) :: erase vars name

/-- Puts a value into a variable, if one is named. -/
def keep (vars : Variables α) (name : Option String) (value : α) : Variables α :=
  match name with
  | some name => put vars name value
  | none => vars

/-- Whether a variable has a value that passes a test. -/
def any (vars : Variables α) (p : α → Bool) : Bool :=
  List.any vars fun entry => p entry.2

theorem get?_erase (vars : Variables α) (name other : String) :
    get? (erase vars name) other = if other = name then none else get? vars other := by
  by_cases h : other = name
  · subst h
    simp [get?, erase]
  · simp only [get?, erase, List.find?_filter, h, if_false]
    congr 2
    funext entry
    by_cases he : entry.1 = other
    · simp [he, h]
    · simp [he]

theorem get?_put (vars : Variables α) (name : String) (value : α) (other : String) :
    get? (put vars name value) other = if other = name then some value else get? vars other := by
  by_cases h : other = name
  · subst h
    simp [get?, put]
  · have hne : (name == other) = false := by simpa using Ne.symm h
    have := get?_erase vars name other
    simp only [h, if_false] at this ⊢
    rw [← this]
    simp [get?, put, hne]

end Variables

/-! ## What nothing holds -/

/-- Of so many numbered things, those that nothing holds and that were not given back before. -/
def unheld (count : Nat) (released : List Nat) (held : Nat → Bool) : List Nat :=
  (List.range count).filter fun i => !released.contains i && !held i

/-- What is given back is held by nothing, and was not given back before. -/
theorem unheld_of_mem {count : Nat} {released : List Nat} {held : Nat → Bool} {i : Nat}
    (h : i ∈ unheld count released held) : held i = false ∧ i ∉ released ∧ i < count := by
  simp only [unheld, List.mem_filter, List.mem_range, Bool.and_eq_true, Bool.not_eq_true'] at h
  refine ⟨h.2.2, ?_, h.1⟩
  intro hmem
  simp [hmem] at h

/-- Nothing is given back twice at once. -/
theorem unheld_nodup (count : Nat) (released : List Nat) (held : Nat → Bool) :
    (unheld count released held).Nodup :=
  List.nodup_range.filter _

/-! ## Workspaces -/

/-- What a script works with; `ξ` is what only scripts on this kind of host have. -/
structure Workspace (H : Host) (ξ : Type) where
  /-- The declarations that the script refers to. -/
  declarations : Variables Declaration
  store : Store H
  bindings : Variables BindingId := []
  objects : Variables H.Object
  registries : Variables Registry := []
  deferred : Variables Deferred := []
  /-- All deferred bindings that were ever made; they last for good. -/
  lasting : List Deferred := []
  /-- The bindings whose class was given back. -/
  released : List BindingId := []
  /-- What only scripts on this kind of host have. -/
  extra : ξ

namespace Workspace

variable {H : Host} {ξ : Type}

/-- A registry of the workspace with its store. -/
def shared (ws : Workspace H ξ) (r : Registry) : Shared H := ⟨r, ws.store⟩

/-- Whether a variable, a registry or a deferred binding holds a binding. -/
def holds (ws : Workspace H ξ) (b : BindingId) : Bool :=
  ws.bindings.any (· == b)
    || ws.registries.any (fun r => (Registry.kept (ws.shared r)).contains b)
    || ws.lasting.any (fun l => l.resolved? ws.store == some b)

/-- Gives back what the bindings keep that nothing holds any more; `others` tells what the rest
of the workspace holds. -/
def collect (others : ξ → BindingId → Bool) (ws : Workspace H ξ) : Workspace H ξ :=
  -- Bindings are given back in the order in which they were made.
  let gone := unheld ws.store.bindings.length ws.released fun b => ws.holds b || others ws.extra b
  { ws with
    store := gone.foldl Store.release ws.store
    released := ws.released ++ gone }

end Workspace

end HandleCache.Script

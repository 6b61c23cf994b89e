import HandleCache.Registry.Threads
import HandleCache.Script.Counting

/-!
# Deals

What programs do with bindings on the counting machine, one deal after the other: they take the
steps of scripts, and have registries resolve what they know in any order of visit. What a deal lets
go of is given back before the next one.

## Contents

- `Deal`, `Deal.take`, `Deal.takeAll`: a deal, and the workspace after one or all of a list
- `Workspace.live`: the bindings that something holds
- `Store.wantsPin`, `Store.pinsDue`: the bindings whose class is to be pinned, and how many of them
  were not given back

## Main statements

- `Store.pinsDue_append`: a new binding is due if it wants a pin
- `Store.pinsDue_eq_add`: a binding that is given back is due no more
-/

namespace HandleCache

/-! ## Bindings that want a pin -/

namespace Store

variable {H : Host}

/-- Whether the class of a binding is to be pinned, by its declaration. -/
def wantsPin (s : Store H) (b : BindingId) : Bool :=
  (s.binding? b).any (·.declaration.retention == .global)

/-- How many bindings want a pin, of those that were not given back. -/
def pinsDue (released : List BindingId) (s : Store H) : Nat :=
  (List.range s.bindings.length).countP fun b => s.wantsPin b && !released.contains b

end Store

namespace Script

/-- The bindings that something holds, each once. -/
def Workspace.live {H : Host} {ξ : Type} (ws : Workspace H ξ) : List BindingId :=
  (List.range ws.store.bindings.length).filter ws.holds

end Script

namespace Counting

open Script

/-! ## Deals -/

/-- What a program does at once. -/
inductive Deal where
  | step (step : Step Feature)
  /-- Has a registry resolve all that it knows, in an order that depends on what there is. -/
  | preloadAlong (registry : String) (arrangement : Arrangement)

namespace Deal

/-- What is done, before anything is given back. -/
def perform : Deal → Work host Unit Answer
  | step s => s.perform dialect
  | preloadAlong r a => do
    onRegistry r fun s => Registry.preloadAlong (a.order s.pending) s
    pure .nothing

/-- The workspace after a deal, whatever came of it. -/
def take (deal : Deal) (ws : Workspace host Unit) : Workspace host Unit :=
  dialect.tidy (deal.perform (dialect.prepare ws)).2

/-- The workspace after all these deals. -/
def takeAll (deals : List Deal) (ws : Workspace host Unit) : Workspace host Unit :=
  deals.foldl (fun ws deal => deal.take ws) ws

end Deal

end Counting

/-! ## What is due -/

section

variable {H : Host} {s : Store H} {released : List BindingId}

/-- A new binding is due if it wants a pin, and the others are due as they were. -/
theorem Store.pinsDue_append (earlier : ∀ b ∈ released, b < s.bindings.length) (h : H.State)
    (b : Binding H) :
    Store.pinsDue released { s with host := h, bindings := s.bindings ++ [b] } =
      Store.pinsDue released s + if b.declaration.retention = .global then 1 else 0 := by
  have fresh : s.bindings.length ∉ released := fun old => absurd (earlier _ old) (Nat.lt_irrefl _)
  have others : ∀ i ∈ List.range s.bindings.length,
      (({ s with host := h, bindings := s.bindings ++ [b] } : Store H).wantsPin i &&
        !released.contains i) = true ↔ (s.wantsPin i && !released.contains i) = true := by
    intro i there
    rw [Store.wantsPin, Store.binding?, List.getElem?_append_left (List.mem_range.mp there)]
    rfl
  simp only [Store.pinsDue, List.length_append, List.length_singleton, List.range_succ,
    List.countP_append, List.countP_congr others]
  congr 1
  simp [Store.wantsPin, Store.binding?, fresh]

/-- Of what is due, what is wanted by bindings that nothing holds is due no more once they are given
back. -/
theorem Store.pinsDue_eq_add (held : BindingId → Bool) :
    Store.pinsDue released s =
      Store.pinsDue (released ++ Script.unheld s.bindings.length released held) s +
        (Script.unheld s.bindings.length released held).countP s.wantsPin := by
  rw [Store.pinsDue, List.countP_eq_countP_filter_add _ _ held, List.countP_filter,
    List.countP_filter]
  congr 1
  · -- What is held is not given back, and so is due as before.
    apply List.countP_congr
    intro b there
    have mem : b ∈ Script.unheld s.bindings.length released held ↔
        b ∉ released ∧ held b = false := by
      simp [Script.unheld, List.mem_range.mp there]
    by_cases gone : b ∈ released <;> cases h : held b <;> simp [mem, gone, h]
  · rw [Script.unheld, List.countP_filter]
    apply List.countP_congr
    intro b _
    simp [and_assoc]

/-- Once all that nothing holds was given back, and nothing else, the live bindings are due. -/
theorem Script.Workspace.countP_live {ξ : Type} {ws : Script.Workspace H ξ}
    (given : ∀ b < ws.store.bindings.length, ws.holds b = true ↔ b ∉ ws.released) :
    ws.live.countP ws.store.wantsPin = ws.store.pinsDue ws.released := by
  rw [Script.Workspace.live, List.countP_filter, Store.pinsDue]
  apply List.countP_congr
  intro b there
  simp [given b (List.mem_range.mp there)]

end

end HandleCache

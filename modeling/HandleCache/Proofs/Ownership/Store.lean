import HandleCache.Proofs.Counting.Lookups
import HandleCache.Proofs.Counting.Tally
import HandleCache.Proofs.Ownership.Deal

/-!
# Stores in the course of a deal

While a deal goes on bindings are made and cells are filled, and nothing is given back. Every pin
that is out belongs to a binding that was not given back. And whatever a cell yields was held when
the deal began, or was made since: this is what keeps a binding that was given back from being held
again.

## Contents

- `Honest`: a binding that keeps what its declaration asks for
- `Heir`, `Covered`: bindings that may be held, and cells that yield no others
- `InOrder`: a store in the course of a deal
- `SharedInOrder`: and a registry with it

## Main statements

- `pins_of_resolve`, `pins_of_resolve_error`: a resolution makes a pin exactly for a binding that
  wants one
- `answers_resolve`, `answers_fill`: the store stays in order, and the bindings answered may be held
- `answers_request`, `answers_named`, `keeps_preloadAlong`: so does a registry with its store
-/

namespace HandleCache.Counting

open HandleCache.Action Script

/-! ## Resolutions -/

/-- The binding keeps of its class what its declaration asks for. -/
def Honest (b : Binding host) : Prop := ∃ c, Kept c b.declaration.retention b.retained

theorem Honest.keepsClass_iff {b : Binding host} (honest : Honest b) :
    b.keepsClass = true ↔ b.declaration.retention ≠ .drop := by
  obtain ⟨c, kept⟩ := honest
  unfold Binding.keepsClass
  generalize b.retained = retained at kept ⊢
  generalize b.declaration.retention = retention at kept ⊢
  cases kept <;> simp [Retained.isSome]

section

variable {d : Declaration} {m t : Machine} {b : Binding host} {fault : Fault host.Failure}

theorem Home.honest {l : Layout} {c : Nat} (home : Home d l c b) : Honest b :=
  ⟨c, by rw [home.declaration]; exact home.kept⟩

/-- A resolution that succeeds makes a pin if the declaration asks for one. -/
theorem pins_of_resolve (resolved : Binding.resolve host d m = (.ok b, t)) :
    t.livePins = m.livePins + (if d.retention = .global then 1 else 0) ∧
      t.liveClasses = m.liveClasses := by
  rcases costs_resolve m.world d with ⟨b', cost⟩ | ⟨e, l, k, cost, -⟩
  · obtain ⟨m', run, -, tally⟩ := cost m rfl
    cases run.symm.trans resolved
    have pins := congrArg (·.2.2.2) tally
    have classes := congrArg (·.2.2.1) tally
    exact ⟨pins, classes.trans (Int.add_zero _)⟩
  · obtain ⟨m', run, -⟩ := cost m rfl
    cases run.symm.trans resolved

/-- A resolution that fails leaves no pin behind. -/
theorem pins_of_resolve_error (failed : Binding.resolve host d m = (.error fault, t)) :
    t.livePins = m.livePins ∧ t.liveClasses = m.liveClasses := by
  rcases costs_resolve m.world d with ⟨b', cost⟩ | ⟨e, l, k, cost, -⟩
  · obtain ⟨m', run, -⟩ := cost m rfl
    cases run.symm.trans failed
  · obtain ⟨m', run, -, tally⟩ := cost m rfl
    cases run.symm.trans failed
    have pins := congrArg (·.2.2.2) tally
    have classes := congrArg (·.2.2.1) tally
    exact ⟨pins.trans (Int.add_zero _), classes.trans (Int.add_zero _)⟩

end

/-! ## Stores -/

/-- The request neither makes a pin nor drops one, and gives back the class references it takes. -/
def Neutral {α : Type} (x : host.Request α) : Prop :=
  ∀ m : Machine, Machine.livePins (x m).2 = m.livePins ∧ Machine.liveClasses (x m).2 = m.liveClasses

/-- The binding was held when the deal began, or was made since. -/
def Heir (ws₀ : Workspace host Unit) (b : BindingId) : Prop :=
  ws₀.holds b = true ∨ ws₀.store.bindings.length ≤ b

/-- If the cell was filled when the deal began, its binding was held then. -/
def Covered (ws₀ : Workspace host Unit) (c : CellId) : Prop :=
  ∀ b, ws₀.store.cell c = .filled b → ws₀.holds b = true

/-- The store in the course of a deal that began with the workspace `ws₀`; `m` is the machine that
it all began with. -/
structure InOrder (m : Machine) (ws₀ : Workspace host Unit) (s : Store host) : Prop where
  pins : Machine.livePins s.host = m.livePins + s.pinsDue ws₀.released
  classes : Machine.liveClasses s.host = m.liveClasses
  honest : ∀ b ∈ s.bindings, Honest b
  /-- What was given back is not among the bindings that are still to come. -/
  earlier : ∀ b ∈ ws₀.released, b < s.bindings.length
  bindings : ws₀.store.bindings.length ≤ s.bindings.length
  cells : ws₀.store.cells.length ≤ s.cells.length
  filled : ∀ c b, s.cell c = .filled b →
    ws₀.store.cell c = .filled b ∨ ws₀.store.bindings.length ≤ b

section

variable {m : Machine} {ws₀ : Workspace host Unit} {s : Store host} {d : Declaration} {c : CellId}

/-- A covered cell yields nothing that may not be held. -/
theorem InOrder.heir {b : BindingId} (order : InOrder m ws₀ s) (covered : Covered ws₀ c)
    (h : s.cell c = .filled b) : Heir ws₀ b := by
  rcases order.filled c b h with old | new
  · exact .inl (covered b old)
  · exact .inr new

theorem InOrder.heir_of_binding {b : BindingId} (order : InOrder m ws₀ s) (covered : Covered ws₀ c)
    (h : (s.cell c).binding? = some b) : Heir ws₀ b := by
  cases content : s.cell c with
  | filled b' =>
    rw [content] at h
    cases h
    exact order.heir covered content
  | empty | busy =>
    rw [content] at h
    cases h

/-- A cell that there was not when the deal began was not filled then. -/
theorem covered_of_le (new : ws₀.store.cells.length ≤ c) : Covered ws₀ c := by
  intro b filled
  have empty : ws₀.store.cell c = .empty := by
    simp [Store.cell, List.getD, List.getElem?_eq_none new]
  cases empty.symm.trans filled

theorem InOrder.onHost {h : Machine} (order : InOrder m ws₀ s)
    (pins : h.livePins = Machine.livePins s.host)
    (classes : h.liveClasses = Machine.liveClasses s.host) :
    InOrder m ws₀ { s with host := h } :=
  { order with pins := pins.trans order.pins, classes := classes.trans order.classes }

theorem Neutral.keeps_onHost {α : Type} {x : host.Request α} (neutral : Neutral x) :
    Keeps (InOrder m ws₀) (Store.onHost x) := by
  intro s order
  obtain ⟨pins, classes⟩ := neutral s.host
  unfold Store.onHost
  cases run : x s.host with
  | mk answer h =>
    rw [run] at pins classes
    cases answer with
    | ok v => exact order.onHost pins classes
    | error fault => exact order.onHost pins classes

/-- What comes into a cell may stand there. -/
theorem InOrder.setCell (order : InOrder m ws₀ s) (c : CellId) {content : Cell}
    (fits : ∀ b, content = .filled b → ws₀.store.bindings.length ≤ b) :
    InOrder m ws₀ (s.setCell c content) := by
  refine { order with cells := by simpa [Store.setCell] using order.cells, filled := ?_ }
  intro c' b filled
  by_cases there : c < s.cells.length
  · rw [Store.cell_setCell there] at filled
    by_cases same : c' = c
    · rw [if_pos same] at filled
      exact .inr (fits b filled)
    · rw [if_neg same] at filled
      exact order.filled c' b filled
  · have unchanged : (s.setCell c content).cell c' = s.cell c' := by
      simp [Store.setCell, Store.cell, List.set_eq_of_length_le (Nat.le_of_not_lt there)]
    exact order.filled c' b (unchanged ▸ filled)

theorem InOrder.newCell (order : InOrder m ws₀ s) :
    InOrder m ws₀ s.newCell.2 ∧ Covered ws₀ s.newCell.1 := by
  refine ⟨{ order with cells := ?_, filled := ?_ }, covered_of_le order.cells⟩
  · exact order.cells.trans (by simp [Store.newCell])
  · intro c b filled
    rw [Store.cell_newCell] at filled
    exact order.filled c b filled

/-- A new binding is honest, and its pin is due as long as it is not given back. -/
theorem answers_resolve (d : Declaration) :
    Answers (InOrder m ws₀) (Store.resolve d) (ws₀.store.bindings.length ≤ ·) := by
  intro s order
  unfold Store.resolve
  cases resolved : Binding.resolve host d s.host with
  | mk answer h =>
    cases answer with
    | error fault =>
      obtain ⟨pins, classes⟩ := pins_of_resolve_error resolved
      exact order.onHost pins classes
    | ok b =>
      obtain ⟨pins, classes⟩ := pins_of_resolve resolved
      obtain ⟨-, c, home⟩ := home_of_resolve resolved
      refine ⟨⟨?pins, classes.trans order.classes, ?honest, ?earlier, ?bindings, order.cells,
        order.filled⟩, order.bindings⟩
      case pins =>
        have due := Store.pinsDue_append order.earlier h b
        rw [home.declaration] at due
        rw [due, pins, order.pins, Int.natCast_add, Int.add_assoc]
        split <;> rfl
      case honest =>
        intro b' mem
        rcases List.mem_append.mp mem with old | new
        · exact order.honest b' old
        · rw [List.mem_singleton.mp new]
          exact home.honest
      case earlier =>
        intro b' gone
        exact Nat.lt_of_lt_of_le (order.earlier b' gone) (by simp)
      case bindings => exact order.bindings.trans (by simp)

theorem answers_attempt (c : CellId) (d : Declaration) :
    Answers (InOrder m ws₀) (Store.attempt c d) (Heir ws₀) := by
  intro s order
  have made := answers_resolve d s order
  unfold Store.attempt
  cases run : Store.resolve d s with
  | mk answer t =>
    rw [run] at made
    cases answer with
    | error fault => exact made.setCell c nofun
    | ok b =>
      refine ⟨made.1.setCell c ?_, .inr made.2⟩
      rintro _ ⟨⟩
      exact made.2

theorem answers_fill (covered : Covered ws₀ c) (d : Declaration) :
    Answers (InOrder m ws₀) (Store.fill c d) (Heir ws₀) := by
  intro s order
  unfold Store.fill
  cases content : s.cell c with
  | filled b => exact ⟨order, order.heir covered content⟩
  | empty => exact answers_attempt c d s order
  | busy => exact answers_attempt c d s order

/-! ## Registries -/

/-- All cells of the registry are covered. -/
def Registered (ws₀ : Workspace host Unit) (r : Registry) : Prop :=
  ∀ e ∈ r.entries, Covered ws₀ e.2.cell

/-- A registry and its store in the course of a deal. -/
structure SharedInOrder (m : Machine) (ws₀ : Workspace host Unit) (s : Shared host) : Prop where
  store : InOrder m ws₀ s.store
  registry : Registered ws₀ s.registry

theorem Registered.find? {r : Registry} {name : String} {entry : Registration}
    (registered : Registered ws₀ r) (h : r.find? name = some entry) : Covered ws₀ entry.cell := by
  obtain ⟨e, found, rfl⟩ := Option.map_eq_some_iff.mp h
  exact registered e (List.mem_of_find?_eq_some found)

theorem Registered.insert {r : Registry} {name : String} {entry : Registration}
    (registered : Registered ws₀ r) (covered : Covered ws₀ entry.cell) :
    Registered ws₀ (r.insert name entry) := by
  intro e mem
  rcases List.mem_append.mp mem with old | new
  · exact registered e old
  · rw [List.mem_singleton.mp new]
    exact covered

theorem Registered.erase {r : Registry} (registered : Registered ws₀ r) (name : String) :
    Registered ws₀ (r.erase name) :=
  fun e mem => registered e (List.mem_filter.mp mem).1

theorem keeps_shared_tell (e : LogEntry) :
    Keeps (SharedInOrder m ws₀) (Shared.tell (H := host) e) :=
  fun _ shared => { shared with store := shared.store.onHost rfl rfl }

theorem answers_locate (d : Declaration) :
    Answers (SharedInOrder m ws₀) (Shared.locate d) (Covered ws₀ ·.cell) := by
  intro s shared
  unfold Shared.locate
  cases known : s.registry.find? d.className with
  | some entry =>
    by_cases same : entry.declaration = d
    · simpa [same] using ⟨shared, shared.registry.find? known⟩
    · simpa [same] using shared
  | none =>
    obtain ⟨order, covered⟩ := shared.store.newCell
    exact ⟨⟨order, shared.registry.insert covered⟩, covered⟩

theorem answers_settle (covered : Covered ws₀ c) (d : Declaration) :
    Answers (SharedInOrder m ws₀) (Shared.settle c d) (Heir ws₀) := by
  intro s shared
  have attempted : Answers (SharedInOrder m ws₀) (Shared.attempt c d) (Heir ws₀) := by
    intro s shared
    have made := answers_attempt c d s.store shared.store
    unfold Shared.attempt
    cases run : Store.attempt c d s.store with
    | mk answer t =>
      rw [run] at made
      cases answer with
      | error fault => exact { shared with store := made }
      | ok b => exact ⟨⟨made.1, shared.registry⟩, made.2⟩
  unfold Shared.settle
  cases content : s.store.cell c with
  | filled b => exact ⟨keeps_shared_tell _ s shared, shared.store.heir covered content⟩
  | empty => exact attempted s shared
  | busy => exact attempted s shared

theorem SharedInOrder.withdraw {s : Shared host} (shared : SharedInOrder m ws₀ s) (name : String)
    (c : CellId) : SharedInOrder m ws₀ (Shared.withdraw name c s) := by
  unfold Shared.withdraw
  split
  · split
    · exact ⟨shared.store.onHost rfl rfl, shared.registry.erase name⟩
    · exact shared
  · exact shared

theorem answers_request (d : Declaration) :
    Answers (SharedInOrder m ws₀) (Registry.request d) (Heir ws₀) := by
  refine (answers_locate d).bind fun entry covered s shared => ?_
  have settled := answers_settle covered d s shared
  cases run : Shared.settle entry.cell d s with
  | mk answer t =>
    rw [run] at settled
    cases answer with
    | ok b => exact settled
    | error fault =>
      dsimp only
      split
      · exact settled
      · exact settled.withdraw _ _

theorem answers_named (name : String) :
    Answers (SharedInOrder m ws₀) (Registry.named (H := host) name) (Heir ws₀) := by
  intro s shared
  unfold Registry.named
  cases known : s.registry.find? name with
  | some entry => exact answers_settle (shared.registry.find? known) entry.declaration s shared
  | none => exact shared

/-- The cells that a registry visits are covered, in whatever order it visits them. -/
theorem keeps_preloadAlong {visit : List Registration} (covered : ∀ e ∈ visit, Covered ws₀ e.cell) :
    Keeps (SharedInOrder m ws₀) (Registry.preloadAlong (H := host) visit) := by
  refine (keeps_shared_tell _).bind fun _ => ?_
  induction visit with
  | nil => exact .pure fun _ shared => shared
  | cons entry rest ih =>
    obtain ⟨first, others⟩ := List.forall_mem_cons.mp covered
    exact (answers_settle first entry.declaration).keeps.bind fun _ => ih others

theorem SharedInOrder.pending {s : Shared host} (shared : SharedInOrder m ws₀ s) :
    ∀ e ∈ s.pending, Covered ws₀ e.cell := by
  intro e mem
  obtain ⟨entry, there, rfl⟩ := List.mem_map.mp (List.mem_filter.mp mem).1
  exact shared.registry entry there

theorem SharedInOrder.peek {s : Shared host} {name : String} {b : BindingId}
    (shared : SharedInOrder m ws₀ s) (found : Registry.peek s name = some b) : Heir ws₀ b := by
  obtain ⟨entry, known, kept⟩ := Option.bind_eq_some_iff.mp found
  exact shared.store.heir_of_binding (shared.registry.find? known) kept

theorem SharedInOrder.predeclare {s : Shared host} (shared : SharedInOrder m ws₀ s)
    (ds : List Declaration) : SharedInOrder m ws₀ (Registry.predeclare ds s) := by
  induction ds generalizing s with
  | nil => exact shared
  | cons d rest ih =>
    obtain ⟨order, covered⟩ := shared.store.newCell
    exact ih ⟨order, shared.registry.insert covered⟩

theorem answers_ofDeclarations (ds : List Declaration) :
    Answers (InOrder m ws₀) (Registry.ofDeclarations (H := host) ds) (Registered ws₀) := by
  intro s order
  unfold Registry.ofDeclarations
  cases Registry.distinct (ε := host.Failure) [] ds with
  | error fault => exact order
  | ok known =>
    have shared : SharedInOrder m ws₀ { store := s } := ⟨order, by simp [Registered]⟩
    exact ⟨(shared.predeclare known).store, (shared.predeclare known).registry⟩

end

end HandleCache.Counting

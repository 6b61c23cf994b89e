import HandleCache.Registry.Threads

/-!
# Chronicles

What threads do to each other. Most steps of a thread concern only itself and the host; the others
are deeds: an entry is inserted or withdrawn, a cell is claimed, given up or filled, a binding is
made. The deeds along a schedule are the history of a run, and the registry with its cells is
what the deeds have made of it.

## Contents

- `Deed`, `Stage.deed`: what a step does that other threads can see
- `Team.chronicle`, `Team.deedsOn`: the deeds along a schedule, and those on one cell
- `Board`, `Deed.on`: what the threads see of each other, and how a deed changes it
-/

namespace HandleCache

/-! ## Deeds -/

/-- What a step of a thread does that other threads can see. -/
inductive Deed where
  | nothing
  | insert (name : String) (entry : Registration)
  /-- The thread becomes the one that resolves a cell. -/
  | attempt (c : CellId)
  /-- The resolution for a cell succeeded with a new binding. -/
  | make (c : CellId) (b : BindingId)
  /-- The resolution for a cell failed, and the cell is given up. -/
  | fail (c : CellId)
  | publish (c : CellId) (b : BindingId)
  /-- The entry of a class, which held this cell, is taken away. -/
  | withdraw (name : String) (c : CellId)
  deriving DecidableEq, Repr

namespace Deed

/-- The cell that a deed is done to. -/
def cell? : Deed → Option CellId
  | attempt c | make c _ | fail c | publish c _ => some c
  | nothing | insert .. | withdraw .. => none

/-- Whether a deed is the beginning of a resolution. -/
def isAttempt : Deed → Bool
  | attempt _ => true
  | _ => false

/-- Whether a deed is the success of a resolution. -/
def isMake : Deed → Bool
  | make _ _ => true
  | _ => false

/-- How many resolutions a thread began. -/
def attemptsBy (i : Nat) (chronicle : List (Nat × Deed)) : Nat :=
  chronicle.countP fun done => done.1 == i && done.2.isAttempt

theorem attemptsBy_append_self (i : Nat) (chronicle : List (Nat × Deed)) (deed : Deed) :
    attemptsBy i (chronicle ++ [(i, deed)]) =
      attemptsBy i chronicle + if deed.isAttempt then 1 else 0 := by
  simp [attemptsBy, List.countP_append, List.countP_cons]

theorem attemptsBy_append_of_ne {i j : Nat} (h : i ≠ j) (chronicle : List (Nat × Deed))
    (deed : Deed) : attemptsBy j (chronicle ++ [(i, deed)]) = attemptsBy j chronicle := by
  simp [attemptsBy, List.countP_append, h]

/-- The deeds to one cell, in order. -/
def doneTo (c : CellId) (chronicle : List (Nat × Deed)) : List Deed :=
  (chronicle.map (·.2)).filter fun deed => deed.cell? = some c

theorem doneTo_append (c : CellId) (first second : List (Nat × Deed)) :
    doneTo c (first ++ second) = doneTo c first ++ doneTo c second := by
  simp [doneTo]

theorem doneTo_of_eq {c : CellId} {deed : Deed} (i : Nat) (h : deed.cell? = some c) :
    doneTo c [(i, deed)] = [deed] := by
  simp [doneTo, h]

theorem doneTo_of_ne {c : CellId} {deed : Deed} (i : Nat) (h : deed.cell? ≠ some c) :
    doneTo c [(i, deed)] = [] := by
  simp [doneTo, h]

/-- What is only ever done to one cell is all done to that cell. -/
theorem countP_doneTo {c : CellId} {p : Deed → Bool} {chronicle : List (Nat × Deed)}
    (h : ∀ done ∈ chronicle, p done.2 = true → done.2.cell? = some c) :
    (doneTo c chronicle).countP p = chronicle.countP fun done => p done.2 := by
  -- To count among the deeds to the cell is to count what is also done to it.
  unfold doneTo
  rw [List.countP_filter, List.countP_map]
  apply List.countP_congr
  intro done mem
  simp only [Function.comp_apply, Bool.and_eq_true, decide_eq_true_eq, and_iff_left_iff_imp]
  exact h done mem

end Deed

namespace Stage

variable {H : Host}

/-- What the next step of a thread does that others can see. -/
def deed : Stage H → Shared H → Deed
  | start (.request d), s =>
    match s.registry.find? d.className with
    | some _ => .nothing
    | none => .insert d.className ⟨d, false, s.store.cells.length⟩
  | enter goal, s =>
    match s.store.cell goal.cell with
    | .empty => .attempt goal.cell
    | .busy | .filled _ => .nothing
  | resolving goal (.finished (.ok _)), s => .make goal.cell s.store.bindings.length
  | resolving goal (.finished (.error _)), _ => .fail goal.cell
  | publishing goal b, _ => .publish goal.cell b
  | withdrawing goal _, s =>
    match s.registry.find? goal.declaration.className with
    | some entry =>
      if entry.cell = goal.cell ∧ (s.store.cell goal.cell).binding? = none then
        .withdraw goal.declaration.className goal.cell
      else .nothing
    | none => .nothing
  | _, _ => .nothing

end Stage

namespace Team

variable {H : Host}

/-- What the next turn of a thread does that others can see. -/
def deed (team : Team H) (i : Nat) : Deed :=
  (team.threads[i]?).elim .nothing fun stage => stage.deed team.shared

/-- The deeds along a schedule, one for each turn, with the thread that did it. -/
def chronicle : List Nat → Team H → List (Nat × Deed)
  | [], _ => []
  | i :: schedule, team => (i, team.deed i) :: chronicle schedule (team.turn i)

/-- The deeds along a schedule that were done to one cell, in order. -/
def deedsOn (c : CellId) (schedule : List Nat) (team : Team H) : List Deed :=
  Deed.doneTo c (chronicle schedule team)

end Team

/-! ## Boards -/

/-- What the threads see of each other: the entries, the cells, and how many bindings there are. -/
structure Board where
  entries : List (String × Registration)
  cells : List Cell
  made : Nat

namespace Board

/-- The entry of a class. -/
def find? (board : Board) (name : String) : Option Registration :=
  Registry.find? { entries := board.entries } name

/-- What is in a cell. -/
def cell (board : Board) (c : CellId) : Cell := board.cells.getD c .empty

/-- The binding for a class, if it is there already. -/
def peek (board : Board) (name : String) : Option BindingId :=
  (board.find? name).bind fun entry => (board.cell entry.cell).binding?

/-- The entries whose class is not resolved yet. -/
def pending (board : Board) : List Registration :=
  (board.entries.map (·.2)).filter fun entry => (board.cell entry.cell).binding?.isNone

theorem mem_of_find? {board : Board} {name : String} {entry : Registration}
    (h : board.find? name = some entry) : (name, entry) ∈ board.entries := by
  obtain ⟨⟨name', entry'⟩, hf, rfl⟩ := Option.map_eq_some_iff.mp h
  have hn : name' = name := by simpa using List.find?_some hf
  exact hn ▸ List.mem_of_find?_eq_some hf

theorem find?_eq_none_iff {board : Board} {name : String} :
    board.find? name = none ↔ ∀ entry, (name, entry) ∉ board.entries := by
  simp only [find?, Registry.find?, Option.map_eq_none_iff, List.find?_eq_none, beq_iff_eq]
  exact ⟨fun h entry he => h _ he rfl, fun h e he hn => h e.2 (hn ▸ he)⟩

/-- Where each class has one entry at most, that entry is what is found. -/
theorem find?_of_mem {board : Board} {name : String} {entry : Registration}
    (names : (board.entries.map (·.1)).Nodup) (h : (name, entry) ∈ board.entries) :
    board.find? name = some entry := by
  obtain ⟨entries, cells, made⟩ := board
  simp only [find?, Registry.find?] at names h ⊢
  induction entries with
  | nil => cases h
  | cons first rest ih =>
    obtain ⟨name', entry'⟩ := first
    rw [List.map_cons, List.nodup_cons] at names
    rcases List.mem_cons.mp h with same | later
    · cases same
      simp
    · have other : name' ≠ name := by
        rintro rfl
        exact names.1 (List.mem_map.mpr ⟨_, later, rfl⟩)
      simpa [List.find?_cons, other] using ih names.2 later

theorem cell_set_self {board : Board} {c : CellId} (h : c < board.cells.length) (content : Cell) :
    cell { board with cells := board.cells.set c content } c = content := by
  simp [cell, List.getD, h]

theorem cell_set_of_ne (board : Board) {c c' : CellId} (h : c' ≠ c) (content : Cell) :
    cell { board with cells := board.cells.set c' content } c = board.cell c := by
  simp [cell, List.getD, h]

theorem lt_of_filled {board : Board} {c : CellId} {b : BindingId}
    (h : board.cell c = .filled b) : c < board.cells.length := by
  apply Nat.lt_of_not_le
  intro gone
  have none : board.cells[c]? = none := List.getElem?_eq_none gone
  rw [cell, List.getD, none] at h
  cases h

/-- A new cell is as empty as one that is not there. -/
theorem cell_append (board : Board) (c : CellId) :
    cell { board with cells := board.cells ++ [.empty] } c = board.cell c := by
  rcases Nat.lt_trichotomy c board.cells.length with h | rfl | h
  · simp [cell, List.getD, List.getElem?_append_left h]
  · simp [cell, List.getD]
  · have old : board.cells[c]? = none := List.getElem?_eq_none (by omega)
    have new : (board.cells ++ [Cell.empty])[c]? = none :=
      List.getElem?_eq_none (by simp only [List.length_append, List.length_singleton]; omega)
    simp only [cell, List.getD, old, new]

end Board

/-- How a deed changes what the threads see. -/
def Deed.on : Deed → Board → Board
  | nothing, board => board
  | insert name entry, board =>
    { board with entries := board.entries ++ [(name, entry)], cells := board.cells ++ [.empty] }
  | attempt c, board => { board with cells := board.cells.set c .busy }
  | make _ _, board => { board with made := board.made + 1 }
  | fail c, board => { board with cells := board.cells.set c .empty }
  | publish c b, board => { board with cells := board.cells.set c (.filled b) }
  | withdraw name _, board => { board with entries := board.entries.filter (·.1 != name) }

theorem Deed.made_on (deed : Deed) (board : Board) :
    (deed.on board).made = board.made + if deed.isMake then 1 else 0 := by
  cases deed <;> rfl

/-- A cell stays as it is unless something is done to it. -/
theorem Deed.cell_on_of_ne {deed : Deed} {c : CellId} (h : deed.cell? ≠ some c) (board : Board) :
    (deed.on board).cell c = board.cell c := by
  match deed with
  | insert _ _ => exact Board.cell_append board c
  | attempt c' | fail c' | publish c' _ =>
    exact Board.cell_set_of_ne board (fun hc => h (by rw [hc]; rfl)) _
  | nothing | make _ _ | withdraw _ _ => rfl

namespace Shared

variable {H : Host}

/-- What the threads see of each other. -/
def board (s : Shared H) : Board :=
  ⟨s.registry.entries, s.store.cells, s.store.bindings.length⟩

@[simp] theorem find?_board (s : Shared H) (name : String) :
    s.board.find? name = s.registry.find? name := rfl

@[simp] theorem cell_board (s : Shared H) (c : CellId) : s.board.cell c = s.store.cell c := rfl

@[simp] theorem peek_board (s : Shared H) (name : String) :
    s.board.peek name = Registry.peek s name := rfl

@[simp] theorem pending_board (s : Shared H) : s.board.pending = s.pending := rfl

end Shared

end HandleCache

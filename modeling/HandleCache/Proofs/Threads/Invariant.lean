import HandleCache.Proofs.Threads.Move
import Mathlib.Logic.Function.Basic

/-!
# What every run keeps

The invariant of threads at work on one registry. Each cell that they can reach has a label, which
says for which declaration it was made and where it came from; labels are given once and stay. The
labels are not part of the program: they are what makes it possible to say that a thread, an entry
and a cell go together.

## Main statements

- `Sound`: the invariant
- `Sound.move`: each move keeps it
- `Sound.filled_move`: a filled cell stays as it is
- `Sound.run_steps`, `Sound.run`: what each step keeps every run keeps
-/

namespace HandleCache

variable {H : Host}

/-! ## Labels -/

/-- Where a cell comes from. -/
inductive Origin where
  /-- From a declaration that the registry was made with. -/
  | predeclared
  /-- From the first request for its class. -/
  | requested
  /-- From a deferred binding. -/
  | deferred
  deriving DecidableEq, Repr

/-- What a cell is for. -/
structure Label where
  declaration : Declaration
  origin : Origin
  deriving DecidableEq, Repr

/-- The labels of cells, as far as threads can reach them. -/
abbrev Labelling : Type := CellId → Option Label

/-- The label of the cell of an entry. -/
def Registration.label (entry : Registration) : Label :=
  ⟨entry.declaration, if entry.predeclared then .predeclared else .requested⟩

theorem Registration.label_ne_deferred (entry : Registration) :
    entry.label.origin ≠ .deferred := by
  unfold label
  split <;> simp

/-- The labels after a deed: an entry that comes in brings a cell with it. -/
def Deed.relabel : Deed → Labelling → Labelling
  | insert _ entry, labels => Function.update labels entry.cell (some entry.label)
  | nothing, labels | attempt _, labels | make _ _, labels | fail _, labels
  | publish _ _, labels | withdraw _ _, labels => labels

/-- Whether a purpose goes with where the cell comes from. -/
def Purpose.Fits (labels : Labelling) : Purpose → Origin → Prop
  | answer true, origin => origin = .requested
  | answer false, origin => origin ≠ .deferred
  | next rest, origin => origin ≠ .deferred ∧ ∀ entry ∈ rest, labels entry.cell = some entry.label
  | deferred, origin => origin = .deferred

/-- Whether the cell of a goal is for the goal's declaration, and for its purpose. -/
def Goal.Labelled (labels : Labelling) (goal : Goal) : Prop :=
  ∃ origin, labels goal.cell = some ⟨goal.declaration, origin⟩ ∧ goal.purpose.Fits labels origin

namespace Stage

/-- The goal that a thread is at work on. -/
def goal? : Stage H → Option Goal
  | look goal | enter goal | resolving goal _ | publishing goal _ | withdrawing goal _ => some goal
  | start _ | done _ => none

/-- Whether a thread is the one that resolves a cell. -/
def owns (c : CellId) : Stage H → Bool
  | resolving goal _ | publishing goal _ => goal.cell == c
  | start _ | look _ | enter _ | withdrawing _ _ | done _ => false

/-- Whether a thread may have to withdraw the entry with this cell. -/
def AnswersFor (c : CellId) (stage : Stage H) : Prop :=
  ∃ goal, stage.goal? = some goal ∧ goal.cell = c ∧ goal.purpose = .answer true

/-- Whether the cells that a thread knows are for what it wants of them. -/
def Labelled (labels : Labelling) : Stage H → Prop
  | start (.deferred l) => labels l.cell = some ⟨l.declaration, .deferred⟩
  | start _ | done _ => True
  | look goal | enter goal | resolving goal _ | publishing goal _ => goal.Labelled labels
  | withdrawing goal _ => goal.Labelled labels ∧ goal.purpose = .answer true

end Stage

/-! ## Stages and labels -/

theorem Goal.Labelled.mono {labels labels' : Labelling} {goal : Goal}
    (le : ∀ c label, labels c = some label → labels' c = some label)
    (h : goal.Labelled labels) : goal.Labelled labels' := by
  obtain ⟨origin, hl, fits⟩ := h
  refine ⟨origin, le _ _ hl, ?_⟩
  -- Only the entries that are still ahead are asked for their labels.
  match hp : goal.purpose, fits with
  | .answer true, fits => exact fits
  | .answer false, fits => exact fits
  | .next rest, fits => exact ⟨fits.1, fun entry he => le _ _ (fits.2 entry he)⟩
  | .deferred, fits => exact fits

namespace Stage

theorem Labelled.mono {labels labels' : Labelling} {stage : Stage H}
    (le : ∀ c label, labels c = some label → labels' c = some label)
    (h : stage.Labelled labels) : stage.Labelled labels' := by
  match stage, h with
  | start (.deferred l), h => exact le _ _ h
  | start (.request _), _ | start (.named _), _ | start (.preload _), _ | start (.peek _), _ =>
    trivial
  | done _, _ => trivial
  | look _, h | enter _, h | resolving _ _, h | publishing _ _, h => exact Goal.Labelled.mono le h
  | withdrawing _ _, h => exact ⟨Goal.Labelled.mono le h.1, h.2⟩

theorem Labelled.goal {labels : Labelling} {stage : Stage H} {goal : Goal}
    (h : stage.Labelled labels) (hg : stage.goal? = some goal) : goal.Labelled labels := by
  match stage, h with
  | look _, h | enter _, h | resolving _ _, h | publishing _ _, h => cases hg; exact h
  | withdrawing _ _, h => cases hg; exact h.1
  | start _, _ | done _, _ => cases hg

theorem goal?_of_owns {c : CellId} {stage : Stage H} (h : stage.owns c = true) :
    ∃ goal, stage.goal? = some goal ∧ goal.cell = c := by
  match stage, h with
  | resolving goal _, h | publishing goal _, h => exact ⟨goal, rfl, by simpa [owns] using h⟩

/-- Nobody resolves a cell that threads cannot reach. -/
theorem Labelled.label_of_owns {labels : Labelling} {stage : Stage H} {c : CellId}
    (h : stage.Labelled labels) (ho : stage.owns c = true) : ∃ label, labels c = some label := by
  obtain ⟨goal, hg, rfl⟩ := goal?_of_owns ho
  obtain ⟨origin, hl, _⟩ := h.goal hg
  exact ⟨_, hl⟩

theorem Labelled.visit {labels : Labelling} {rest : List Registration}
    (h : ∀ entry ∈ rest, labels entry.cell = some entry.label) :
    (visit rest : Stage H).Labelled labels := by
  match rest with
  | [] => trivial
  | entry :: rest =>
    refine ⟨entry.label.origin, h entry (by simp), entry.label_ne_deferred, ?_⟩
    exact fun other ho => h other (by simp [ho])

/-- Where a thread goes once its goal is reached, it knows cells that it knew before. -/
theorem Labelled.reached {labels : Labelling} {goal : Goal} (b : BindingId)
    (h : goal.Labelled labels) : (reached goal b : Stage H).Labelled labels := by
  obtain ⟨origin, hl, fits⟩ := h
  unfold Stage.reached
  match hp : goal.purpose, fits with
  | .answer true, _ | .answer false, _ | .deferred, _ => trivial
  -- The thread goes on to the entries that it knew to be ahead.
  | .next rest, fits => exact Labelled.visit fits.2

theorem Labelled.missed {labels : Labelling} {goal : Goal} (fault : Fault H.Failure)
    (h : goal.Labelled labels) : (missed goal fault).Labelled labels := by
  unfold Stage.missed
  match hp : goal.purpose with
  | .answer true => exact ⟨h, hp⟩
  | .answer false | .next _ | .deferred => trivial

@[simp] theorem owns_start (c : CellId) (task : Task) : (start task : Stage H).owns c = false := rfl

@[simp] theorem owns_look (c : CellId) (goal : Goal) : (look goal : Stage H).owns c = false := rfl

@[simp] theorem owns_enter (c : CellId) (goal : Goal) : (enter goal : Stage H).owns c = false := rfl

@[simp] theorem owns_resolving (c : CellId) (goal : Goal) (progress : Progress H) :
    (resolving goal progress).owns c = (goal.cell == c) := rfl

@[simp] theorem owns_publishing (c : CellId) (goal : Goal) (b : BindingId) :
    (publishing goal b : Stage H).owns c = (goal.cell == c) := rfl

@[simp] theorem owns_withdrawing (c : CellId) (goal : Goal) (fault : Fault H.Failure) :
    (withdrawing goal fault).owns c = false := rfl

@[simp] theorem owns_done (c : CellId) (outcome : TaskOutcome H) :
    (done outcome).owns c = false := rfl

@[simp] theorem owns_visit (c : CellId) (rest : List Registration) :
    (visit rest : Stage H).owns c = false := by
  cases rest <;> rfl

@[simp] theorem owns_reached (c : CellId) (goal : Goal) (b : BindingId) :
    (reached goal b : Stage H).owns c = false := by
  unfold reached
  split <;> first | rfl | exact owns_visit c _

@[simp] theorem owns_missed (c : CellId) (goal : Goal) (fault : Fault H.Failure) :
    (missed goal fault).owns c = false := by
  unfold missed
  split <;> rfl

theorem visit_ne_publishing (rest : List Registration) (goal : Goal) (b : BindingId) :
    (visit rest : Stage H) ≠ publishing goal b := by
  cases rest <;> simp [visit]

theorem reached_ne_publishing (goal' : Goal) (b' : BindingId) (goal : Goal) (b : BindingId) :
    (reached goal' b' : Stage H) ≠ publishing goal b := by
  unfold reached
  split <;> simp [visit_ne_publishing]

theorem missed_ne_publishing (goal' : Goal) (fault : Fault H.Failure) (goal : Goal)
    (b : BindingId) : missed goal' fault ≠ publishing goal b := by
  unfold missed
  split <;> simp

end Stage

/-! ## The invariant -/

/-- Whether a binding is in a cell, or is about to be put there. -/
def Holds (threads : List (Stage H)) (board : Board) (c : CellId) (b : BindingId) : Prop :=
  board.cell c = .filled b ∨ ∃ goal, .publishing goal b ∈ threads ∧ goal.cell = c

/-- What is true of threads and board at all times. -/
structure Sound (labels : Labelling) (threads : List (Stage H)) (board : Board) : Prop where
  names : (board.entries.map (·.1)).Nodup
  /-- Each entry is under the name of its class, and its cell is for it. -/
  entry : ∀ name entry, (name, entry) ∈ board.entries →
    labels entry.cell = some entry.label ∧ entry.declaration.className = name
  /-- Cells with a label are there. -/
  allocated : ∀ c label, labels c = some label → c < board.cells.length
  /-- The cells that threads know are for what they want of them. -/
  stage : ∀ stage ∈ threads, stage.Labelled labels
  /-- A cell is busy while one thread resolves it; no two threads ever resolve it at once. -/
  owners : ∀ c label, labels c = some label →
    threads.countP (Stage.owns c) = if board.cell c = .busy then 1 else 0
  known : ∀ c label b, labels c = some label → Holds threads board c b → b < board.made
  /-- Two cells never have the same binding. -/
  distinct : ∀ c c' label label' b, labels c = some label → labels c' = some label' →
    Holds threads board c b → Holds threads board c' b → c = c'
  /-- An entry that was neither predeclared nor resolved is some thread's to withdraw. -/
  responsible : ∀ name entry, (name, entry) ∈ board.entries → entry.predeclared = false →
    (board.cell entry.cell).binding? = none → ∃ stage ∈ threads, stage.AnswersFor entry.cell
  /-- Predeclared entries are there for good. -/
  predeclared : ∀ c d, labels c = some ⟨d, .predeclared⟩ →
    (d.className, ⟨d, true, c⟩) ∈ board.entries
  /-- No class is both predeclared and requested. -/
  apart : ∀ c c' d d', labels c = some ⟨d, .predeclared⟩ → labels c' = some ⟨d', .requested⟩ →
    d.className ≠ d'.className

/-! ## What one move keeps -/

/-- The number of those with a property changes by the one that is replaced. -/
theorem countP_set_add {α : Type} {p : α → Bool} {l : List α} {i : Nat} {old : α} (new : α)
    (hi : l[i]? = some old) :
    (l.set i new).countP p + (if p old then 1 else 0) =
      l.countP p + (if p new then 1 else 0) := by
  obtain ⟨h, rfl⟩ := List.getElem?_eq_some_iff.mp hi
  have counted : (if p l[i] then 1 else 0) ≤ l.countP p := by
    split
    · exact List.countP_pos_iff.mpr ⟨l[i], List.getElem_mem h, by assumption⟩
    · exact Nat.zero_le _
  rw [List.countP_set h]
  omega

section Move

variable {labels : Labelling} {threads : List (Stage H)} {board : Board} {i : Nat}
  {stage stage' : Stage H} {deed : Deed}

/-- A cell that has a label is not the next one to be made. -/
theorem Sound.ne_next (sound : Sound labels threads board) {c : CellId} {label : Label}
    (h : labels c = some label) : c ≠ board.cells.length :=
  Nat.ne_of_lt (sound.allocated c label h)

/-- Labels stay. -/
theorem Sound.relabel (sound : Sound labels threads board) (move : Move board stage deed stage')
    {c : CellId} {label : Label} (h : labels c = some label) :
    deed.relabel labels c = some label := by
  cases move with
  -- The only new label goes to the next cell, which has none yet.
  | inserted => simp [Deed.relabel, Function.update_of_ne (sound.ne_next h), h]
  | _ => exact h

/-- A label was there before, or came in with a request for a class that was not known. -/
theorem Move.label_cases (move : Move board stage deed stage') {c : CellId} {label : Label}
    (h : deed.relabel labels c = some label) :
    labels c = some label ∨ ∃ d, deed = .insert d.className ⟨d, false, board.cells.length⟩ ∧
      board.find? d.className = none ∧ c = board.cells.length ∧ label = ⟨d, .requested⟩ := by
  cases move with
  | @inserted d hf =>
    by_cases hc : c = board.cells.length
    · subst hc
      refine .inr ⟨d, rfl, hf, rfl, ?_⟩
      simpa [Deed.relabel, Registration.label, eq_comm] using h
    · left
      simpa [Deed.relabel, Function.update_of_ne hc] using h
  | _ => exact .inl h

theorem Sound.found (sound : Sound labels threads board) {name : String} {entry : Registration}
    (h : board.find? name = some entry) :
    labels entry.cell = some entry.label ∧ entry.declaration.className = name :=
  sound.entry name entry (Board.mem_of_find? h)

/-- Where a thread goes, it knows cells that are for what it wants of them. -/
theorem Sound.stage_move (sound : Sound labels threads board) (hi : threads[i]? = some stage)
    (move : Move board stage deed stage') : stage'.Labelled (deed.relabel labels) := by
  have old : stage.Labelled labels := sound.stage stage (List.mem_of_getElem? hi)
  cases move with
  | @located entry hf =>
    refine ⟨entry.label.origin, (sound.found hf).1, ?_⟩
    -- The purpose was chosen by whether the entry is predeclared, and the label tells the same.
    cases hp : entry.predeclared <;> simp [Purpose.Fits, Registration.label, hp]
  | conflict | unknown | peek | withdrawn | spared => trivial
  | @inserted d hf => exact ⟨.requested, by simp [Deed.relabel, Registration.label], rfl⟩
  | @named name entry hf => exact ⟨entry.label.origin, (sound.found hf).1, entry.label_ne_deferred⟩
  | preload arrangement =>
    apply Stage.Labelled.visit
    intro entry he
    -- What is pending is an entry, in whatever order it is visited.
    have pending : entry ∈ board.pending := (arrangement.perm _).mem_iff.mp he
    obtain ⟨⟨name, entry⟩, hmem, rfl⟩ := List.mem_map.mp (List.mem_filter.mp pending).1
    exact (sound.entry name entry hmem).1
  | deferred l => exact ⟨.deferred, old, rfl⟩
  | found | awaited | published => exact Stage.Labelled.reached _ old
  | unfilled | claim | advance | made => exact old
  | failed => exact Stage.Labelled.missed _ old

theorem Sound.names_move (sound : Sound labels threads board)
    (move : Move board stage deed stage') : ((deed.on board).entries.map (·.1)).Nodup := by
  cases move with
  | @inserted d hf =>
    have unknown : d.className ∉ board.entries.map (·.1) := by
      intro h
      obtain ⟨⟨name, entry⟩, hmem, rfl⟩ := List.mem_map.mp h
      exact Board.find?_eq_none_iff.mp hf entry hmem
    simp only [Deed.on, List.map_append, List.map_cons, List.map_nil]
    refine List.nodup_append.mpr ⟨sound.names, by simp, fun name hn other ho => ?_⟩
    -- The name would be that of a class that was not known.
    rintro rfl
    exact unknown (List.mem_singleton.mp ho ▸ hn)
  | withdrawn => exact ((List.filter_sublist).map _).nodup sound.names
  | _ => exact sound.names

theorem Sound.entry_move (sound : Sound labels threads board)
    (move : Move board stage deed stage') (name : String) (entry : Registration)
    (h : (name, entry) ∈ (deed.on board).entries) :
    deed.relabel labels entry.cell = some entry.label ∧ entry.declaration.className = name := by
  have old (h : (name, entry) ∈ board.entries) :
      deed.relabel labels entry.cell = some entry.label ∧ entry.declaration.className = name :=
    ⟨sound.relabel move (sound.entry name entry h).1, (sound.entry name entry h).2⟩
  cases move with
  | inserted =>
    rcases List.mem_append.mp h with h | h
    · exact old h
    · cases List.mem_singleton.mp h
      simp [Deed.relabel, Registration.label]
  | withdrawn => exact old (List.mem_filter.mp h).1
  | _ => exact old h

theorem Sound.allocated_move (sound : Sound labels threads board)
    (move : Move board stage deed stage') (c : CellId) (label : Label)
    (h : deed.relabel labels c = some label) : c < (deed.on board).cells.length := by
  rcases move.label_cases h with h | ⟨d, rfl, _, rfl, _⟩
  · refine Nat.lt_of_lt_of_le (sound.allocated c label h) ?_
    cases deed <;> simp [Deed.on]
  · simp [Deed.on]

theorem Sound.goal_lt (sound : Sound labels threads board) (hi : threads[i]? = some stage)
    {goal : Goal} (hg : stage.goal? = some goal) : goal.cell < board.cells.length := by
  obtain ⟨origin, hl, _⟩ := (sound.stage stage (List.mem_of_getElem? hi)).goal hg
  exact sound.allocated _ _ hl

theorem Sound.busy_of_owns (sound : Sound labels threads board) (hi : threads[i]? = some stage)
    {c : CellId} (ho : stage.owns c = true) : board.cell c = .busy := by
  have mem : stage ∈ threads := List.mem_of_getElem? hi
  obtain ⟨label, hl⟩ := (sound.stage stage mem).label_of_owns ho
  have count := sound.owners c label hl
  have positive : 0 < threads.countP (Stage.owns c) := List.countP_pos_iff.mpr ⟨stage, mem, ho⟩
  -- If the cell were not busy, nobody would resolve it.
  by_contra hb
  rw [if_neg hb] at count
  omega

/-- The next cell is not there yet, so nobody resolves it and it holds nothing. -/
theorem Sound.not_owns_next (sound : Sound labels threads board) :
    threads.countP (Stage.owns board.cells.length) = 0 := by
  apply List.countP_eq_zero.mpr
  intro stage mem ho
  obtain ⟨label, hl⟩ := (sound.stage stage mem).label_of_owns ho
  exact sound.ne_next hl rfl

theorem Sound.not_holds_next (sound : Sound labels threads board) (b : BindingId) :
    ¬ Holds threads board board.cells.length b := by
  rintro (h | ⟨goal, mem, hc⟩)
  · simp [Board.cell, List.getD] at h
  · obtain ⟨origin, hl, _⟩ := sound.stage _ mem
    exact sound.ne_next hl hc

/-- Nobody begins or ends to resolve a cell without a deed to it. -/
theorem Move.owns_eq (move : Move board stage deed stage') {c : CellId}
    (h : deed.cell? ≠ some c) : stage'.owns c = stage.owns c := by
  cases move with
  | claim | failed | published =>
    simp only [Deed.cell?, ne_eq, Option.some.injEq] at h
    simp [h]
  | _ => simp

theorem Sound.owners_move (sound : Sound labels threads board) (hi : threads[i]? = some stage)
    (move : Move board stage deed stage') (c : CellId) (label : Label)
    (h : deed.relabel labels c = some label) :
    (threads.set i stage').countP (Stage.owns c) =
      if (deed.on board).cell c = .busy then 1 else 0 := by
  have count := countP_set_add (p := Stage.owns c) stage' hi
  by_cases hd : deed.cell? = some c
  · -- The deed is done to this cell, so the cell was there before.
    have before : threads.countP (Stage.owns c) = if board.cell c = .busy then 1 else 0 := by
      rcases move.label_cases h with h | ⟨d, rfl, _⟩
      · exact sound.owners c label h
      · cases hd
    cases move with
    -- The one that claims an empty cell is the first to resolve it.
    | @claim goal hc =>
      cases hd
      rw [Deed.on, Board.cell_set_self (sound.goal_lt hi rfl)]
      simp [hc, before] at count ⊢
      omega
    -- Who has made a binding is still the one that resolves the cell.
    | @made goal binding =>
      cases hd
      have busy := sound.busy_of_owns hi (c := goal.cell) (by simp)
      simpa [before, busy, Deed.on, Board.cell] using count
    -- There was one that resolved the cell, and it stops with this deed.
    | @failed goal fault =>
      cases hd
      have busy := sound.busy_of_owns hi (c := goal.cell) (by simp)
      rw [Deed.on, Board.cell_set_self (sound.goal_lt hi rfl)]
      simpa [before, busy] using count
    | @published goal b =>
      cases hd
      have busy := sound.busy_of_owns hi (c := goal.cell) (by simp)
      rw [Deed.on, Board.cell_set_self (sound.goal_lt hi rfl)]
      simpa [before, busy] using count
    | _ => cases hd
  -- Nothing is done to the cell, so nobody begins or ends to resolve it.
  · rw [move.owns_eq hd] at count
    rw [Deed.cell_on_of_ne hd, Nat.add_right_cancel count]
    rcases move.label_cases h with h | ⟨d, _, _, rfl, _⟩
    · exact sound.owners c label h
    · rw [sound.not_owns_next]
      simp [Board.cell, List.getD]

/-- A thread that is about to publish a binding was so before, or has just made it. -/
theorem Move.publishing_cases (move : Move board stage deed stage') {goal : Goal} {b : BindingId}
    (h : stage' = .publishing goal b) : deed = .make goal.cell board.made ∧ b = board.made := by
  cases move with
  | preload => exact absurd h (Stage.visit_ne_publishing _ _ _)
  | found | awaited | published => exact absurd h (Stage.reached_ne_publishing _ _ _ _)
  | failed => exact absurd h (Stage.missed_ne_publishing _ _ _ _)
  | made => cases h; exact ⟨rfl, rfl⟩
  | _ => cases h

/-- What a cell holds it held before, or it was just made. -/
theorem Sound.holds_move (sound : Sound labels threads board) (hi : threads[i]? = some stage)
    (move : Move board stage deed stage') {c : CellId} {b : BindingId}
    (h : Holds (threads.set i stage') (deed.on board) c b) :
    Holds threads board c b ∨ (deed = .make c board.made ∧ b = board.made) := by
  rcases h with h | ⟨goal, mem, rfl⟩
  -- What is in the cell was there before, or somebody was about to put it there.
  · left
    by_cases hd : deed.cell? = some c
    · cases move with
      | @claim goal hc =>
        cases hd
        rw [Deed.on, Board.cell_set_self (sound.goal_lt hi rfl)] at h
        cases h
      | made => exact .inl h
      | @failed goal fault =>
        cases hd
        rw [Deed.on, Board.cell_set_self (sound.goal_lt hi rfl)] at h
        cases h
      | @published goal b' =>
        cases hd
        rw [Deed.on, Board.cell_set_self (sound.goal_lt hi rfl)] at h
        cases h
        exact .inr ⟨goal, List.mem_of_getElem? hi, rfl⟩
      | _ => cases hd
    · exact .inl (Deed.cell_on_of_ne hd board ▸ h)
  -- Who is about to publish was so before, or has made its binding with this move.
  · rcases List.mem_or_eq_of_mem_set mem with mem | same
    · exact .inl (.inr ⟨goal, mem, rfl⟩)
    · exact .inr (move.publishing_cases same.symm)

theorem Sound.label_of_holds (sound : Sound labels threads board)
    (move : Move board stage deed stage') {c : CellId} {label : Label} {b : BindingId}
    (h : deed.relabel labels c = some label) (hb : Holds threads board c b) :
    labels c = some label := by
  rcases move.label_cases h with h | ⟨d, _, _, rfl, _⟩
  · exact h
  · exact absurd hb (sound.not_holds_next b)

theorem Sound.known_move (sound : Sound labels threads board) (hi : threads[i]? = some stage)
    (move : Move board stage deed stage') (c : CellId) (label : Label) (b : BindingId)
    (h : deed.relabel labels c = some label)
    (hb : Holds (threads.set i stage') (deed.on board) c b) : b < (deed.on board).made := by
  have grows : board.made ≤ (deed.on board).made := by cases deed <;> simp [Deed.on]
  rcases sound.holds_move hi move hb with hb | ⟨rfl, rfl⟩
  · have known := sound.known c label b (sound.label_of_holds move h hb) hb
    exact Nat.lt_of_lt_of_le known grows
  · exact Nat.lt_succ_self _

theorem Sound.distinct_move (sound : Sound labels threads board) (hi : threads[i]? = some stage)
    (move : Move board stage deed stage') (c c' : CellId) (label label' : Label) (b : BindingId)
    (h : deed.relabel labels c = some label) (h' : deed.relabel labels c' = some label')
    (hb : Holds (threads.set i stage') (deed.on board) c b)
    (hb' : Holds (threads.set i stage') (deed.on board) c' b) : c = c' := by
  -- A binding that was just made is in no other cell.
  have old {c : CellId} {label : Label} (h : deed.relabel labels c = some label)
      (hb : Holds threads board c b) : b ≠ board.made :=
    Nat.ne_of_lt (sound.known c label b (sound.label_of_holds move h hb) hb)
  rcases sound.holds_move hi move hb with hb | ⟨hd, rfl⟩ <;>
    rcases sound.holds_move hi move hb' with hb' | ⟨hd', hm⟩
  · exact sound.distinct c c' label label' b (sound.label_of_holds move h hb)
      (sound.label_of_holds move h' hb') hb hb'
  · exact absurd hm (old h hb)
  · exact absurd rfl (old h' hb')
  · cases hd.symm.trans hd'
    rfl

theorem Sound.find?_of_mem (sound : Sound labels threads board) {name : String}
    {entry : Registration} (h : (name, entry) ∈ board.entries) : board.find? name = some entry :=
  Board.find?_of_mem sound.names h

/-- The entry with the cell of a goal is under the name of the goal's class. -/
theorem Sound.className_eq (sound : Sound labels threads board) {goal : Goal} {name : String}
    {entry : Registration} (hg : goal.Labelled labels) (h : (name, entry) ∈ board.entries)
    (hc : entry.cell = goal.cell) : name = goal.declaration.className := by
  obtain ⟨origin, hl, _⟩ := hg
  obtain ⟨he, rfl⟩ := sound.entry name entry h
  rw [hc, hl] at he
  have same := (Label.mk.injEq ..).mp (Option.some.inj he)
  rw [same.1]

/-- A thread that may have to withdraw an entry goes on to be the one until the entry is gone, or
its cell is filled. -/
theorem Sound.answersFor_move (sound : Sound labels threads board)
    (hi : threads[i]? = some stage) (move : Move board stage deed stage') {name : String}
    {entry : Registration} (hs : stage.AnswersFor entry.cell)
    (h : (name, entry) ∈ (deed.on board).entries)
    (hb : ((deed.on board).cell entry.cell).binding? = none) : stage'.AnswersFor entry.cell := by
  obtain ⟨goal, hg, hc, hp⟩ := hs
  have labelled : goal.Labelled labels := (sound.stage stage (List.mem_of_getElem? hi)).goal hg
  cases move with
  | located | conflict | inserted | named | unknown | preload | peek | deferred => cases hg
  | found hf | awaited hf =>
    cases hg
    rw [Deed.on, ← hc, hf] at hb
    cases hb
  | unfilled | claim | advance | made => exact ⟨goal, hg, hc, hp⟩
  -- Who fails with an entry to withdraw goes on to withdraw it.
  | failed =>
    cases hg
    exact ⟨goal, by simp [Stage.missed, hp, Stage.goal?], hc, hp⟩
  | published =>
    cases hg
    rw [← hc, Deed.on, Board.cell_set_self (sound.goal_lt hi rfl)] at hb
    cases hb
  -- The entry with the cell is what is taken away, so it cannot still be there.
  | withdrawn hf he =>
    cases hg
    obtain ⟨mem, other⟩ := List.mem_filter.mp h
    exact absurd (sound.className_eq labelled mem hc.symm) (by simpa using other)
  -- The thread spares an entry only if its cell is filled.
  | spared hs =>
    cases hg
    have hn := sound.className_eq labelled h hc.symm
    exact absurd (hc ▸ hb) (hs entry (hn ▸ sound.find?_of_mem h) hc.symm)

/-- Nothing is done to a filled cell: deeds are done to cells that are empty or busy. -/
theorem Sound.untouched_of_filled (sound : Sound labels threads board)
    (hi : threads[i]? = some stage) (move : Move board stage deed stage') {c : CellId}
    {b : BindingId} (h : board.cell c = .filled b) : deed.cell? ≠ some c := by
  intro hd
  cases move with
  | claim hc =>
    cases hd
    cases hc.symm.trans h
  | @made goal =>
    cases hd
    cases (sound.busy_of_owns hi (c := goal.cell) (by simp)).symm.trans h
  | @failed goal =>
    cases hd
    cases (sound.busy_of_owns hi (c := goal.cell) (by simp)).symm.trans h
  | @published goal =>
    cases hd
    cases (sound.busy_of_owns hi (c := goal.cell) (by simp)).symm.trans h
  | _ => cases hd

/-- A filled cell stays as it is. -/
theorem Sound.filled_move (sound : Sound labels threads board) (hi : threads[i]? = some stage)
    (move : Move board stage deed stage') {c : CellId} {b : BindingId}
    (h : board.cell c = .filled b) : (deed.on board).cell c = .filled b := by
  rw [Deed.cell_on_of_ne (sound.untouched_of_filled hi move h), h]

theorem Sound.unfilled_of_move (sound : Sound labels threads board)
    (hi : threads[i]? = some stage) (move : Move board stage deed stage') {c : CellId}
    (h : ((deed.on board).cell c).binding? = none) : (board.cell c).binding? = none := by
  cases hc : board.cell c with
  | filled b =>
    rw [sound.filled_move hi move hc] at h
    cases h
  | empty | busy => rfl

theorem Sound.responsible_move (sound : Sound labels threads board)
    (hi : threads[i]? = some stage) (move : Move board stage deed stage') (name : String)
    (entry : Registration) (h : (name, entry) ∈ (deed.on board).entries)
    (hp : entry.predeclared = false)
    (hb : ((deed.on board).cell entry.cell).binding? = none) :
    ∃ stage ∈ threads.set i stage', stage.AnswersFor entry.cell := by
  have bound : i < threads.length := (List.getElem?_eq_some_iff.mp hi).1
  have moved : stage' ∈ threads.set i stage' := List.mem_set bound _
  have old (h : (name, entry) ∈ board.entries) (ho : (name, entry) ∈ (deed.on board).entries) :
      ∃ stage ∈ threads.set i stage', stage.AnswersFor entry.cell := by
    have unfilled := sound.unfilled_of_move hi move hb
    obtain ⟨other, mem, hs⟩ := sound.responsible name entry h hp unfilled
    obtain ⟨j, hj⟩ := List.mem_iff_getElem?.mp mem
    -- The thread that answers for the entry is the one that moves, or it stays where it is.
    by_cases hij : i = j
    · subst hij
      cases hi.symm.trans hj
      exact ⟨stage', moved, sound.answersFor_move hi move hs ho hb⟩
    · have stays : (threads.set i stage')[j]? = some other := by
        rw [List.getElem?_set_ne hij, hj]
      exact ⟨other, List.mem_of_getElem? stays, hs⟩
  cases move with
  | inserted =>
    rcases List.mem_append.mp h with h' | h'
    · exact old h' h
    · cases List.mem_singleton.mp h'
      -- The new entry is for the thread that brought it in to withdraw.
      exact ⟨_, moved, _, rfl, rfl, rfl⟩
  | withdrawn => exact old (List.mem_filter.mp h).1 h
  | _ => exact old h h

theorem Sound.predeclared_move (sound : Sound labels threads board)
    (hi : threads[i]? = some stage) (move : Move board stage deed stage') (c : CellId)
    (d : Declaration) (h : deed.relabel labels c = some ⟨d, .predeclared⟩) :
    (d.className, ⟨d, true, c⟩) ∈ (deed.on board).entries := by
  have known : (d.className, ⟨d, true, c⟩) ∈ board.entries := by
    rcases move.label_cases h with h | ⟨_, _, _, _, hl⟩
    · exact sound.predeclared c d h
    · cases hl
  cases move with
  | inserted => exact List.mem_append.mpr (.inl known)
  | @withdrawn goal fault entry hf hc hb =>
    -- Only a thread that answers for a requested cell withdraws, and this one is predeclared.
    obtain ⟨⟨origin, hl, fits⟩, purpose⟩ := sound.stage _ (List.mem_of_getElem? hi)
    refine List.mem_filter.mpr ⟨known, ?_⟩
    simp only [bne_iff_ne, ne_eq]
    intro same
    rw [← same, sound.find?_of_mem known] at hf
    cases hf
    rw [← hc] at hl
    rw [purpose] at fits
    cases fits
    cases h.symm.trans hl
  | _ => exact known

theorem Sound.apart_move (sound : Sound labels threads board)
    (move : Move board stage deed stage') (c c' : CellId) (d d' : Declaration)
    (h : deed.relabel labels c = some ⟨d, .predeclared⟩)
    (h' : deed.relabel labels c' = some ⟨d', .requested⟩) : d.className ≠ d'.className := by
  rcases move.label_cases h with h | ⟨_, _, _, _, hl⟩
  · rcases move.label_cases h' with h' | ⟨d'', _, unknown, _, hl⟩
    · exact sound.apart c c' d d' h h'
    · cases hl
      -- A class is requested only if it is not known, and what is predeclared is known for good.
      intro same
      rw [← same] at unknown
      exact Board.find?_eq_none_iff.mp unknown _ (sound.predeclared c d h)
  · cases hl

/-- Each move keeps the invariant. -/
theorem Sound.move (sound : Sound labels threads board) (hi : threads[i]? = some stage)
    (move : Move board stage deed stage') :
    Sound (deed.relabel labels) (threads.set i stage') (deed.on board) where
  names := sound.names_move move
  entry := sound.entry_move move
  allocated := sound.allocated_move move
  stage other mem := by
    rcases List.mem_or_eq_of_mem_set mem with mem | rfl
    · exact (sound.stage other mem).mono fun c label => sound.relabel move
    · exact sound.stage_move hi move
  owners := sound.owners_move hi move
  known := sound.known_move hi move
  distinct := sound.distinct_move hi move
  responsible := sound.responsible_move hi move
  predeclared := sound.predeclared_move hi move
  apart := sound.apart_move move

end Move

/-! ## Runs -/

/-- Whatever each step keeps, and each lost turn, every run keeps, and the invariant with it. What
is kept may speak of the labels, of threads and of what they share, and of the deeds up to now. -/
theorem Sound.run_steps {P : Labelling → Team H → List (Nat × Deed) → Prop}
    (lost : ∀ {labels team past} (i : Nat), P labels team past →
      P labels team (past ++ [(i, .nothing)]))
    (step : ∀ {labels team past i stage stage' s'}, Sound labels team.threads team.shared.board →
      team.threads[i]? = some stage → stage.advance team.shared = some (stage', s') →
      P labels team past → P ((stage.deed team.shared).relabel labels)
        ⟨team.threads.set i stage', s'⟩ (past ++ [(i, stage.deed team.shared)]))
    {labels : Labelling} {team : Team H} (past : List (Nat × Deed)) (schedule : List Nat)
    (sound : Sound labels team.threads team.shared.board) (h : P labels team past) :
    ∃ labels', (∀ c label, labels c = some label → labels' c = some label) ∧
      Sound labels' (team.run schedule).threads (team.run schedule).shared.board ∧
      P labels' (team.run schedule) (past ++ team.chronicle schedule) := by
  -- Labels grow along the schedule, so the induction is for all labels at once.
  induction schedule generalizing labels team past with
  | nil => exact ⟨labels, fun _ _ hl => hl, sound, by simpa [Team.chronicle] using h⟩
  | cons i schedule ih =>
    rw [Team.run_cons, Team.chronicle, List.append_cons]
    rcases team.turn_cases i with ⟨same, nothing, _⟩ | ⟨stage, stage', s', hi, ha, turn, deed⟩
    · rw [same, nothing]
      exact ih _ sound (lost i h)
    · obtain ⟨move, board⟩ := Stage.move_of_advance ha
      have sound' := sound.move hi move
      rw [← board] at sound'
      rw [turn, deed]
      obtain ⟨labels', le, rest⟩ := ih _ sound' (step sound hi ha h)
      exact ⟨labels', fun c label hl => le c label (sound.relabel move hl), rest⟩

/-- The same for what speaks of the board only, and of moves. -/
theorem Sound.run {P : Labelling → List (Stage H) → Board → List (Nat × Deed) → Prop}
    (lost : ∀ {labels threads board past} (i : Nat), P labels threads board past →
      P labels threads board (past ++ [(i, .nothing)]))
    (move : ∀ {labels threads board past i stage deed stage'}, Sound labels threads board →
      threads[i]? = some stage → Move board stage deed stage' → P labels threads board past →
      P (deed.relabel labels) (threads.set i stage') (deed.on board) (past ++ [(i, deed)]))
    {labels : Labelling} {team : Team H} (past : List (Nat × Deed)) (schedule : List Nat)
    (sound : Sound labels team.threads team.shared.board)
    (h : P labels team.threads team.shared.board past) :
    ∃ labels', (∀ c label, labels c = some label → labels' c = some label) ∧
      Sound labels' (team.run schedule).threads (team.run schedule).shared.board ∧
      P labels' (team.run schedule).threads (team.run schedule).shared.board
        (past ++ team.chronicle schedule) := by
  refine Sound.run_steps (P := fun labels team past => P labels team.threads team.shared.board past)
    (fun i h => lost i h) (fun sound hi ha h => ?_) past schedule sound h
  obtain ⟨step, board⟩ := Stage.move_of_advance ha
  rw [board]
  exact move sound hi step h

/-- Every run keeps the invariant, and the labels that there are. -/
theorem Sound.after {labels : Labelling} {team : Team H}
    (sound : Sound labels team.threads team.shared.board) (schedule : List Nat) :
    ∃ labels', (∀ c label, labels c = some label → labels' c = some label) ∧
      Sound labels' (team.run schedule).threads (team.run schedule).shared.board := by
  obtain ⟨labels', le, sound', _⟩ := Sound.run (P := fun _ _ _ _ => True) (fun _ _ => trivial)
    (fun _ _ _ _ => trivial) [] schedule sound trivial
  exact ⟨labels', le, sound'⟩

/-- A filled cell stays as it is in every run, and nothing is done to it. -/
theorem Sound.filled_run {labels : Labelling} {team : Team H} {c : CellId} {b : BindingId}
    (sound : Sound labels team.threads team.shared.board) (schedule : List Nat)
    (h : team.shared.store.cell c = .filled b) :
    (team.run schedule).shared.store.cell c = .filled b ∧ team.deedsOn c schedule = [] := by
  obtain ⟨_, _, _, filled, none⟩ := Sound.run
    (P := fun _ _ board past => board.cell c = .filled b ∧ Deed.doneTo c past = [])
    (fun i h => ⟨h.1, by rw [Deed.doneTo_append, h.2]; rfl⟩)
    (fun sound hi move h => ⟨sound.filled_move hi move h.1, by
      rw [Deed.doneTo_append, h.2, Deed.doneTo_of_ne _ (sound.untouched_of_filled hi move h.1),
        List.append_nil]⟩)
    [] schedule sound ⟨h, rfl⟩
  exact ⟨filled, none⟩

end HandleCache

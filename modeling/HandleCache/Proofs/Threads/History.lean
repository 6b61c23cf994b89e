import HandleCache.Proofs.Threads.Start

/-!
# The history of a cell

What was done to a cell, in order, is a number of attempts that failed and at most one that did not.
The one that did not fail is the last: it makes a binding, the binding is put into the cell, and
that is the end of the history.

## Contents

- `Condition`, `Past`: how a cell stands, and the deeds that brought it there
- `Condition.last`, `Past.shape`: the deeds after the last failure

## Main statements

- `Sound.past_deed`: a deed to a cell goes with how it stands
- `Sound.past_run`: so it is in every run
-/

namespace HandleCache

/-! ## Deeds to one cell -/

/-- How a cell stands. -/
inductive Condition where
  | idle
  | claimed
  /-- Somebody has made a binding for it. -/
  | made (b : BindingId)
  | kept (b : BindingId)
  deriving DecidableEq, Repr

/-- The deeds to a cell that bring it where it stands. -/
inductive Past (c : CellId) : List Deed → Condition → Prop
  | nil : Past c [] .idle
  /-- A cell that nobody is resolving is claimed. -/
  | attempt {deeds : List Deed} (h : Past c deeds .idle) :
      Past c (deeds ++ [.attempt c]) .claimed
  | fail {deeds : List Deed} (h : Past c deeds .claimed) : Past c (deeds ++ [.fail c]) .idle
  /-- The one that claimed it makes a binding. -/
  | make {deeds : List Deed} (b : BindingId) (h : Past c deeds .claimed) :
      Past c (deeds ++ [.make c b]) (.made b)
  /-- The one that made a binding puts it into the cell. -/
  | publish {deeds : List Deed} {b : BindingId} (h : Past c deeds (.made b)) :
      Past c (deeds ++ [.publish c b]) (.kept b)

/-- The deeds since the last failure. -/
def Condition.last (c : CellId) : Condition → List Deed
  | idle => []
  | claimed => [.attempt c]
  | made b => [.attempt c, .make c b]
  | kept b => [.attempt c, .make c b, .publish c b]

/-- Attempts that failed, one after the other. -/
def Deed.failures (c : CellId) (k : Nat) : List Deed :=
  (List.replicate k [.attempt c, .fail c]).flatten

theorem Deed.failures_succ (c : CellId) (k : Nat) :
    failures c (k + 1) = failures c k ++ [.attempt c, .fail c] := by
  simp [failures, List.replicate_succ', List.flatten_append]

/-- There are failures, and then what was done since the last one. -/
theorem Past.shape {c : CellId} {deeds : List Deed} {condition : Condition}
    (h : Past c deeds condition) : ∃ k, deeds = Deed.failures c k ++ condition.last c := by
  induction h with
  | nil => exact ⟨0, rfl⟩
  | attempt h ih =>
    obtain ⟨k, rfl⟩ := ih
    exact ⟨k, by simp [Condition.last]⟩
  | fail h ih =>
    obtain ⟨k, rfl⟩ := ih
    exact ⟨k + 1, by simp [Condition.last, Deed.failures_succ]⟩
  | make b h ih =>
    obtain ⟨k, rfl⟩ := ih
    exact ⟨k, by simp [Condition.last]⟩
  | publish h ih =>
    obtain ⟨k, rfl⟩ := ih
    exact ⟨k, by simp [Condition.last]⟩

/-! ## How a cell stands -/

section Move

variable {H : Host} {labels : Labelling} {threads : List (Stage H)} {board : Board} {i : Nat}
  {stage stage' : Stage H} {deed : Deed} {c : CellId}

/-- What the threads and the board show of how a cell stands. -/
def Condition.Shown (threads : List (Stage H)) (board : Board) (c : CellId) : Condition → Prop
  | idle => board.cell c = .empty
  | claimed => board.cell c = .busy ∧ ∀ goal b, .publishing goal b ∈ threads → goal.cell ≠ c
  | made b => board.cell c = .busy ∧ ∃ goal, .publishing goal b ∈ threads ∧ goal.cell = c
  | kept b => board.cell c = .filled b

theorem Condition.Shown.kept_of_filled {condition : Condition} {b : BindingId}
    (shown : condition.Shown threads board c) (h : board.cell c = .filled b) :
    condition = .kept b := by
  cases condition with
  | idle => cases shown.symm.trans h
  | claimed => cases shown.1.symm.trans h
  | made b' => cases shown.1.symm.trans h
  | kept b' =>
    cases shown.symm.trans h
    rfl

/-- While one thread resolves a cell, no other does. -/
theorem Sound.owner_unique (sound : Sound labels threads board) (hi : threads[i]? = some stage)
    (ho : stage.owns c = true) {other : Stage H} (mem : other ∈ threads.set i stage')
    (ho' : other.owns c = true) : other = stage' := by
  obtain ⟨label, hl⟩ := (sound.stage stage (List.mem_of_getElem? hi)).label_of_owns ho
  have one := sound.owners c label hl
  rw [if_pos (sound.busy_of_owns hi ho)] at one
  -- Without the one that resolves the cell nobody does.
  have nobody : (threads.set i (.done (.ok none))).countP (Stage.owns c) = 0 := by
    have count := countP_set_add (p := Stage.owns c) (.done (.ok none)) hi
    simp only [one, ho, Stage.owns_done, ↓reduceIte, Bool.false_eq_true] at count
    omega
  obtain ⟨j, hj⟩ := List.mem_iff_getElem?.mp mem
  by_cases hij : i = j
  · subst hij
    rw [List.getElem?_set_self (List.getElem?_eq_some_iff.mp hi).1] at hj
    exact (Option.some.inj hj).symm
  · rw [List.getElem?_set_ne hij] at hj
    have still : (threads.set i (.done (.ok none)))[j]? = some other := by
      rw [List.getElem?_set_ne hij, hj]
    exact absurd ho' (List.countP_eq_zero.mp nobody other (List.mem_of_getElem? still))

/-- A thread that is about to publish into the cell that another one resolves is that one. -/
theorem Sound.publishing_unique (sound : Sound labels threads board)
    (hi : threads[i]? = some stage) (ho : stage.owns c = true) {goal : Goal} {b : BindingId}
    (mem : .publishing goal b ∈ threads) (hc : goal.cell = c) : stage = .publishing goal b := by
  obtain ⟨bound, rfl⟩ := List.getElem?_eq_some_iff.mp hi
  have mem' : .publishing goal b ∈ threads.set i threads[i] := by rwa [List.set_getElem_self]
  exact (sound.owner_unique hi ho mem' (by simp [hc])).symm

/-- A deed to a cell goes with how the cell stands before and after it. -/
theorem Sound.past_deed (sound : Sound labels threads board) (hi : threads[i]? = some stage)
    (move : Move board stage deed stage') (hd : deed.cell? = some c) {deeds : List Deed}
    {condition : Condition} (past : Past c deeds condition)
    (shown : condition.Shown threads board c) :
    ∃ condition', Past c (deeds ++ [deed]) condition' ∧
      condition'.Shown (threads.set i stage') (deed.on board) c := by
  have bound : i < threads.length := (List.getElem?_eq_some_iff.mp hi).1
  have moved : stage' ∈ threads.set i stage' := List.mem_set bound _
  cases move with
  -- Who finds the cell empty claims it; nobody publishes into it, for nobody owns it yet.
  | @claim goal hc =>
    cases hd
    cases condition with
    | idle =>
      refine ⟨.claimed, past.attempt, Board.cell_set_self (sound.goal_lt hi rfl) _, ?_⟩
      rintro goal' b mem same
      rcases List.mem_or_eq_of_mem_set mem with mem | absurd
      · obtain ⟨j, hj⟩ := List.mem_iff_getElem?.mp mem
        cases hc.symm.trans (sound.busy_of_owns hj (c := goal.cell) (by simp [same]))
      · cases absurd
    | claimed => cases hc.symm.trans shown.1
    | made b => cases hc.symm.trans shown.1
    | kept b => cases hc.symm.trans shown
  -- The one that resolves the cell is the only one, so nobody has made a binding for it yet.
  | @made goal binding =>
    cases hd
    have owns : (Stage.resolving goal (.finished (.ok binding)) : Stage H).owns goal.cell = true :=
      by simp
    have busy := sound.busy_of_owns hi owns
    cases condition with
    | idle => cases busy.symm.trans shown
    | claimed => exact ⟨.made board.made, past.make _, busy, goal, moved, rfl⟩
    | made b =>
      obtain ⟨_, goal', mem, same⟩ := shown
      cases sound.publishing_unique hi owns mem same
    | kept b => cases busy.symm.trans shown
  | @failed goal fault =>
    cases hd
    have owns : (Stage.resolving goal (.finished (.error fault))).owns goal.cell = true := by simp
    have busy := sound.busy_of_owns hi owns
    cases condition with
    | idle => cases busy.symm.trans shown
    | claimed => exact ⟨.idle, past.fail, Board.cell_set_self (sound.goal_lt hi rfl) _⟩
    | made b =>
      obtain ⟨_, goal', mem, same⟩ := shown
      cases sound.publishing_unique hi owns mem same
    | kept b => cases busy.symm.trans shown
  -- The binding that is published is the one that was made.
  | @published goal b =>
    cases hd
    have owns : (Stage.publishing goal b : Stage H).owns goal.cell = true := by simp
    have busy := sound.busy_of_owns hi owns
    cases condition with
    | idle => cases busy.symm.trans shown
    | claimed => exact absurd rfl (shown.2 goal b (List.mem_of_getElem? hi))
    | made b' =>
      obtain ⟨_, goal', mem, same⟩ := shown
      cases sound.publishing_unique hi owns mem same
      exact ⟨.kept b, past.publish, Board.cell_set_self (sound.goal_lt hi rfl) _⟩
    | kept b' => cases busy.symm.trans shown
  | _ => cases hd

/-- A cell to which nothing is done stands as before. -/
theorem Condition.Shown.move (hi : threads[i]? = some stage)
    (move : Move board stage deed stage') (hd : deed.cell? ≠ some c) {condition : Condition}
    (shown : condition.Shown threads board c) :
    condition.Shown (threads.set i stage') (deed.on board) c := by
  have same : (deed.on board).cell c = board.cell c := Deed.cell_on_of_ne hd board
  cases condition with
  | idle => exact same.trans shown
  -- Who is about to publish into the cell would have made its binding with a deed to the cell.
  | claimed =>
    refine ⟨same.trans shown.1, fun goal b mem hc => ?_⟩
    rcases List.mem_or_eq_of_mem_set mem with mem | absurd
    · exact shown.2 goal b mem hc
    · obtain ⟨rfl, _⟩ := move.publishing_cases absurd.symm
      exact hd (by rw [← hc]; rfl)
  | made b =>
    obtain ⟨busy, goal, mem, hc⟩ := shown
    refine ⟨same.trans busy, goal, ?_, hc⟩
    obtain ⟨j, hj⟩ := List.mem_iff_getElem?.mp mem
    by_cases hij : i = j
    · -- The thread that is about to publish would do so.
      subst hij
      cases hi.symm.trans hj
      cases move
      exact absurd (by rw [← hc]; rfl) hd
    · exact List.mem_of_getElem? ((List.getElem?_set_ne hij).trans hj)
  | kept b => exact same.trans shown

/-- What was done to a cell up to now has brought it where it stands. -/
def Recorded (c : CellId) (threads : List (Stage H)) (board : Board) (past : List (Nat × Deed)) :
    Prop :=
  ∃ condition, Past c (Deed.doneTo c past) condition ∧ condition.Shown threads board c

theorem Recorded.lost {past : List (Nat × Deed)} (i : Nat)
    (h : Recorded c threads board past) : Recorded c threads board (past ++ [(i, .nothing)]) := by
  obtain ⟨condition, before, shown⟩ := h
  refine ⟨condition, ?_, shown⟩
  rwa [Deed.doneTo_append, Deed.doneTo_of_ne i (by simp [Deed.cell?]), List.append_nil]

theorem Sound.recorded_move (sound : Sound labels threads board) (hi : threads[i]? = some stage)
    (move : Move board stage deed stage') {past : List (Nat × Deed)}
    (h : Recorded c threads board past) :
    Recorded c (threads.set i stage') (deed.on board) (past ++ [(i, deed)]) := by
  obtain ⟨condition, before, shown⟩ := h
  unfold Recorded
  rw [Deed.doneTo_append]
  by_cases hd : deed.cell? = some c
  · rw [Deed.doneTo_of_eq i hd]
    exact sound.past_deed hi move hd before shown
  · rw [Deed.doneTo_of_ne i hd, List.append_nil]
    exact ⟨condition, before, shown.move hi move hd⟩

end Move

/-! ## Runs -/

/-- What is done along a schedule to a cell that was empty brings it where it stands. -/
theorem Sound.past_run {H : Host} {labels : Labelling} {team : Team H} {c : CellId}
    (sound : Sound labels team.threads team.shared.board)
    (empty : team.shared.store.cell c = .empty) (schedule : List Nat) :
    ∃ condition, Past c (team.deedsOn c schedule) condition ∧
      condition.Shown (team.run schedule).threads (team.run schedule).shared.board c := by
  obtain ⟨_, _, _, recorded⟩ := Sound.run
    (P := fun _ threads board past => Recorded c threads board past)
    (fun i h => h.lost i) (fun sound hi move => sound.recorded_move hi move) [] schedule sound
    ⟨.idle, .nil, empty⟩
  exact recorded

end HandleCache

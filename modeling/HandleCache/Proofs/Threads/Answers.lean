import HandleCache.Proofs.Threads.Start

/-!
# Where answers come from

A thread that is done has answered its task from a cell that is for the task. The cell was filled
by then and stays as it is, so the answer can be read off the board ever after.

## Contents

- `Task.Pursues`, `Task.Answered`, `Stage.Serves`: how tasks, goals and answers go together

## Main statements

- `Sound.serves_move`: a thread goes on to serve its task
- `Shared.Ready.served_run`: in every run, each thread serves its task
-/

namespace HandleCache

variable {H : Host}

/-! ## Tasks, goals and answers -/

/-- Whether a cell that is for a class, and not a deferred one, keeps a binding. -/
def Source (labels : Labelling) (board : Board) (name : String) (b : BindingId) : Prop :=
  ∃ c label, labels c = some label ∧ label.origin ≠ .deferred ∧
    label.declaration.className = name ∧ board.cell c = .filled b

namespace Task

/-- Whether a thread with this task may be at work on this goal. -/
def Pursues (labels : Labelling) (board : Board) : Task → Goal → Prop
  | request d, goal => goal.declaration = d ∧ ∃ withdraws, goal.purpose = .answer withdraws
  | named name, goal => goal.declaration.className = name ∧ goal.purpose = .answer false
  | preload _, goal =>
    -- Whatever is predeclared is resolved, or still ahead.
    ∃ rest, goal.purpose = .next rest ∧ ∀ c d, labels c = some ⟨d, .predeclared⟩ →
      (board.cell c).binding? = none → goal.cell = c ∨ ∃ entry ∈ rest, entry.cell = c
  | peek _, _ => False
  | deferred l, goal => goal = ⟨l.declaration, l.cell, .deferred⟩

/-- Whether the answer to a task is in a cell for it. -/
def Answered (labels : Labelling) (board : Board) : Task → Option BindingId → Prop
  | request d, answer => ∃ b, answer = some b ∧ Source labels board d.className b
  | named name, answer => ∃ b, answer = some b ∧ Source labels board name b
  | preload _, answer => answer = none ∧
    ∀ c d, labels c = some ⟨d, .predeclared⟩ → ∃ b, board.cell c = .filled b
  | peek name, answer => ∀ b, answer = some b → Source labels board name b
  | deferred l, answer => ∃ b, answer = some b ∧ board.cell l.cell = .filled b

end Task

/-- Whether a thread with this task may be at this stage. -/
def Stage.Serves (labels : Labelling) (board : Board) (task : Task) : Stage H → Prop
  | start task' => task' = task
  | look goal | enter goal | resolving goal _ | publishing goal _ | withdrawing goal _ =>
    task.Pursues labels board goal
  | done (.ok answer) => task.Answered labels board answer
  | done (.error _) => True

/-! ## What lasts -/

/-- Labels and filled cells last, and none is declared in front later on. -/
structure Lasts (labels : Labelling) (board : Board) (labels' : Labelling) (board' : Board) :
    Prop where
  label : ∀ c label, labels c = some label → labels' c = some label
  predeclared : ∀ c d, labels' c = some ⟨d, .predeclared⟩ → labels c = some ⟨d, .predeclared⟩
  filled : ∀ c b, board.cell c = .filled b → board'.cell c = .filled b

namespace Lasts

variable {labels labels' : Labelling} {board board' : Board}

theorem unfilled (lasts : Lasts labels board labels' board') {c : CellId}
    (h : (board'.cell c).binding? = none) : (board.cell c).binding? = none := by
  cases hc : board.cell c with
  | filled b =>
    rw [lasts.filled c b hc] at h
    cases h
  | empty | busy => rfl

theorem source (lasts : Lasts labels board labels' board') {name : String} {b : BindingId}
    (h : Source labels board name b) : Source labels' board' name b := by
  obtain ⟨c, label, hl, origin, hn, hb⟩ := h
  exact ⟨c, label, lasts.label c label hl, origin, hn, lasts.filled c b hb⟩

theorem pursues (lasts : Lasts labels board labels' board') {task : Task} {goal : Goal}
    (h : task.Pursues labels board goal) : task.Pursues labels' board' goal := by
  cases task with
  | preload arrangement =>
    obtain ⟨rest, hp, ahead⟩ := h
    exact ⟨rest, hp, fun c d hl hb => ahead c d (lasts.predeclared c d hl) (lasts.unfilled hb)⟩
  | request | named | peek | deferred => exact h

theorem answered (lasts : Lasts labels board labels' board') {task : Task}
    {answer : Option BindingId} (h : task.Answered labels board answer) :
    task.Answered labels' board' answer := by
  cases task with
  | request | named =>
    obtain ⟨b, hb, source⟩ := h
    exact ⟨b, hb, lasts.source source⟩
  | preload =>
    refine ⟨h.1, fun c d hl => ?_⟩
    obtain ⟨b, hb⟩ := h.2 c d (lasts.predeclared c d hl)
    exact ⟨b, lasts.filled c b hb⟩
  | peek => exact fun b hb => lasts.source (h b hb)
  | deferred l =>
    obtain ⟨b, hb, filled⟩ := h
    exact ⟨b, hb, lasts.filled _ b filled⟩

/-- A thread that does not move goes on to serve its task. -/
theorem serves (lasts : Lasts labels board labels' board') {task : Task} {stage : Stage H}
    (h : stage.Serves labels board task) : stage.Serves labels' board' task := by
  match stage, h with
  | .start _, h => exact h
  | .look _, h | .enter _, h | .resolving _ _, h | .publishing _ _, h | .withdrawing _ _, h =>
    exact lasts.pursues h
  | .done (.ok _), h => exact lasts.answered h
  | .done (.error _), _ => trivial

end Lasts

/-! ## Where a thread goes -/

namespace Stage

variable {labels : Labelling} {board : Board} {task : Task}

/-- A thread that visits entries serves a task that preloads, if they are all that is not
resolved. -/
theorem serves_visit (arrangement : Arrangement) {rest : List Registration}
    (ahead : ∀ c d, labels c = some ⟨d, .predeclared⟩ → (board.cell c).binding? = none →
      ∃ entry ∈ rest, entry.cell = c) :
    (visit rest : Stage H).Serves labels board (.preload arrangement) := by
  cases rest with
  | nil =>
    refine ⟨rfl, fun c d hl => ?_⟩
    cases hc : board.cell c with
    | filled b => exact ⟨b, rfl⟩
    | empty | busy =>
      obtain ⟨entry, he, _⟩ := ahead c d hl (by rw [hc]; rfl)
      cases he
  | cons entry rest =>
    refine ⟨rest, rfl, fun c d hl hb => ?_⟩
    obtain ⟨other, ho, hc⟩ := ahead c d hl hb
    rcases List.mem_cons.mp ho with rfl | ho
    · exact .inl hc
    · exact .inr ⟨other, ho, hc⟩

/-- A goal that is reached is what its task is answered from. -/
theorem serves_reached {goal : Goal} {b : BindingId} (labelled : goal.Labelled labels)
    (h : task.Pursues labels board goal) (hb : board.cell goal.cell = .filled b) :
    (reached goal b : Stage H).Serves labels board task := by
  obtain ⟨origin, hl, fits⟩ := labelled
  have source (name : String) (hn : goal.declaration.className = name) {withdraws : Bool}
      (hp : goal.purpose = .answer withdraws) : Source labels board name b := by
    refine ⟨goal.cell, _, hl, ?_, hn, hb⟩
    rw [hp] at fits
    cases withdraws with
    | true => cases fits; exact Origin.noConfusion
    | false => exact fits
  -- The cell is where the answer is from; only a preloading goes on.
  cases task with
  | request d =>
    obtain ⟨rfl, withdraws, hp⟩ := h
    simp only [reached, hp]
    exact ⟨b, rfl, source _ rfl hp⟩
  | named name =>
    obtain ⟨hn, hp⟩ := h
    simp only [reached, hp]
    exact ⟨b, rfl, source name hn hp⟩
  | preload arrangement =>
    obtain ⟨rest, hp, ahead⟩ := h
    simp only [reached, hp]
    apply serves_visit arrangement
    intro c d hl hc
    -- The cell that was just filled is not among those that are still ahead.
    rcases ahead c d hl hc with rfl | later
    · rw [hb] at hc
      cases hc
    · exact later
  | peek name => exact h.elim
  | deferred l =>
    cases h
    exact ⟨b, rfl, hb⟩

theorem serves_missed {goal : Goal} {fault : Fault H.Failure}
    (h : task.Pursues labels board goal) : (missed goal fault).Serves labels board task := by
  unfold missed
  split
  · exact h
  · trivial
  · trivial
  · trivial

end Stage

section Move

variable {labels : Labelling} {threads : List (Stage H)} {board : Board} {i : Nat}
  {stage stage' : Stage H} {deed : Deed} {task : Task}

theorem Sound.lasts (sound : Sound labels threads board) (hi : threads[i]? = some stage)
    (move : Move board stage deed stage') :
    Lasts labels board (deed.relabel labels) (deed.on board) where
  label _ _ := sound.relabel move
  predeclared c d h := by
    rcases move.label_cases h with h | ⟨_, _, _, _, hl⟩
    · exact h
    · cases hl
  filled _ _ := sound.filled_move hi move

theorem Sound.source_of_peek (sound : Sound labels threads board) {name : String}
    {b : BindingId} (h : board.peek name = some b) : Source labels board name b := by
  obtain ⟨entry, hf, hb⟩ := Option.bind_eq_some_iff.mp h
  obtain ⟨label, hn⟩ := sound.found hf
  refine ⟨entry.cell, _, label, entry.label_ne_deferred, hn, ?_⟩
  cases hc : board.cell entry.cell with
  | filled b' =>
    rw [hc] at hb
    cases hb
    rfl
  | empty | busy =>
    rw [hc] at hb
    cases hb

/-- A thread goes on to serve its task. -/
theorem Sound.serves_move (sound : Sound labels threads board) (hi : threads[i]? = some stage)
    (move : Move board stage deed stage') (h : stage.Serves labels board task) :
    stage'.Serves (deed.relabel labels) (deed.on board) task := by
  have lasts := sound.lasts hi move
  have labelled := sound.stage stage (List.mem_of_getElem? hi)
  cases move with
  | located hf => cases h; exact ⟨rfl, _, rfl⟩
  | conflict | unknown => trivial
  | inserted hf => cases h; exact ⟨rfl, _, rfl⟩
  | named hf => cases h; exact ⟨(sound.found hf).2, rfl⟩
  | preload arrangement =>
    cases h
    refine Stage.serves_visit arrangement fun c d hl hb => ⟨⟨d, true, c⟩, ?_, rfl⟩
    -- What is predeclared and not resolved is pending, in whatever order.
    have entry : ⟨d, true, c⟩ ∈ board.entries.map (·.2) :=
      List.mem_map.mpr ⟨_, sound.predeclared c d hl, rfl⟩
    have pending : ⟨d, true, c⟩ ∈ board.pending :=
      List.mem_filter.mpr ⟨entry, Option.isNone_iff_eq_none.mpr hb⟩
    exact (arrangement.perm _).mem_iff.mpr pending
  | peek name => cases h; exact fun b hb => sound.source_of_peek hb
  | deferred l => cases h; rfl
  | found hf => exact Stage.serves_reached labelled h hf
  | awaited hf => exact Stage.serves_reached labelled h hf
  | unfilled | claim | advance | made => exact lasts.pursues h
  | failed => exact Stage.serves_missed (lasts.pursues h)
  | published =>
    exact Stage.serves_reached labelled (lasts.pursues h)
      (Board.cell_set_self (sound.goal_lt hi rfl) _)
  | withdrawn | spared => trivial

/-- Whether each thread serves its task. -/
def Served (tasks : List Task) (labels : Labelling) (threads : List (Stage H)) (board : Board) :
    Prop :=
  ∀ (j : Nat) (task : Task), tasks[j]? = some task →
    ∃ stage : Stage H, threads[j]? = some stage ∧ stage.Serves labels board task

/-- Where all threads have one task, it is that one which each serves. -/
theorem Served.of_replicate {n : Nat} (h : Served (List.replicate n task) labels threads board)
    (hi : threads[i]? = some stage) (bound : i < n) : stage.Serves labels board task := by
  obtain ⟨other, ho, serves⟩ := h i task (by simp [bound])
  cases ho.symm.trans hi
  exact serves

theorem Sound.served_move (sound : Sound labels threads board) (hi : threads[i]? = some stage)
    (move : Move board stage deed stage') {tasks : List Task}
    (h : Served tasks labels threads board) :
    Served tasks (deed.relabel labels) (threads.set i stage') (deed.on board) := by
  intro j task hj
  obtain ⟨other, ho, serves⟩ := h j task hj
  -- The thread that moves goes on with its task; to the others nothing happens but what lasts.
  by_cases hij : i = j
  · subst hij
    cases hi.symm.trans ho
    refine ⟨stage', ?_, sound.serves_move hi move serves⟩
    exact List.getElem?_set_self (List.getElem?_eq_some_iff.mp hi).1
  · exact ⟨other, (List.getElem?_set_ne hij).trans ho, (sound.lasts hi move).serves serves⟩

end Move

/-! ## Runs -/

theorem Team.served_start {labels : Labelling} {s : Shared H} (tasks : List Task) :
    Served tasks labels (Team.start tasks s).threads (Team.start tasks s).shared.board :=
  fun j task hj => ⟨.start task, by simp [Team.start, hj], rfl⟩

/-- In every run, each thread serves its task. -/
theorem Shared.Ready.served_run {labels : Labelling} {s : Shared H} {ls : List Deferred}
    (ready : Ready labels s ls) {tasks : List Task} (among : ∀ task ∈ tasks, task.Among ls)
    (schedule : List Nat) :
    ∃ labels', (∀ c label, labels c = some label → labels' c = some label) ∧
      Sound labels' ((Team.start tasks s).run schedule).threads
        ((Team.start tasks s).run schedule).shared.board ∧
      Served tasks labels' ((Team.start tasks s).run schedule).threads
        ((Team.start tasks s).run schedule).shared.board := by
  exact Sound.run (P := fun labels threads board _ => Served tasks labels threads board)
    (fun _ h => h) (fun sound hi move h => sound.served_move hi move h) [] schedule
    (ready.sound among) (Team.served_start tasks)

end HandleCache

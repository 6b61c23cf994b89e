import HandleCache.Proofs.Threads.Answers
import Mathlib.Algebra.Ring.Nat

/-!
# Threads that want one thing come to an end

Threads that all ask for one declaration are done after a bounded number of steps, and a thread
that has to wait waits for one that can go on. So in each round in which every thread gets a turn,
somebody gets further, until all are done.

## Main statements

- `Stage.remaining_lt`: each step brings a thread nearer to its end
- `Sound.finished_of_stuck`: there is no deadlock
- `Shared.Ready.finished_of_rounds`: all threads are done after enough rounds
-/

namespace HandleCache

variable {H : Host}

/-! ## Tasks for one declaration -/

/-- Whether a task asks for the binding of this declaration. -/
def Task.For (d : Declaration) (task : Task) : Prop :=
  task = .request d ∨ ∃ c, task = .deferred ⟨d, c⟩

theorem Task.Among.replicate {ls : List Deferred} {task : Task} (h : task.Among ls) (n : Nat) :
    ∀ task' ∈ List.replicate n task, task'.Among ls := by
  intro task' mem
  rwa [List.eq_of_mem_replicate mem]

section For

variable {d : Declaration} {task : Task} {labels : Labelling} {board : Board} {goal : Goal}

theorem Task.For.declaration (h : task.For d) (pursues : task.Pursues labels board goal) :
    goal.declaration = d := by
  rcases h with rfl | ⟨c, rfl⟩
  · exact pursues.1
  · cases pursues
    rfl

theorem Task.For.reached (h : task.For d) (pursues : task.Pursues labels board goal)
    (b : BindingId) : (Stage.reached goal b : Stage H) = .done (.ok (some b)) := by
  rcases h with rfl | ⟨c, rfl⟩
  · obtain ⟨_, withdraws, hp⟩ := pursues
    simp [Stage.reached, hp]
  · cases pursues
    rfl

end For

theorem Stage.missed_cases (goal : Goal) (fault : Fault H.Failure) :
    missed goal fault = .withdrawing goal fault ∨ missed goal fault = .done (.error fault) := by
  unfold missed
  split
  · exact .inl rfl
  · exact .inr rfl
  · exact .inr rfl
  · exact .inr rfl

/-! ## Steps that are left -/

/-- How many steps are left at most for a thread that asks for this declaration. -/
def Stage.remaining (d : Declaration) : Stage H → Nat
  | start _ => d.operations.length + 8
  | look _ => d.operations.length + 7
  | enter _ => d.operations.length + 6
  | resolving _ progress => progress.remaining d + 2
  | publishing _ _ | withdrawing _ _ => 1
  | done _ => 0

/-- Each step brings a thread nearer to its end. -/
theorem Stage.remaining_lt {d : Declaration} {task : Task} {labels : Labelling}
    {stage stage' : Stage H} {s s' : Shared H} (wants : task.For d)
    (serves : stage.Serves labels s.board task) (ha : stage.advance s = some (stage', s')) :
    stage'.remaining d < stage.remaining d := by
  have move := (move_of_advance ha).1
  have effect := effect_of_advance ha
  generalize stage.deed s = deed at move
  cases move with
  | located | inserted | deferred | unfilled => simp [remaining]
  | conflict => simp [remaining]
  -- Threads with such a task ask for a declaration, or for a deferred binding.
  | named | unknown | preload | peek =>
    rcases wants with rfl | ⟨c, rfl⟩ <;> cases serves
  | found => rw [wants.reached serves]; simp [remaining]
  | awaited => rw [wants.reached serves]; simp [remaining]
  | claim => simp [remaining, Progress.remaining]
  -- A request to the host brings the resolution nearer to its end, and the thread with it.
  | @advance goal progress unfinished state =>
    have nearer := Progress.remaining_advance d progress state unfinished
    rw [wants.declaration serves]
    simpa [remaining] using nearer
  | made => simp [remaining, Progress.remaining]
  | @failed goal fault =>
    rcases missed_cases goal fault with h | h <;> rw [h] <;> simp [remaining]
  | published => rw [wants.reached serves]; simp [remaining]
  | withdrawn | spared => simp [remaining]

/-- A sum gets less where one of its parts does. -/
theorem sum_map_set_lt {α : Type} {f : α → Nat} {l : List α} {i : Nat} {old new : α}
    (hi : l[i]? = some old) (less : f new < f old) : ((l.set i new).map f).sum < (l.map f).sum := by
  induction l generalizing i with
  | nil => simp at hi
  | cons first rest ih =>
    cases i with
    | zero =>
      simp only [List.getElem?_cons_zero, Option.some.injEq] at hi
      subst hi
      simpa using less
    | succ i =>
      simp only [List.getElem?_cons_succ] at hi
      simpa using ih hi

namespace Team

/-- How many steps are left at most for all threads. -/
def remaining (d : Declaration) (team : Team H) : Nat :=
  (team.threads.map (Stage.remaining d)).sum

/-- Whether all threads are done. -/
def Finished (team : Team H) : Prop :=
  ∀ stage ∈ team.threads, ∃ outcome, stage = .done outcome

/-- Whether a thread can do nothing with its turn. -/
def Stuck (team : Team H) (i : Nat) : Prop :=
  ∀ stage, team.threads[i]? = some stage → stage.advance team.shared = none

theorem finished_of_remaining_eq_zero {d : Declaration} {team : Team H}
    (h : team.remaining d = 0) : team.Finished := by
  intro stage mem
  have none : stage.remaining d = 0 := by
    exact List.sum_eq_zero_iff_forall_eq_nat.mp h _ (List.mem_map_of_mem mem)
  match stage, none with
  | .done outcome, _ => exact ⟨outcome, rfl⟩
  | .resolving _ _, none | .start _, none | .look _, none | .enter _, none
  | .publishing _ _, none | .withdrawing _ _, none => simp [Stage.remaining] at none

theorem Finished.run {team : Team H} (h : team.Finished) (schedule : List Nat) :
    (team.run schedule).Finished := by
  intro stage mem
  obtain ⟨i, bound, rfl⟩ := List.mem_iff_getElem.mp mem
  have bound' : i < team.threads.length := by rwa [length_run] at bound
  obtain ⟨outcome, done⟩ := h _ (List.getElem_mem bound')
  have before : team.threads[i]? = some (.done outcome) := by
    rw [List.getElem?_eq_getElem bound', done]
  have after := done_run before schedule
  rw [List.getElem?_eq_getElem bound, Option.some.injEq] at after
  exact ⟨outcome, after⟩

end Team

/-! ## No deadlock -/

/-- If nobody can do anything, all are done: who waits, waits for somebody who can go on. -/
theorem Sound.finished_of_stuck {labels : Labelling} {team : Team H}
    (sound : Sound labels team.threads team.shared.board)
    (stuck : ∀ i < team.threads.length, team.Stuck i) : team.Finished := by
  intro stage mem
  obtain ⟨i, bound, rfl⟩ := List.mem_iff_getElem.mp mem
  have none := stuck i bound _ (List.getElem?_eq_getElem bound)
  rcases Stage.advance_eq_none_iff.mp none with done | ⟨goal, waits, busy⟩
  · exact done
  · -- The cell is busy, so there is a thread that resolves it.
    have heading : team.threads[i].goal? = some goal := by rw [waits]; rfl
    obtain ⟨origin, hl, _⟩ := (sound.stage _ mem).goal heading
    have one := sound.owners goal.cell _ hl
    rw [Shared.cell_board, if_pos busy] at one
    have some : 0 < team.threads.countP (Stage.owns goal.cell) := by omega
    obtain ⟨owner, ho, owns⟩ := List.countP_pos_iff.mp some
    obtain ⟨j, bound', rfl⟩ := List.mem_iff_getElem.mp ho
    have none' := stuck j bound' _ (List.getElem?_eq_getElem bound')
    rcases Stage.advance_eq_none_iff.mp none' with ⟨outcome, h⟩ | ⟨goal', h, _⟩
    · rw [h] at owns
      cases owns
    · rw [h] at owns
      cases owns

/-! ## Rounds -/

section Run

variable {d : Declaration} {task : Task} {s : Shared H} {ls : List Deferred} {n : Nat}
  {labels : Labelling}

/-- A turn brings all threads together nearer to their end, unless nobody could use it. -/
theorem Shared.Ready.turn_remaining (ready : Ready labels s ls) (wants : task.For d)
    (among : task.Among ls) (schedule : List Nat) (i : Nat) :
    let now := (Team.start (List.replicate n task) s).run schedule
    (now.turn i).remaining d < now.remaining d ∨ now.turn i = now ∧ now.Stuck i := by
  intro now
  obtain ⟨labels', _, sound, served⟩ := ready.served_run (among.replicate n) schedule
  rcases now.turn_cases i with ⟨same, _, stuck⟩ | ⟨stage, stage', s', hi, ha, turn, _⟩
  · exact .inr ⟨same, stuck⟩
  · left
    have bound : i < n := by
      have there := (List.getElem?_eq_some_iff.mp hi).1
      rw [Team.length_run] at there
      simpa [Team.start] using there
    rw [turn]
    exact sum_map_set_lt hi (Stage.remaining_lt wants (served.of_replicate hi bound) ha)

/-- The same for several turns. -/
theorem Shared.Ready.turns_remaining (ready : Ready labels s ls) (wants : task.For d)
    (among : task.Among ls) (schedule turns : List Nat) :
    let now := (Team.start (List.replicate n task) s).run schedule
    (now.run turns).remaining d < now.remaining d ∨
      now.run turns = now ∧ ∀ i ∈ turns, now.Stuck i := by
  induction turns generalizing schedule with
  | nil => exact .inr ⟨rfl, fun _ mem => nomatch mem⟩
  -- A turn that is lost changes nothing, so the next one finds what this one found.
  | cons i turns ih =>
    intro now
    rcases ready.turn_remaining wants among schedule i with less | ⟨same, stuck⟩
    · left
      have next : (Team.start (List.replicate n task) s).run (schedule ++ [i]) = now.turn i := by
        rw [Team.run_append]
        rfl
      have later := ih (schedule ++ [i])
      simp only [next] at later
      rcases later with less' | ⟨same, _⟩
      · exact Nat.lt_trans less' less
      · rw [Team.run_cons, same]
        exact less
    · rw [Team.run_cons, same]
      rcases ih schedule with less | ⟨same', stuck'⟩
      · exact .inl less
      · refine .inr ⟨same', fun j mem => ?_⟩
        rcases List.mem_cons.mp mem with rfl | mem
        · exact stuck
        · exact stuck' j mem

/-- In each round in which every thread gets a turn, somebody gets further until all are done. -/
theorem Shared.Ready.rounds_remaining (ready : Ready labels s ls) (wants : task.For d)
    (among : task.Among ls) (schedule : List Nat) (turns : List (List Nat))
    (fair : ∀ round ∈ turns, ∀ i < n, i ∈ round) :
    let begun := Team.start (List.replicate n task) s
    (begun.run (schedule ++ turns.flatten)).Finished ∨
      (begun.run (schedule ++ turns.flatten)).remaining d + turns.length ≤
        (begun.run schedule).remaining d := by
  induction turns generalizing schedule with
  | nil =>
    right
    simp
  -- If a round gets nobody further, each thread was stuck, and who waits waits for one that is not.
  | cons round turns ih =>
    intro begun
    rw [List.flatten_cons, ← List.append_assoc]
    rcases ready.turns_remaining (n := n) wants among schedule round with less | ⟨same, stuck⟩
    · rw [← Team.run_append] at less
      rcases ih (schedule ++ round) (fun other mem => fair other (by simp [mem])) with done | left
      · exact .inl done
      · exact .inr (Nat.succ_le_of_lt (Nat.lt_of_le_of_lt left less))
    · left
      obtain ⟨labels', _, sound, _⟩ := ready.served_run (among.replicate n) schedule
      have finished : (begun.run schedule).Finished := by
        refine sound.finished_of_stuck fun i bound => stuck i (fair round (by simp) i ?_)
        rw [Team.length_run] at bound
        simpa [begun, Team.start] using bound
      rw [List.append_assoc, Team.run_append]
      exact finished.run _

/-- All threads are done after as many rounds as they have steps, whatever happened before. -/
theorem Shared.Ready.finished_of_rounds (ready : Ready labels s ls) (wants : task.For d)
    (among : task.Among ls) (schedule : List Nat) (turns : List (List Nat))
    (fair : ∀ round ∈ turns, ∀ i < n, i ∈ round)
    (enough : n * Team.stepsOfFirstUse d ≤ turns.length) :
    ((Team.start (List.replicate n task) s).run (schedule ++ turns.flatten)).Finished := by
  have all : (Team.start (List.replicate n task) s).remaining d = n * Team.stepsOfFirstUse d := by
    simp [Team.remaining, Team.start, Stage.remaining, Team.stepsOfFirstUse]
  -- What happened before has brought the threads nearer to their end, if it did anything.
  have before : ((Team.start (List.replicate n task) s).run schedule).remaining d ≤
      (Team.start (List.replicate n task) s).remaining d := by
    rcases ready.turns_remaining (n := n) wants among [] schedule with less | ⟨same, _⟩
    · exact Nat.le_of_lt less
    · exact Nat.le_of_eq (congrArg (Team.remaining d) same)
  rcases ready.rounds_remaining wants among schedule turns fair with done | left
  · exact done
  · exact Team.finished_of_remaining_eq_zero (d := d) (by omega)

end Run

end HandleCache

import HandleCache.Registry.Chronicle
import Mathlib.Data.List.Count

/-!
# Moves

All that a step of a thread can be, said once. A move tells from which stage to which a thread goes,
what it found on the board, and the deed that it does. Whatever holds of every run is proved move by
move, and never by opening the steps themselves.

## Main statements

- `Stage.move_of_advance`: each step is a move, and changes the board by its deed alone
- `Stage.effect_of_advance`: what a step does that is not on the board
- `Team.turn_cases`: each turn is lost or is the step of one thread
-/

namespace HandleCache

variable {H : Host}

/-- A step of a thread: what it found on the board, what it does there, and where it goes. -/
inductive Move (board : Board) : Stage H → Deed → Stage H → Prop where
  /-- The class of a request is known with the same declaration. -/
  | located {entry : Registration} (h : board.find? entry.declaration.className = some entry) :
      Move board (.start (.request entry.declaration)) .nothing
        (.look ⟨entry.declaration, entry.cell, .answer (!entry.predeclared)⟩)
  /-- The class of a request is known with another declaration. -/
  | conflict {d : Declaration} {entry : Registration}
      (h : board.find? d.className = some entry) (hd : entry.declaration ≠ d) :
      Move board (.start (.request d)) .nothing (.done (.error (.conflictingDeclaration d.className)))
  /-- The class of a request is not known. -/
  | inserted {d : Declaration} (h : board.find? d.className = none) :
      Move board (.start (.request d)) (.insert d.className ⟨d, false, board.cells.length⟩)
        (.look ⟨d, board.cells.length, .answer true⟩)
  | named {name : String} {entry : Registration} (h : board.find? name = some entry) :
      Move board (.start (.named name)) .nothing
        (.look ⟨entry.declaration, entry.cell, .answer false⟩)
  | unknown {name : String} (h : board.find? name = none) :
      Move board (.start (.named name)) .nothing (.done (.error (.undeclaredClass name)))
  /-- All that is pending is to be resolved. -/
  | preload (arrangement : Arrangement) :
      Move board (.start (.preload arrangement)) .nothing
        (Stage.visit (arrangement.order board.pending))
  | peek (name : String) :
      Move board (.start (.peek name)) .nothing (.done (.ok (board.peek name)))
  | deferred (l : Deferred) :
      Move board (.start (.deferred l)) .nothing (.look ⟨l.declaration, l.cell, .deferred⟩)
  /-- The cell is filled when it is read. -/
  | found {goal : Goal} {b : BindingId} (h : board.cell goal.cell = .filled b) :
      Move board (.look goal) .nothing (Stage.reached goal b)
  /-- The cell is not filled when it is read. -/
  | unfilled {goal : Goal} (h : (board.cell goal.cell).binding? = none) :
      Move board (.look goal) .nothing (.enter goal)
  /-- The cell was filled while the thread was about to enter it. -/
  | awaited {goal : Goal} {b : BindingId} (h : board.cell goal.cell = .filled b) :
      Move board (.enter goal) .nothing (Stage.reached goal b)
  /-- The cell is empty, and is claimed. -/
  | claim {goal : Goal} (h : board.cell goal.cell = .empty) :
      Move board (.enter goal) (.attempt goal.cell) (.resolving goal .begun)
  /-- A request to the host. -/
  | advance {goal : Goal} {progress : Progress H} (h : ∀ result, progress ≠ .finished result)
      (state : H.State) :
      Move board (.resolving goal progress) .nothing
        (.resolving goal (progress.advance goal.declaration state).1)
  | made {goal : Goal} {binding : Binding H} :
      Move board (.resolving goal (.finished (.ok binding))) (.make goal.cell board.made)
        (.publishing goal board.made)
  | failed {goal : Goal} {fault : Fault H.Failure} :
      Move board (.resolving goal (.finished (.error fault))) (.fail goal.cell)
        (Stage.missed goal fault)
  /-- The new binding is put into the cell. -/
  | published {goal : Goal} {b : BindingId} :
      Move board (.publishing goal b) (.publish goal.cell b) (Stage.reached goal b)
  /-- The entry still holds the cell, which is not filled, and is taken away. -/
  | withdrawn {goal : Goal} {fault : Fault H.Failure} {entry : Registration}
      (h : board.find? goal.declaration.className = some entry) (hc : entry.cell = goal.cell)
      (hb : (board.cell goal.cell).binding? = none) :
      Move board (.withdrawing goal fault) (.withdraw goal.declaration.className goal.cell)
        (.done (.error fault))
  /-- There is no such entry any more, and nothing is taken away. -/
  | spared {goal : Goal} {fault : Fault H.Failure}
      (h : ∀ entry, board.find? goal.declaration.className = some entry →
        entry.cell = goal.cell → (board.cell goal.cell).binding? ≠ none) :
      Move board (.withdrawing goal fault) .nothing (.done (.error fault))

namespace Stage

theorem board_found (goal : Goal) (s : Shared H) : (found goal s).board = s.board := by
  unfold found
  split <;> rfl

/-- A new binding counts on the board whether or not a registry counts it. -/
theorem board_adopt (goal : Goal) (binding : Binding H) (s : Shared H) :
    (adopt goal binding s).board = { s.board with made := s.board.made + 1 } := by
  have length : (s.store.bindings ++ [binding]).length = s.store.bindings.length + 1 := by simp
  unfold adopt
  split <;> simp only [Shared.board, length]

/-- Each step is a move, and changes the board by its deed alone. -/
theorem move_of_advance {stage stage' : Stage H} {s s' : Shared H}
    (h : stage.advance s = some (stage', s')) :
    Move s.board stage (stage.deed s) stage' ∧ s'.board = (stage.deed s).on s.board := by
  -- One case for each stage. The step is computed by what it finds, and that is what the move says.
  match stage with
  | start (.request d) =>
    simp only [advance, begin, Shared.locate, deed] at h ⊢
    cases hf : s.registry.find? d.className with
    | none =>
      simp only [hf] at h
      cases h
      exact ⟨.inserted hf, rfl⟩
    | some entry =>
      by_cases hd : entry.declaration = d
      · subst hd
        simp only [hf, if_pos] at h
        cases h
        exact ⟨.located hf, rfl⟩
      · simp only [hf, if_neg hd] at h
        cases h
        exact ⟨.conflict hf hd, rfl⟩
  | start (.named name) =>
    simp only [advance, begin] at h
    cases hf : s.registry.find? name with
    | none =>
      simp only [hf] at h
      cases h
      exact ⟨.unknown hf, rfl⟩
    | some entry =>
      simp only [hf] at h
      cases h
      exact ⟨.named hf, rfl⟩
  | start (.preload arrangement) =>
    cases h
    exact ⟨.preload arrangement, rfl⟩
  | start (.peek name) =>
    cases h
    exact ⟨.peek name, rfl⟩
  | start (.deferred l) =>
    cases h
    exact ⟨.deferred l, rfl⟩
  | look goal =>
    simp only [advance] at h
    cases hc : s.store.cell goal.cell with
    | filled b =>
      simp only [hc, Cell.binding?] at h
      cases h
      exact ⟨.found hc, board_found goal s⟩
    -- To who only reads, a cell that is being resolved is as good as empty.
    | empty =>
      simp only [hc, Cell.binding?] at h
      cases h
      exact ⟨.unfilled (by rw [Shared.cell_board, hc]; rfl), rfl⟩
    | busy =>
      simp only [hc, Cell.binding?] at h
      cases h
      exact ⟨.unfilled (by rw [Shared.cell_board, hc]; rfl), rfl⟩
  | enter goal =>
    simp only [advance] at h
    simp only [deed]
    cases hc : s.store.cell goal.cell with
    | filled b =>
      simp only [hc] at h
      cases h
      exact ⟨.awaited hc, rfl⟩
    | busy => simp only [hc] at h; cases h
    | empty =>
      simp only [hc] at h
      cases h
      exact ⟨.claim hc, rfl⟩
  | resolving goal (.finished (.ok binding)) =>
    cases h
    exact ⟨.made, board_adopt goal binding s⟩
  | resolving goal (.finished (.error fault)) =>
    cases h
    exact ⟨.failed, rfl⟩
  -- What is left are the requests to the host: one move for all of them, whatever the host is.
  | resolving goal .begun =>
    cases h
    exact ⟨.advance (by simp) s.store.host, rfl⟩
  | resolving goal (.members c found rest) =>
    cases h
    exact ⟨.advance (by simp) s.store.host, rfl⟩
  | resolving goal (.leaving c result) =>
    cases h
    exact ⟨.advance (by simp) s.store.host, rfl⟩
  | publishing goal b =>
    cases h
    exact ⟨.published, rfl⟩
  -- The two tests of the step are what tells the last two moves apart.
  | withdrawing goal fault =>
    simp only [advance, Shared.withdraw] at h
    simp only [deed]
    cases hf : s.registry.find? goal.declaration.className with
    | none =>
      simp only [hf] at h
      cases h
      exact ⟨.spared (by simp [hf]), rfl⟩
    | some entry =>
      by_cases hw : entry.cell = goal.cell ∧ (s.store.cell goal.cell).binding? = none
      · simp only [hf, if_pos hw] at h ⊢
        cases h
        exact ⟨.withdrawn hf hw.1 hw.2, rfl⟩
      · simp only [hf, if_neg hw] at h ⊢
        cases h
        refine ⟨.spared fun entry' hf' hc hb => hw ?_, rfl⟩
        cases hf.symm.trans hf'
        exact ⟨hc, hb⟩
  | done outcome => cases h

/-- Whether a step leaves the bindings and their number alone, and tells the host something at
most. -/
structure Quiet (s s' : Shared H) : Prop where
  host : s'.store.host = s.store.host ∨ ∃ e, s'.store.host = H.note e s.store.host
  bindings : s'.store.bindings = s.store.bindings
  resolutions : s'.registry.resolutions = s.registry.resolutions

theorem quiet_begin (task : Task) (s : Shared H) : Quiet s (begin task s).2 := by
  cases task with
  | request d =>
    simp only [begin, Shared.locate]
    cases hf : s.registry.find? d.className with
    | none => exact ⟨.inl rfl, rfl, rfl⟩
    | some entry =>
      by_cases hd : entry.declaration = d
      · simp only [if_pos hd]
        exact ⟨.inl rfl, rfl, rfl⟩
      · simp only [if_neg hd]
        exact ⟨.inl rfl, rfl, rfl⟩
  | named name =>
    simp only [begin]
    split <;> exact ⟨.inl rfl, rfl, rfl⟩
  -- Of all first steps only this one tells the host something.
  | preload arrangement => exact ⟨.inr ⟨_, rfl⟩, rfl, rfl⟩
  | peek name => exact ⟨.inl rfl, rfl, rfl⟩
  | deferred l => exact ⟨.inl rfl, rfl, rfl⟩

theorem quiet_found (goal : Goal) (s : Shared H) : Quiet s (found goal s) := by
  unfold found
  split
  · exact ⟨.inl rfl, rfl, rfl⟩
  · exact ⟨.inr ⟨_, rfl⟩, rfl, rfl⟩
  · exact ⟨.inr ⟨_, rfl⟩, rfl, rfl⟩

theorem quiet_withdraw (name : String) (c : CellId) (s : Shared H) :
    Quiet s (Shared.withdraw name c s) := by
  unfold Shared.withdraw
  split
  · split
    · exact ⟨.inr ⟨_, rfl⟩, rfl, rfl⟩
    · exact ⟨.inl rfl, rfl, rfl⟩
  · exact ⟨.inl rfl, rfl, rfl⟩

/-- What a step does that is not on the board: to the host, and to the bindings. -/
inductive Effect (s : Shared H) : Stage H → Stage H → Shared H → Prop
  /-- A request to the host. -/
  | request {goal : Goal} {progress : Progress H} (h : ∀ result, progress ≠ .finished result) :
      Effect s (.resolving goal progress)
        (.resolving goal (progress.advance goal.declaration s.store.host).1)
        { s with store :=
          { s.store with host := (progress.advance goal.declaration s.store.host).2 } }
  | adopt {goal : Goal} {binding : Binding H} :
      Effect s (.resolving goal (.finished (.ok binding)))
        (.publishing goal s.store.bindings.length) (adopt goal binding s)
  /-- Anything else. -/
  | other {stage stage' : Stage H} {s' : Shared H}
      (idle : ∀ goal progress, stage = .resolving goal progress →
        ∃ fault, progress = .finished (.error fault))
      (quiet : Quiet s s') : Effect s stage stage' s'

/-- Each step has one of these effects. -/
theorem effect_of_advance {stage stage' : Stage H} {s s' : Shared H}
    (h : stage.advance s = some (stage', s')) : Effect s stage stage' s' := by
  -- Only who resolves asks the host or keeps a binding; all other steps are quiet.
  match stage with
  | start task =>
    have same : s' = (begin task s).2 := by
      rw [advance, Option.some.injEq] at h
      rw [h]
    exact .other (fun _ _ h => nomatch h) (same ▸ quiet_begin task s)
  | look goal =>
    simp only [advance] at h
    split at h
    · cases h
      exact .other (fun _ _ h => nomatch h) (quiet_found goal s)
    · cases h
      exact .other (fun _ _ h => nomatch h) ⟨.inl rfl, rfl, rfl⟩
  | enter goal =>
    simp only [advance] at h
    split at h <;> cases h
    · exact .other (fun _ _ h => nomatch h) ⟨.inl rfl, rfl, rfl⟩
    · exact .other (fun _ _ h => nomatch h) ⟨.inl rfl, rfl, rfl⟩
  | resolving goal (.finished (.ok binding)) =>
    cases h
    exact .adopt
  | resolving goal (.finished (.error fault)) =>
    cases h
    refine .other (fun _ _ h => ?_) ⟨.inl rfl, rfl, rfl⟩
    cases h
    exact ⟨fault, rfl⟩
  | resolving goal .begun | resolving goal (.members _ _ _) | resolving goal (.leaving _ _) =>
    cases h
    exact .request (by simp)
  | publishing goal b =>
    cases h
    exact .other (fun _ _ h => nomatch h) ⟨.inl rfl, rfl, rfl⟩
  | withdrawing goal fault =>
    cases h
    exact .other (fun _ _ h => nomatch h) (quiet_withdraw _ _ s)
  | done outcome => cases h

/-- A thread has nothing to do with its turn exactly if it is done, or has to wait for the one that
resolves its cell. -/
theorem advance_eq_none_iff {stage : Stage H} {s : Shared H} :
    stage.advance s = none ↔
      (∃ outcome, stage = done outcome) ∨
        ∃ goal, stage = enter goal ∧ s.store.cell goal.cell = .busy := by
  match stage with
  | start task => simp [advance]
  | look goal =>
    simp only [advance]
    split <;> simp
  | enter goal =>
    simp only [advance]
    split <;> simp_all
  | resolving goal (.finished (.ok binding)) => simp [advance]
  | resolving goal (.finished (.error fault)) => simp [advance]
  | resolving goal .begun => simp [advance]
  | resolving goal (.members c found rest) => simp [advance]
  | resolving goal (.leaving c result) => simp [advance]
  | publishing goal b => simp [advance]
  | withdrawing goal fault => simp [advance]
  | done outcome => simp [advance]

theorem deed_of_unfinished {goal : Goal} {progress : Progress H} {s : Shared H}
    (h : ∀ result, progress ≠ .finished result) : (resolving goal progress).deed s = .nothing := by
  match progress, h with
  | .begun, _ | .members _ _ _, _ | .leaving _ _, _ => rfl
  | .finished result, h => exact absurd rfl (h result)

/-- A turn that is lost does nothing that others could see. -/
theorem deed_of_advance_eq_none {stage : Stage H} {s : Shared H} (h : stage.advance s = none) :
    stage.deed s = .nothing := by
  rcases advance_eq_none_iff.mp h with ⟨outcome, rfl⟩ | ⟨goal, rfl, hc⟩
  · rfl
  · simp [deed, hc]

end Stage

namespace Team

/-- Each turn is lost or is the step of one thread. -/
theorem turn_cases (team : Team H) (i : Nat) :
    (team.turn i = team ∧ team.deed i = .nothing ∧
      ∀ stage, team.threads[i]? = some stage → stage.advance team.shared = none) ∨
    ∃ stage stage' s', team.threads[i]? = some stage ∧
      stage.advance team.shared = some (stage', s') ∧
      team.turn i = ⟨team.threads.set i stage', s'⟩ ∧ team.deed i = stage.deed team.shared := by
  unfold turn deed
  cases hi : team.threads[i]? with
  -- A turn of a thread that there is not is lost like one of a thread that has to wait.
  | none => exact .inl ⟨rfl, rfl, fun _ h => nomatch h⟩
  | some stage =>
    cases ha : stage.advance team.shared with
    | none =>
      refine .inl ⟨by simp [ha], Stage.deed_of_advance_eq_none ha, fun stage' h => ?_⟩
      cases h
      exact ha
    | some next => exact .inr ⟨stage, next.1, next.2, rfl, ha, by simp [ha], rfl⟩

theorem length_run (team : Team H) (schedule : List Nat) :
    (team.run schedule).threads.length = team.threads.length := by
  induction schedule generalizing team with
  | nil => rfl
  | cons i schedule ih =>
    rw [run_cons, ih]
    rcases team.turn_cases i with ⟨same, _⟩ | ⟨stage, stage', s', _, _, turn, _⟩
    · rw [same]
    · rw [turn, List.length_set]

theorem done_run {team : Team H} {i : Nat} {outcome : TaskOutcome H}
    (h : team.threads[i]? = some (.done outcome)) (schedule : List Nat) :
    (team.run schedule).threads[i]? = some (.done outcome) := by
  induction schedule generalizing team with
  | nil => exact h
  | cons j schedule ih =>
    rw [run_cons]
    refine ih ?_
    rcases team.turn_cases j with ⟨same, _⟩ | ⟨stage, stage', s', hj, ha, turn, _⟩
    · rw [same, h]
    -- Only a step of its own could change the thread, and it has none.
    · by_cases hij : j = i
      · subst hij
        cases h.symm.trans hj
        cases ha
      · rw [turn, List.getElem?_set_ne hij, h]

end Team

end HandleCache

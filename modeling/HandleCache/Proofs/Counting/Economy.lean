import HandleCache.Proofs.Counting.Tally
import HandleCache.Proofs.Threads.Termination
import Mathlib.Algebra.BigOperators.Group.Finset.Piecewise

/-!
# Who pays for what

Threads that all ask for one declaration spend what the machine counts: each step is paid for by
the thread that takes it. What a thread has spent can be told from where it is, so what the machine
has counted in the end can be told from how the threads ended.

## Contents

- `Share`: what a thread has spent where it is
- `Economy`: all threads together have spent what the machine has counted

## Main statements

- `Share.step`: each step is paid for by the thread that takes it
- `Economy.step`: so the account is right after each step
-/

namespace HandleCache.Counting

/-! ## Shares -/

/-- What a thread has spent where it is: how many resolutions it began, and their costs. The whole
resolution answers `r` and costs `full`. -/
def Share (d : Declaration) (w : World) (r : Except (Fault host.Failure) (Binding host))
    (full : Tally) : Stage host → Nat → Tally → Prop
  | .start _, a, t | .look _, a, t | .enter _, a, t => a = 0 ∧ t = 0
  | .resolving _ progress, a, t =>
    a = 1 ∧ ∃ k, Costs w (Progress.steps (H := host) d k .begun) progress t
  | .publishing _ _, a, t => a = 1 ∧ t = full ∧ ∃ binding, r = .ok binding
  | .withdrawing _ fault, a, t => a = 1 ∧ t = full ∧ r = .error fault
  | .done (.ok _), a, t => a ≤ 1 ∧ t = a • full ∧ ∃ binding, r = .ok binding
  | .done (.error fault), a, t => a = 1 ∧ t = full ∧ r = .error fault

section Share

variable {d : Declaration} {w : World} {r : Except (Fault host.Failure) (Binding host)}
  {full t : Tally} {task : Task} {labels : Labelling} {a : Nat} {s s' : Shared host}
  {stage stage' : Stage host}

theorem tally_of_quiet (quiet : Stage.Quiet s s') :
    Machine.world s'.store.host = Machine.world s.store.host ∧
      Machine.tally s'.store.host = Machine.tally s.store.host := by
  rcases quiet.host with h | ⟨e, h⟩
  · rw [h]
    exact ⟨rfl, rfl⟩
  · rw [h]
    exact ⟨rfl, rfl⟩

/-- Each step is paid for by the thread that takes it. -/
theorem Share.step (hr : Costs w (Binding.resolve host d) r full) (wants : task.For d)
    (serves : stage.Serves labels s.board task)
    (declared : ∀ name entry, (name, entry) ∈ s.board.entries → entry.declaration = d)
    (filled : ∀ c b, s.board.cell c = .filled b → ∃ binding, r = .ok binding)
    (world : Machine.world s.store.host = w) (ha : stage.advance s = some (stage', s'))
    (share : Share d w r full stage a t) :
    ∃ u, Machine.world s'.store.host = w ∧
      Machine.tally s'.store.host = Machine.tally s.store.host + u ∧
      Share d w r full stage' (a + if (stage.deed s).isAttempt then 1 else 0) (t + u) := by
  have move := (Stage.move_of_advance ha).1
  have effect := Stage.effect_of_advance ha
  cases effect with
  -- The step of a resolution is added to the steps that were paid for before.
  | @request goal progress unfinished =>
    obtain ⟨p', u, cost⟩ := costs_advance w d progress
    obtain ⟨m', answer, world', tally⟩ := cost _ world
    have declaration : goal.declaration = d := wants.declaration serves
    obtain ⟨rfl, k, spent⟩ := share
    refine ⟨u, ?_, ?_, ?_⟩
    · rw [declaration, answer]
      exact world'
    · rw [declaration, answer]
      exact tally
    · rw [declaration, answer, Stage.deed_of_unfinished unfinished]
      exact ⟨rfl, k + 1, spent.steps_succ cost⟩
  -- The resolution is at its end, so its steps cost what it costs as a whole.
  | @adopt goal binding =>
    obtain ⟨rfl, k, spent⟩ := share
    obtain ⟨rfl, rfl⟩ := hr.unique spent.resolve_of_steps
    have host : (Stage.adopt goal binding s).store.host = s.store.host := by
      unfold Stage.adopt
      split <;> rfl
    refine ⟨0, ?_, ?_, ?_⟩
    · rw [host, world]
    · rw [host, add_zero]
    · exact ⟨rfl, add_zero _, binding, rfl⟩
  -- All other steps cost nothing, and leave the share as it is where they change the stage.
  | other idle quiet =>
    generalize stage.deed s = deed at move ⊢
    obtain ⟨world', tally'⟩ := tally_of_quiet quiet
    refine ⟨0, world'.trans world, by rw [tally', add_zero], ?_⟩
    rw [add_zero]
    cases move with
    | located | inserted | deferred | unfilled => exact share
    -- There is no other declaration to be in conflict with.
    | @conflict d' entry hf hd =>
      rcases wants with rfl | ⟨c, rfl⟩
      · cases serves
        exact absurd (declared _ _ (Board.mem_of_find? hf)) hd
      · cases serves
    | named | unknown | preload | peek =>
      rcases wants with rfl | ⟨c, rfl⟩ <;> cases serves
    | found hf =>
      obtain ⟨rfl, rfl⟩ := share
      rw [wants.reached serves]
      exact ⟨Nat.zero_le _, (zero_nsmul _).symm, filled _ _ hf⟩
    | awaited hf =>
      obtain ⟨rfl, rfl⟩ := share
      rw [wants.reached serves]
      exact ⟨Nat.zero_le _, (zero_nsmul _).symm, filled _ _ hf⟩
    -- This is where an attempt is counted.
    | claim =>
      obtain ⟨rfl, rfl⟩ := share
      exact ⟨rfl, 0, .steps_zero w d .begun⟩
    | @advance goal progress unfinished state =>
      obtain ⟨fault, h⟩ := idle goal progress rfl
      exact absurd h (unfinished _)
    | @made goal binding =>
      obtain ⟨fault, h⟩ := idle goal _ rfl
      cases h
    -- The resolution has failed at its full cost.
    | @failed goal fault =>
      obtain ⟨rfl, k, spent⟩ := share
      obtain ⟨rfl, rfl⟩ := hr.unique spent.resolve_of_steps
      rcases Stage.missed_cases goal fault with h | h <;> rw [h] <;> exact ⟨rfl, rfl, rfl⟩
    | published =>
      obtain ⟨rfl, rfl, ok⟩ := share
      rw [wants.reached serves]
      exact ⟨Nat.le_refl _, (one_nsmul _).symm, ok⟩
    | withdrawn | spared => exact share

end Share

/-! ## All threads together -/

/-- What is true at all times of threads that ask for one declaration. The whole resolution
answers `r` and costs `full` on the machine that they began with. -/
structure Economy (d : Declaration) (n : Nat) (m : Machine) (task : Task)
    (r : Except (Fault host.Failure) (Binding host)) (full : Tally) (team : Team host)
    (past : List (Nat × Deed)) : Prop where
  length : team.threads.length = n
  world : Machine.world team.shared.store.host = m.world
  /-- What the machine has counted is what the threads have spent. -/
  spent : ∃ cost : Nat → Tally,
    (∀ (i : Nat) stage, team.threads[i]? = some stage →
      Share d m.world r full stage (Deed.attemptsBy i past) (cost i)) ∧
    Machine.tally team.shared.store.host = m.tally + ∑ i ∈ Finset.range n, cost i
  declared : ∀ name entry, (name, entry) ∈ team.shared.board.entries → entry.declaration = d
  /-- Cells are filled only if the declaration resolves. -/
  filled : ∀ c b, team.shared.board.cell c = .filled b → ∃ binding, r = .ok binding
  /-- All bindings are what the resolution answers. -/
  bindings : ∀ binding ∈ team.shared.store.bindings, r = .ok binding
  made : team.shared.board.made = past.countP fun done => done.2.isMake
  attempters : ∀ done ∈ past, done.2.isAttempt = true → done.1 < n
  /-- A registry counts the bindings, and is not concerned with deferred ones. -/
  counted : task = .request d →
    team.shared.registry.resolutions = team.shared.board.made
  uncounted : ∀ c, task = .deferred ⟨d, c⟩ → team.shared.registry.resolutions = 0

section Economy

variable {d : Declaration} {n : Nat} {m : Machine} {task : Task}
  {r : Except (Fault host.Failure) (Binding host)} {full : Tally} {team : Team host}
  {past : List (Nat × Deed)} {labels : Labelling} {i : Nat} {stage stage' : Stage host}
  {s' : Shared host}

/-- What one thread spends is added to what all have spent. -/
theorem sum_add_of_lt {cost : Nat → Tally} (u : Tally) (h : i < n) :
    ∑ j ∈ Finset.range n, (cost j + if j = i then u else 0) =
      ∑ j ∈ Finset.range n, cost j + u := by
  simp [Finset.sum_add_distrib, h]

theorem Economy.spent_step (hr : Costs m.world (Binding.resolve host d) r full)
    (wants : task.For d) (economy : Economy d n m task r full team past)
    (serves : stage.Serves labels team.shared.board task) (hi : team.threads[i]? = some stage)
    (ha : stage.advance team.shared = some (stage', s')) :
    Machine.world s'.store.host = m.world ∧ ∃ cost : Nat → Tally,
      (∀ (j : Nat) other, (team.threads.set i stage')[j]? = some other →
        Share d m.world r full other
          (Deed.attemptsBy j (past ++ [(i, stage.deed team.shared)])) (cost j)) ∧
      Machine.tally s'.store.host = m.tally + ∑ j ∈ Finset.range n, cost j := by
  obtain ⟨cost, shares, total⟩ := economy.spent
  obtain ⟨u, world, tally, share⟩ := (shares i stage hi).step hr wants serves economy.declared
    economy.filled economy.world ha
  have bound : i < team.threads.length := (List.getElem?_eq_some_iff.mp hi).1
  refine ⟨world, fun j => cost j + if j = i then u else 0, fun j other hj => ?_, ?_⟩
  -- The thread that moves has its new share; the others keep theirs.
  · by_cases hij : i = j
    · subst hij
      rw [List.getElem?_set_self bound] at hj
      cases hj
      simpa [Deed.attemptsBy_append_self] using share
    · rw [List.getElem?_set_ne hij] at hj
      simpa [Deed.attemptsBy_append_of_ne hij, Ne.symm hij] using shares j other hj
  · rw [tally, total, sum_add_of_lt u (economy.length ▸ bound), add_assoc]

theorem Economy.filled_step (economy : Economy d n m task r full team past)
    (sound : Sound labels team.threads team.shared.board) (hi : team.threads[i]? = some stage)
    (ha : stage.advance team.shared = some (stage', s')) (c : CellId) (b : BindingId)
    (h : s'.board.cell c = .filled b) : ∃ binding, r = .ok binding := by
  obtain ⟨cost, shares, _⟩ := economy.spent
  have share := shares i stage hi
  obtain ⟨move, board⟩ := Stage.move_of_advance ha
  rw [board] at h
  generalize stage.deed team.shared = deed at move h
  -- A cell is filled by who has a binding to publish, and by nobody else.
  by_cases hd : deed.cell? = some c
  · cases move with
    | claim hc =>
      cases hd
      rw [Deed.on, Board.cell_set_self (sound.goal_lt hi rfl)] at h
      cases h
    | made => exact economy.filled c b h
    | failed =>
      cases hd
      rw [Deed.on, Board.cell_set_self (sound.goal_lt hi rfl)] at h
      cases h
    | published => exact share.2.2
    | _ => cases hd
  · rw [Deed.cell_on_of_ne hd] at h
    exact economy.filled c b h

theorem Economy.declared_step (wants : task.For d)
    (economy : Economy d n m task r full team past)
    (serves : stage.Serves labels team.shared.board task)
    (ha : stage.advance team.shared = some (stage', s')) (name : String) (entry : Registration)
    (h : (name, entry) ∈ s'.board.entries) : entry.declaration = d := by
  obtain ⟨move, board⟩ := Stage.move_of_advance ha
  rw [board] at h
  generalize stage.deed team.shared = deed at move h
  cases move with
  | inserted =>
    rcases List.mem_append.mp h with h | h
    · exact economy.declared name entry h
    · rcases wants with rfl | ⟨c, rfl⟩
      · cases serves
        cases List.mem_singleton.mp h
        rfl
      · cases serves
  | withdrawn => exact economy.declared name entry (List.mem_filter.mp h).1
  | _ => exact economy.declared name entry h

theorem Economy.bindings_step (hr : Costs m.world (Binding.resolve host d) r full)
    (economy : Economy d n m task r full team past) (hi : team.threads[i]? = some stage)
    (ha : stage.advance team.shared = some (stage', s')) (binding : Binding host)
    (h : binding ∈ s'.store.bindings) : r = .ok binding := by
  obtain ⟨cost, shares, _⟩ := economy.spent
  have share := shares i stage hi
  cases Stage.effect_of_advance ha with
  | request => exact economy.bindings binding h
  | @adopt goal made =>
    have grown : (Stage.adopt goal made team.shared).store.bindings =
        team.shared.store.bindings ++ [made] := by
      unfold Stage.adopt
      split <;> rfl
    rw [grown] at h
    rcases List.mem_append.mp h with h | h
    · exact economy.bindings binding h
    · cases List.mem_singleton.mp h
      obtain ⟨_, k, spent⟩ := share
      exact (hr.unique spent.resolve_of_steps).1
  | other idle quiet =>
    rw [quiet.bindings] at h
    exact economy.bindings binding h

theorem Economy.counted_step (economy : Economy d n m task r full team past)
    (serves : stage.Serves labels team.shared.board task)
    (ha : stage.advance team.shared = some (stage', s')) (ht : task = .request d) :
    s'.registry.resolutions = s'.board.made := by
  subst ht
  have before := economy.counted rfl
  cases Stage.effect_of_advance ha with
  | request => exact before
  | adopt =>
    obtain ⟨_, withdraws, hp⟩ := serves
    rw [Stage.board_adopt]
    simp [Stage.adopt, hp, before]
  | other idle quiet =>
    rw [quiet.resolutions, before]
    simp [Shared.board, quiet.bindings]

theorem Economy.uncounted_step (economy : Economy d n m task r full team past)
    (serves : stage.Serves labels team.shared.board task)
    (ha : stage.advance team.shared = some (stage', s')) (c : CellId)
    (ht : task = .deferred ⟨d, c⟩) : s'.registry.resolutions = 0 := by
  subst ht
  have before := economy.uncounted c rfl
  cases Stage.effect_of_advance ha with
  | request => exact before
  | adopt =>
    cases serves
    exact before
  | other idle quiet => rw [quiet.resolutions, before]

/-- Each step keeps the account. -/
theorem Economy.step (hr : Costs m.world (Binding.resolve host d) r full) (wants : task.For d)
    (economy : Economy d n m task r full team past)
    (sound : Sound labels team.threads team.shared.board)
    (served : Served (List.replicate n task) labels team.threads team.shared.board)
    (hi : team.threads[i]? = some stage) (ha : stage.advance team.shared = some (stage', s')) :
    Economy d n m task r full ⟨team.threads.set i stage', s'⟩
      (past ++ [(i, stage.deed team.shared)]) := by
  have bound : i < n := by
    rw [← economy.length]
    exact (List.getElem?_eq_some_iff.mp hi).1
  have serves := served.of_replicate hi bound
  obtain ⟨world, spent⟩ := economy.spent_step hr wants serves hi ha
  refine ⟨?_, world, spent, economy.declared_step wants serves ha,
    economy.filled_step sound hi ha, economy.bindings_step hr hi ha, ?_, ?_,
    economy.counted_step serves ha, economy.uncounted_step serves ha⟩
  · rw [List.length_set, economy.length]
  · rw [(Stage.move_of_advance ha).2, Deed.made_on, economy.made]
    simp [List.countP_append, List.countP_cons]
  · refine List.forall_mem_append.mpr ⟨economy.attempters, ?_⟩
    exact List.forall_mem_singleton.mpr fun _ => bound

end Economy

/-! ## Where the account begins -/

section Start

variable {d : Declaration} {n : Nat} {m : Machine} {task : Task}
  {r : Except (Fault host.Failure) (Binding host)} {full : Tally} {s : Shared host}
  {past : List (Nat × Deed)} {team : Team host}

/-- Before they begin, the threads have spent nothing. -/
theorem Economy.start (host : s.store.host = m) (bindings : s.store.bindings = [])
    (resolutions : s.registry.resolutions = 0) (cells : ∀ c, s.store.cell c = .empty)
    (declared : ∀ name entry, (name, entry) ∈ s.registry.entries → entry.declaration = d) :
    Economy d n m task r full (Team.start (List.replicate n task) s) [] where
  length := by simp [Team.start]
  world := congrArg Machine.world host
  spent := by
    refine ⟨fun _ => 0, fun i stage hi => ?_, ?_⟩
    · obtain ⟨task', _, rfl⟩ := List.mem_map.mp (List.mem_of_getElem? hi)
      exact ⟨rfl, rfl⟩
    · rw [Finset.sum_const_zero, add_zero]
      exact congrArg Machine.tally host
  declared := declared
  filled c b h := nomatch (cells c).symm.trans h
  bindings _ h := nomatch bindings ▸ h
  made := congrArg List.length bindings
  attempters _ h := nomatch h
  counted _ := resolutions.trans (congrArg List.length bindings).symm
  uncounted _ _ := resolutions

theorem Economy.lost (economy : Economy d n m task r full team past) (i : Nat) :
    Economy d n m task r full team (past ++ [(i, .nothing)]) where
  length := economy.length
  world := economy.world
  spent := by
    obtain ⟨cost, shares, total⟩ := economy.spent
    refine ⟨cost, fun j stage hj => ?_, total⟩
    have same : Deed.attemptsBy j (past ++ [(i, .nothing)]) = Deed.attemptsBy j past := by
      simp [Deed.attemptsBy, List.countP_append, Deed.isAttempt]
    rw [same]
    exact shares j stage hj
  declared := economy.declared
  filled := economy.filled
  bindings := economy.bindings
  made := by simpa [List.countP_append, Deed.isMake] using economy.made
  attempters := by
    refine List.forall_mem_append.mpr ⟨economy.attempters, ?_⟩
    exact List.forall_mem_singleton.mpr fun h => absurd h Bool.false_ne_true
  counted := economy.counted
  uncounted := economy.uncounted

end Start

end HandleCache.Counting

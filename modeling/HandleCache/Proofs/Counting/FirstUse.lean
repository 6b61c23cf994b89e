import HandleCache.Proofs.Counting.Economy
import HandleCache.Proofs.Threads.History
import HandleCache.Proofs.Threads.Lifecycle

/-!
# What the first use costs

Many threads ask for the same declaration at the same moment. What they cost together can be told
without knowing in which order they went: if the declaration resolves, it is resolved once for all
of them; if it does not, each of them has tried for itself.

## Contents

- `Sole`: threads that ask for a declaration that resolves all want the same cell

## Main statements

- `Economy.run`: the account is right after each run
- `Economy.of_error`, `Economy.of_ok`: what failure and success come to
- `Route.firstUse_accounting`: what the first use comes to on each route
-/

namespace HandleCache.Counting

section Run

variable {d : Declaration} {n : Nat} {m : Machine} {task : Task}
  {r : Except (Fault host.Failure) (Binding host)} {full : Tally} {s : Shared host}
  {ls : List Deferred} {labels : Labelling} {past : List (Nat × Deed)} {team : Team host}

/-! ## Failure -/

theorem Economy.outcome (economy : Economy d n m task r full team past)
    (finished : team.Finished) {i : Nat} (hi : i < n) :
    ∃ outcome, team.threads[i]? = some (.done outcome) := by
  have bound : i < team.threads.length := by rwa [economy.length]
  obtain ⟨outcome, done⟩ := finished _ (List.getElem_mem bound)
  exact ⟨outcome, by rw [List.getElem?_eq_getElem bound, done]⟩

/-- If the declaration does not resolve, each thread that is done has failed with the fault of the
resolution, and has attempted it once. -/
theorem Economy.of_error {fault : Fault host.Failure}
    (economy : Economy d n m task (.error fault) full team past) (finished : team.Finished) :
    (∀ i < n, team.threads[i]? = some (.done (.error fault)) ∧ Deed.attemptsBy i past = 1) ∧
      Machine.tally team.shared.store.host = m.tally + n • full ∧ team.shared.board.made = 0 := by
  obtain ⟨cost, shares, total⟩ := economy.spent
  -- No thread can have been answered, so each has failed, with a whole resolution as its share.
  have each : ∀ i < n, team.threads[i]? = some (.done (.error fault)) ∧
      Deed.attemptsBy i past = 1 ∧ cost i = full := by
    intro i hi
    obtain ⟨outcome, there⟩ := economy.outcome finished hi
    have share := shares i _ there
    match outcome, there, share with
    | .ok _, _, share =>
      obtain ⟨_, _, binding, h⟩ := share
      cases h
    | .error fault', there, share =>
      obtain ⟨once, spent, same⟩ := share
      cases same
      exact ⟨there, once, spent⟩
  refine ⟨fun i hi => ⟨(each i hi).1, (each i hi).2.1⟩, ?_, ?_⟩
  · rw [total, Finset.sum_congr rfl fun i hi => (each i (Finset.mem_range.mp hi)).2.2,
      Finset.sum_const, Finset.card_range]
  · refine List.length_eq_zero_iff.mpr (List.eq_nil_iff_forall_not_mem.mpr fun binding mem => ?_)
    cases economy.bindings binding mem

/-! ## Success -/

/-- All attempts are somebody's. -/
theorem sum_attemptsBy {past : List (Nat × Deed)}
    (h : ∀ done ∈ past, done.2.isAttempt = true → done.1 < n) :
    ∑ i ∈ Finset.range n, Deed.attemptsBy i past = past.countP fun done => done.2.isAttempt := by
  induction past with
  | nil => simp [Deed.attemptsBy]
  | cons first past ih =>
    have later := ih fun done mem => h done (List.mem_cons_of_mem _ mem)
    -- The first deed is an attempt of one thread, or of none.
    have split : ∀ i, Deed.attemptsBy i (first :: past) = Deed.attemptsBy i past +
        if i = first.1 then (if first.2.isAttempt then 1 else 0) else 0 := by
      intro i
      by_cases hi : i = first.1
      · simp [Deed.attemptsBy, List.countP_cons, hi]
      · simp [Deed.attemptsBy, hi, Ne.symm hi]
    rw [Finset.sum_congr rfl fun i _ => split i, Finset.sum_add_distrib, later, List.countP_cons]
    congr 1
    by_cases ha : first.2.isAttempt = true
    · have bound := h first (by simp) ha
      simp [ha, bound]
    · simp [ha]

/-- What else is true of threads that ask for a declaration that resolves: they all want the same
cell, and nobody gives it up. -/
structure Sole (d : Declaration) (task : Task) (team : Team host) (past : List (Nat × Deed)) :
    Prop where
  cells : team.shared.board.cells.length ≤ 1
  unknown : task = .request d → team.shared.board.find? d.className = none →
    team.shared.board.cells = []
  deeds : ∀ done ∈ past, ∀ c, done.2.cell? = some c → c = 0 ∧ done.2 ≠ .fail c

theorem Sole.lost (sole : Sole d task team past) (i : Nat) :
    Sole d task team (past ++ [(i, .nothing)]) where
  cells := sole.cells
  unknown := sole.unknown
  deeds := by
    refine List.forall_mem_append.mpr ⟨sole.deeds, ?_⟩
    exact List.forall_mem_singleton.mpr fun _ => nofun

section Step

variable {binding : Binding host} {i : Nat} {stage stage' : Stage host} {s' : Shared host}

/-- What a step does to a cell it does to the one cell, and does not give it up. -/
theorem Sole.deed_step (hr : Costs m.world (Binding.resolve host d) (.ok binding) full)
    (economy : Economy d n m task (.ok binding) full team past) (sole : Sole d task team past)
    (sound : Sound labels team.threads team.shared.board) (hi : team.threads[i]? = some stage)
    (ha : stage.advance team.shared = some (stage', s')) (c : CellId)
    (hc : (stage.deed team.shared).cell? = some c) :
    c = 0 ∧ stage.deed team.shared ≠ .fail c := by
  obtain ⟨cost, shares, _⟩ := economy.spent
  have share := shares i stage hi
  -- There is one cell, so the goal has it.
  have only {goal : Goal} (hg : stage.goal? = some goal) : goal.cell = 0 := by
    have there := Nat.lt_of_lt_of_le (sound.goal_lt hi hg) sole.cells
    exact Nat.lt_one_iff.mp there
  have move := (Stage.move_of_advance ha).1
  generalize stage.deed team.shared = deed at move hc ⊢
  cases move with
  | claim | made | published =>
    cases hc
    exact ⟨only rfl, nofun⟩
  -- The resolution does not fail, since it answers a binding.
  | failed =>
    obtain ⟨_, k, spent⟩ := share
    cases (hr.unique spent.resolve_of_steps).1
  | _ => cases hc

/-- A cell comes in with the entry of the class only, which is not there yet. -/
theorem Sole.cells_step (wants : task.For d) (sole : Sole d task team past)
    (serves : stage.Serves labels team.shared.board task)
    (ha : stage.advance team.shared = some (stage', s')) : s'.board.cells.length ≤ 1 := by
  obtain ⟨move, board⟩ := Stage.move_of_advance ha
  rw [board]
  generalize stage.deed team.shared = deed at move
  cases move with
  | inserted hf =>
    rcases wants with rfl | ⟨c, rfl⟩
    · cases serves
      simp [Deed.on, sole.unknown rfl hf]
    · cases serves
  | claim | failed | published => simpa [Deed.on] using sole.cells
  | _ => exact sole.cells

/-- The entry stays, since nobody fails. -/
theorem Sole.unknown_step (economy : Economy d n m task (.ok binding) full team past)
    (sole : Sole d task team past) (serves : stage.Serves labels team.shared.board task)
    (hi : team.threads[i]? = some stage) (ha : stage.advance team.shared = some (stage', s'))
    (ht : task = .request d) (unknown : s'.board.find? d.className = none) :
    s'.board.cells = [] := by
  obtain ⟨cost, shares, _⟩ := economy.spent
  have share := shares i stage hi
  obtain ⟨move, board⟩ := Stage.move_of_advance ha
  rw [board] at unknown ⊢
  generalize stage.deed team.shared = deed at move unknown
  cases move with
  -- The class is known after it was inserted.
  | inserted =>
    subst ht
    cases serves
    have absent := Board.find?_eq_none_iff.mp unknown ⟨d, false, team.shared.board.cells.length⟩
    exact absurd (List.mem_append.mpr (.inr (List.mem_singleton.mpr rfl))) absent
  | claim | failed | published =>
    have none := sole.unknown ht unknown
    simp [Deed.on, none]
  -- Who withdraws has failed.
  | withdrawn => cases share.2.2
  | _ => exact sole.unknown ht unknown

theorem Sole.step (hr : Costs m.world (Binding.resolve host d) (.ok binding) full)
    (wants : task.For d) (economy : Economy d n m task (.ok binding) full team past)
    (sole : Sole d task team past) (sound : Sound labels team.threads team.shared.board)
    (serves : stage.Serves labels team.shared.board task) (hi : team.threads[i]? = some stage)
    (ha : stage.advance team.shared = some (stage', s')) :
    Sole d task ⟨team.threads.set i stage', s'⟩ (past ++ [(i, stage.deed team.shared)]) where
  cells := sole.cells_step wants serves ha
  unknown := sole.unknown_step economy serves hi ha
  deeds := by
    refine List.forall_mem_append.mpr ⟨sole.deeds, ?_⟩
    exact List.forall_mem_singleton.mpr (sole.deed_step hr economy sound hi ha)

end Step

/-- Who is answered is answered from the one cell. -/
theorem Sole.answered (sole : Sole d task team past) (wants : task.For d)
    (among : ∀ l, task = .deferred l → ∃ label, labels l.cell = some label)
    {answer : Option BindingId} (h : task.Answered labels team.shared.board answer) :
    ∃ b, answer = some b ∧ team.shared.board.cell 0 = .filled b ∧ ∃ label, labels 0 = some label := by
  have only {c : CellId} {b : BindingId} (hb : team.shared.board.cell c = .filled b) : c = 0 := by
    have there := Nat.lt_of_lt_of_le (Board.lt_of_filled hb) sole.cells
    exact Nat.lt_one_iff.mp there
  rcases wants with rfl | ⟨c, rfl⟩
  · obtain ⟨b, hb, c, label, hl, _, _, filled⟩ := h
    cases only filled
    exact ⟨b, hb, filled, label, hl⟩
  · obtain ⟨b, hb, filled⟩ := h
    cases only filled
    exact ⟨b, hb, filled, among _ rfl⟩

/-- If nobody gave the cell up before it was filled, there was one attempt and one success. -/
theorem Sole.once (sole : Sole d task team past) {b : BindingId}
    (history : Past 0 (Deed.doneTo 0 past) (.kept b)) :
    (past.countP fun done => done.2.isAttempt) = 1 ∧
      (past.countP fun done => done.2.isMake) = 1 := by
  obtain ⟨k, shape⟩ := history.shape
  -- An attempt that failed would have given the cell up.
  have first : k = 0 := by
    cases k with
    | zero => rfl
    | succ k =>
      have given : .fail 0 ∈ Deed.doneTo 0 past := by
        rw [shape, Deed.failures_succ]
        simp
      obtain ⟨done, mem, same⟩ := List.mem_map.mp (List.mem_filter.mp given).1
      exact absurd same (sole.deeds done mem 0 (by rw [same]; rfl)).2
  subst first
  -- All such deeds are done to the one cell.
  have all {p : Deed → Bool} (hp : ∀ deed, p deed = true → ∃ c, deed.cell? = some c) :
      (past.countP fun done => p done.2) = (Deed.doneTo 0 past).countP p := by
    refine (Deed.countP_doneTo fun done mem h => ?_).symm
    obtain ⟨c, hc⟩ := hp done.2 h
    rw [hc, (sole.deeds done mem c hc).1]
  constructor
  · rw [all (p := Deed.isAttempt) fun deed h => ?_, shape]
    · rfl
    · cases deed with
      | attempt c => exact ⟨c, rfl⟩
      | _ => cases h
  · rw [all (p := Deed.isMake) fun deed h => ?_, shape]
    · rfl
    · cases deed with
      | make c b => exact ⟨c, rfl⟩
      | _ => cases h

/-- If the declaration resolves, all threads that are done have the binding that the one cell keeps,
which is what the resolution answers, and together they have paid for one resolution. -/
theorem Economy.of_ok {binding : Binding host} (hn : 1 ≤ n)
    (economy : Economy d n m task (.ok binding) full team past) (sole : Sole d task team past)
    (wants : task.For d) (among : ∀ l, task = .deferred l → ∃ label, labels l.cell = some label)
    (sound : Sound labels team.threads team.shared.board)
    (served : Served (List.replicate n task) labels team.threads team.shared.board)
    {condition : Condition} (history : Past 0 (Deed.doneTo 0 past) condition)
    (shown : condition.Shown team.threads team.shared.board 0) (finished : team.Finished) :
    (∃ b, team.shared.store.binding? b = some binding ∧
      ∀ i < n, team.threads[i]? = some (.done (.ok (some b)))) ∧
      team.shared.board.made = 1 ∧
      Machine.tally team.shared.store.host = m.tally + full := by
  obtain ⟨cost, shares, total⟩ := economy.spent
  -- No thread can have failed, so each was answered, from the one cell.
  have each : ∀ i < n, (∃ b, team.threads[i]? = some (.done (.ok (some b))) ∧
      team.shared.board.cell 0 = .filled b ∧ ∃ label, labels 0 = some label) ∧
      cost i = Deed.attemptsBy i past • full := by
    intro i hi
    obtain ⟨outcome, there⟩ := economy.outcome finished hi
    have share := shares i _ there
    have serves := served.of_replicate there hi
    match outcome, there, share, serves with
    | .ok answer, there, share, serves =>
      obtain ⟨b, rfl, filled⟩ := sole.answered wants among serves
      exact ⟨⟨b, there, filled⟩, share.2.1⟩
    | .error fault, _, share, _ => cases share.2.2
  obtain ⟨⟨b, _, filled, label, hl⟩, _⟩ := each 0 hn
  cases shown.kept_of_filled filled
  obtain ⟨attempts, makes⟩ := sole.once history
  have one : team.shared.board.made = 1 := economy.made.trans makes
  refine ⟨⟨b, ?_, fun i hi => ?_⟩, one, ?_⟩
  · -- There is one binding only, so the one in the cell is that one.
    have there : b < team.shared.store.bindings.length := sound.known 0 label b hl (.inl filled)
    have binding : team.shared.store.binding? b = some team.shared.store.bindings[b] :=
      List.getElem?_eq_getElem there
    cases economy.bindings _ (List.getElem_mem there)
    exact binding
  · obtain ⟨⟨b', there, filled', _⟩, _⟩ := each i hi
    cases filled.symm.trans filled'
    exact there
  -- The attempts of all threads are one attempt, and so are their costs.
  · rw [total, Finset.sum_congr rfl fun i hi => (each i (Finset.mem_range.mp hi)).2,
      Finset.sum_nsmul_assoc, sum_attemptsBy economy.attempters, attempts, one_nsmul]

/-! ## Runs -/

/-- Each run keeps the account. -/
theorem Economy.run (hr : Costs m.world (Binding.resolve host d) r full) (wants : task.For d)
    (sound : Sound labels team.threads team.shared.board)
    (served : Served (List.replicate n task) labels team.threads team.shared.board)
    (economy : Economy d n m task r full team []) (sole : Sole d task team [])
    (schedule : List Nat) :
    ∃ labels', (∀ c label, labels c = some label → labels' c = some label) ∧
      Sound labels' (team.run schedule).threads (team.run schedule).shared.board ∧
      Served (List.replicate n task) labels' (team.run schedule).threads
        (team.run schedule).shared.board ∧
      Economy d n m task r full (team.run schedule) (team.chronicle schedule) ∧
      ∀ binding, r = .ok binding → Sole d task (team.run schedule) (team.chronicle schedule) := by
  refine Sound.run_steps
    (P := fun labels team past =>
      Served (List.replicate n task) labels team.threads team.shared.board ∧
        Economy d n m task r full team past ∧ ∀ binding, r = .ok binding → Sole d task team past)
    ?_ ?_ [] schedule sound ⟨served, economy, fun _ _ => sole⟩
  · intro labels team past i h
    obtain ⟨served, economy, sole⟩ := h
    exact ⟨served, economy.lost i, fun binding hb => (sole binding hb).lost i⟩
  -- What a step keeps of the account needs the tasks that the threads serve.
  · intro labels team past i stage stage' s' sound hi ha h
    obtain ⟨served, economy, sole⟩ := h
    obtain ⟨move, board⟩ := Stage.move_of_advance ha
    have bound : i < n := by
      rw [← economy.length]
      exact (List.getElem?_eq_some_iff.mp hi).1
    have serves := served.of_replicate hi bound
    refine ⟨?_, economy.step hr wants sound served hi ha, fun binding hb => ?_⟩
    · rw [board]
      exact sound.served_move hi move served
    · subst hb
      exact (sole binding rfl).step hr wants economy sound serves hi ha

end Run

end HandleCache.Counting

namespace HandleCache

open Counting

/-! ## Routes -/

/-- The machine that threads share. -/
def Team.machine (team : Team host) : Machine := team.shared.store.host

namespace Route

variable {d : Declaration} {n : Nat} {m : Machine}
  {r : Except (Fault host.Failure) (Binding host)} {full : Tally}

/-- Threads that are about to go one route to the same declaration, on a counting machine. -/
def begun (route : Route) (n : Nat) (d : Declaration) (m : Machine) : Team host :=
  Team.start (List.replicate n (route.setOut (H := host) d { host := m }).1)
    (route.setOut (H := host) d { host := m }).2

theorem setOut_for (route : Route) (d : Declaration) (m : Machine) :
    (route.setOut (H := host) d { host := m }).1.For d := by
  cases route with
  | registry predeclared => cases predeclared <;> exact .inl rfl
  | deferred => exact .inr ⟨_, rfl⟩

/-- On each route threads set out with a registry just made, and ask for what there is. -/
theorem setOut_ready (route : Route) (d : Declaration) (m : Machine) :
    ∃ labels ls, Shared.Ready labels (route.setOut (H := host) d { host := m }).2 ls ∧
      (route.setOut (H := host) d { host := m }).1.Among ls := by
  let store : Store host := { host := m }
  have none : Registry.ofDeclarations [] store = (.ok {}, store) := rfl
  cases route with
  | registry predeclared =>
    cases predeclared with
    | true =>
      have made : Registry.ofDeclarations [d] store =
          (.ok (Registry.predeclare [d] { store }).registry,
            (Registry.predeclare [d] { store }).store) := rfl
      obtain ⟨labels, ready⟩ := (Shared.Prepared.made made).ready
      exact ⟨labels, [], ready, trivial⟩
    | false =>
      obtain ⟨labels, ready⟩ := (Shared.Prepared.made none).ready
      exact ⟨labels, [], ready, trivial⟩
  | deferred =>
    obtain ⟨labels, ready⟩ := ((Shared.Prepared.made none).defer d).ready
    exact ⟨labels, _, ready, List.mem_singleton.mpr rfl⟩

theorem cell_setOut (route : Route) (d : Declaration) (m : Machine) (c : CellId) :
    (route.setOut (H := host) d { host := m }).2.store.cell c = .empty := by
  have bare : ({ host := m } : Store host).cell c = .empty := rfl
  cases route with
  | registry predeclared =>
    cases predeclared with
    | true => exact (Store.cell_newCell _ c).trans bare
    | false => exact bare
  | deferred => exact (Store.cell_newCell _ c).trans bare

theorem economy_begun (route : Route) :
    Economy d n m (route.setOut (H := host) d { host := m }).1 r full (route.begun n d m) [] := by
  refine Economy.start ?_ ?_ ?_ (route.cell_setOut d m) ?_
  · rcases route with ⟨_ | _⟩ | _ <;> rfl
  · rcases route with ⟨_ | _⟩ | _ <;> rfl
  · rcases route with ⟨_ | _⟩ | _ <;> rfl
  · intro name entry mem
    cases route with
    | registry predeclared =>
      cases predeclared with
      | true =>
        cases List.mem_singleton.mp mem
        rfl
      | false => cases mem
    | deferred => cases mem

/-- Threads that are about to begin want one cell at most. -/
theorem sole_begun (route : Route) :
    Sole d (route.setOut (H := host) d { host := m }).1 (route.begun n d m) [] where
  cells := by rcases route with ⟨_ | _⟩ | _ <;> simp [begun, setOut, Team.start, Shared.board,
    Registry.predeclare, Store.newCell, Deferred.ofDeclaration]
  unknown asks unknown := by
    cases route with
    | registry predeclared =>
      cases predeclared with
      | true => exact absurd (List.mem_singleton.mpr rfl) (Board.find?_eq_none_iff.mp unknown _)
      | false => rfl
    | deferred => cases asks
  deeds _ mem := nomatch mem

/-- What the first use comes to if the declaration resolves: it is resolved once for all threads. -/
structure Resolved (route : Route) (n : Nat) (d : Declaration) (m : Machine)
    (binding : Binding host) (team : Team host) : Prop where
  /-- All threads have one binding, which is what a resolution answers. -/
  answers : ∃ b, team.shared.store.binding? b = some binding ∧
    ∀ i < n, team.threads[i]? = some (.done (.ok (some b)))
  made : team.shared.store.bindings.length = 1
  resolutions : team.shared.registry.resolutions = if route = .deferred then 0 else 1
  classLookups : team.machine.classLookups = m.classLookups + 1
  memberLookups : team.machine.memberLookups = m.memberLookups + d.operations.length
  liveClasses : team.machine.liveClasses = m.liveClasses
  livePins : team.machine.livePins = m.livePins + if d.retention = .global then 1 else 0

/-- What the first use comes to if the declaration does not resolve, and a resolution leaves the
machine as `after`: each thread has tried for itself. -/
structure Failed (route : Route) (n : Nat) (d : Declaration) (m : Machine)
    (fault : Fault host.Failure) (after : Machine) (team : Team host)
    (chronicle : List (Nat × Deed)) : Prop where
  answers : ∀ i < n, team.threads[i]? = some (.done (.error fault))
  attempts : ∀ i < n, Deed.attemptsBy i chronicle = 1
  made : team.shared.store.bindings.length = 0
  resolutions : team.shared.registry.resolutions = 0
  classLookups : (team.machine.classLookups : ℤ) =
    m.classLookups + n * (after.classLookups - m.classLookups)
  memberLookups : (team.machine.memberLookups : ℤ) =
    m.memberLookups + n * (after.memberLookups - m.memberLookups)
  /-- A declaration that is not well formed is not looked up. -/
  invalid : ∀ fault, d.plans (ε := host.Failure) = .error fault →
    team.machine.classLookups = m.classLookups ∧ team.machine.memberLookups = m.memberLookups
  liveClasses : team.machine.liveClasses = m.liveClasses
  livePins : team.machine.livePins = m.livePins
  known : (team.shared.registry.find? d.className).isSome = true ↔ route = .registry true

section Run

variable {binding : Binding host} {fault : Fault host.Failure} {after : Machine}

theorem resolutions_of_economy {route : Route} {team : Team host} {past : List (Nat × Deed)}
    (economy : Economy d n m (route.setOut (H := host) d { host := m }).1 r full team past) :
    team.shared.registry.resolutions = if route = .deferred then 0 else team.shared.board.made := by
  rcases route with ⟨_ | _⟩ | _
  · exact economy.counted rfl
  · exact economy.counted rfl
  · exact economy.uncounted _ rfl

/-- What all threads keep, in every run. -/
theorem account_run (route : Route) (hr : Costs m.world (Binding.resolve host d) r full)
    (schedule : List Nat) :
    let task := (route.setOut (H := host) d { host := m }).1
    let now := (route.begun n d m).run schedule
    ∃ labels, Sound labels now.threads now.shared.board ∧
      Served (List.replicate n task) labels now.threads now.shared.board ∧
      (∀ l, task = .deferred l → ∃ label, labels l.cell = some label) ∧
      Economy d n m task r full now ((route.begun n d m).chronicle schedule) ∧
      ∀ binding, r = .ok binding → Sole d task now ((route.begun n d m).chronicle schedule) ∧
        ∃ condition, Past 0 ((route.begun n d m).deedsOn 0 schedule) condition ∧
          condition.Shown now.threads now.shared.board 0 := by
  intro task now
  obtain ⟨labels, ls, ready, among⟩ := route.setOut_ready d m
  have sound := ready.sound (among.replicate n)
  obtain ⟨labels', le, sound', served, economy, sole⟩ := route.economy_begun.run hr
    (route.setOut_for d m) sound (Team.served_start _) route.sole_begun schedule
  refine ⟨labels', sound', served, fun l h => ?_, economy, fun binding hb => ⟨sole binding hb, ?_⟩⟩
  · have mem : task.Among ls := among
    rw [h] at mem
    exact ⟨_, le _ _ (ready.deferred l mem)⟩
  · exact sound.past_run (route.cell_setOut d m 0) schedule

/-- If the declaration resolves, the first use resolves it once. -/
theorem resolved_of_finished (route : Route) (hn : 1 ≤ n)
    (hr : Costs m.world (Binding.resolve host d) (.ok binding)
      (1, d.operations.length, 0, if d.retention = .global then 1 else 0)) (schedule : List Nat)
    (finished : ((route.begun n d m).run schedule).Finished) :
    route.Resolved n d m binding ((route.begun n d m).run schedule) := by
  obtain ⟨labels, sound, served, among, economy, sole⟩ := route.account_run (n := n) hr schedule
  obtain ⟨sole, condition, history, shown⟩ := sole binding rfl
  obtain ⟨answers, made, tally⟩ := economy.of_ok hn sole (route.setOut_for d m) among sound served
    history shown finished
  simp only [Machine.tally, Prod.mk_add_mk, Prod.mk.injEq] at tally
  obtain ⟨classes, members, live, pins⟩ := tally
  refine ⟨answers, made, ?_, ?_, ?_, ?_, ?_⟩
  · rw [resolutions_of_economy economy, made]
  · exact_mod_cast classes
  · exact_mod_cast members
  · exact live.trans (add_zero _)
  · exact pins

/-- If it does not, the registry knows the class afterwards only if it did so before. -/
theorem known_iff_of_finished (route : Route) (hr : Costs m.world (Binding.resolve host d)
      (.error fault) full) (schedule : List Nat)
    (finished : ((route.begun n d m).run schedule).Finished) :
    (((route.begun n d m).run schedule).shared.registry.find? d.className).isSome = true ↔
      route = .registry true := by
  obtain ⟨_, ls, ready, among⟩ := route.setOut_ready d m
  have sound := ready.sound (among.replicate n)
  constructor
  · intro known
    obtain ⟨entry, h⟩ := Option.isSome_iff_exists.mp known
    obtain ⟨labels, later, _, _, economy, _⟩ := route.account_run (n := n) hr schedule
    -- All calls are over, so the entry is predeclared or resolved; but nothing was resolved.
    rcases later.settled (fun stage mem => .inr (finished stage mem)) h with hp | ⟨b, hb⟩
    · -- It is predeclared, so it was there from the start.
      have old := sound.predeclared_of_run schedule h hp
      rcases route with ⟨_ | _⟩ | _
      · cases old
      · rfl
      · cases old
    · obtain ⟨binding, h⟩ := economy.filled _ b hb
      cases h
  · rintro rfl
    have first : (d.className, ⟨d, true, 0⟩) ∈ ((registry true).begun n d m).shared.board.entries :=
      List.mem_singleton.mpr rfl
    have still := sound.predeclared_run schedule (sound.find?_of_mem first) rfl
    exact Option.isSome_iff_exists.mpr ⟨_, still⟩

/-- If the declaration does not resolve, each thread tries for itself. -/
theorem failed_of_finished (route : Route) {lookups members : ℕ}
    (hr : Costs m.world (Binding.resolve host d) (.error fault) (lookups, members, 0, 0))
    (invalid : ∀ fault, d.plans (ε := host.Failure) = .error fault → lookups = 0 ∧ members = 0)
    (schedule : List Nat) (finished : ((route.begun n d m).run schedule).Finished) :
    route.Failed n d m fault (Binding.resolve host d m).2 ((route.begun n d m).run schedule)
      ((route.begun n d m).chronicle schedule) := by
  obtain ⟨after, resolved, _, single⟩ := hr m rfl
  obtain ⟨labels, sound, served, among, economy, _⟩ := route.account_run (n := n) hr schedule
  obtain ⟨each, tally, made⟩ := economy.of_error finished
  have tally : (((route.begun n d m).run schedule).machine).tally = _ := tally
  simp only [Machine.tally, Prod.mk_add_mk, Prod.smul_mk, Prod.mk.injEq, nsmul_eq_mul] at single tally
  obtain ⟨classes, looked, live, pins⟩ := tally
  obtain ⟨classes', looked', _, _⟩ := single
  rw [resolved]
  refine ⟨fun i hi => (each i hi).1, fun i hi => (each i hi).2, made, ?_, ?_, ?_, ?_, ?_, ?_, ?_⟩
  · rw [resolutions_of_economy economy, made]
    split <;> rfl
  · rw [classes', add_sub_cancel_left]
    exact classes
  · rw [looked', add_sub_cancel_left]
    exact looked
  · intro fault ill
    obtain ⟨rfl, rfl⟩ := invalid fault ill
    constructor
    · simpa using classes
    · simpa using looked
  · simpa using live
  · simpa using pins
  · exact route.known_iff_of_finished hr schedule finished

end Run

/-- All threads are done after enough rounds, whatever happens before. -/
theorem finished_of_rounds (route : Route) (n : Nat) (d : Declaration) (m : Machine)
    (schedule : List Nat) (turns : List (List Nat)) (fair : ∀ round ∈ turns, ∀ i < n, i ∈ round)
    (enough : n * Team.stepsOfFirstUse d ≤ turns.length) :
    ((route.begun n d m).run (schedule ++ turns.flatten)).Finished := by
  obtain ⟨labels, ls, ready, among⟩ := route.setOut_ready d m
  exact ready.finished_of_rounds (route.setOut_for d m) among schedule turns fair enough

theorem firstUse_eq (route : Route) (n : Nat) (d : Declaration) (m : Machine) :
    route.firstUse (H := host) n d m =
      (route.begun n d m).run (Team.rounds n (n * Team.stepsOfFirstUse d)) := rfl

theorem firstUse_finished (route : Route) (n : Nat) (d : Declaration) (m : Machine) :
    (route.firstUse (H := host) n d m).Finished := by
  rw [firstUse_eq]
  refine route.finished_of_rounds n d m [] (List.replicate (n * Team.stepsOfFirstUse d)
    (List.range n)) ?_ ?_
  · intro round mem i hi
    rw [List.eq_of_mem_replicate mem]
    exact List.mem_range.mpr hi
  · rw [List.length_replicate]

/-- Threads that go one route to the same declaration at the same moment are all done after enough
rounds, whatever happens before. When they are done, whatever the schedule was, the declaration was
resolved once for all of them, or each of them has tried for itself and failed. -/
theorem firstUse_accounting (route : Route) {n : Nat} (hn : 1 ≤ n) (d : Declaration)
    (m : Machine) :
    (∀ (schedule : List Nat) (turns : List (List Nat)), (∀ round ∈ turns, ∀ i < n, i ∈ round) →
      n * Team.stepsOfFirstUse d ≤ turns.length →
      ((route.begun n d m).run (schedule ++ turns.flatten)).Finished) ∧
    ∀ schedule, ((route.begun n d m).run schedule).Finished →
      match Binding.resolve host d m with
      | (.ok binding, _) => route.Resolved n d m binding ((route.begun n d m).run schedule)
      | (.error fault, after) => route.Failed n d m fault after
          ((route.begun n d m).run schedule) ((route.begun n d m).chronicle schedule) := by
  constructor
  · exact route.finished_of_rounds n d m
  · intro schedule finished
    rcases costs_resolve m.world d with ⟨binding, hr⟩ | ⟨fault, l, k, hr, invalid⟩
    · have resolved := route.resolved_of_finished hn hr schedule finished
      obtain ⟨after, single, _⟩ := hr m rfl
      rw [single]
      exact resolved
    · have failed := route.failed_of_finished hr invalid schedule finished
      obtain ⟨after, single, _⟩ := hr m rfl
      rw [single] at failed ⊢
      exact failed

/-- Two threads that have their turns one after the other, with a class that there is and with one
that there is not. -/
theorem firstUse_accounting_two :
    (∃ binding, (registry false).Resolved 2 ⟨"test/Point", [], .global⟩ {} binding
      ((registry false).firstUse 2 ⟨"test/Point", [], .global⟩ ({} : Machine))) ∧
    ∃ fault after chronicle, deferred.Failed 2 ⟨"test/None", [], .drop⟩ {} fault after
      (deferred.firstUse 2 ⟨"test/None", [], .drop⟩ ({} : Machine)) chronicle := by
  have done := (registry false).firstUse_finished 2 ⟨"test/Point", [], .global⟩ {}
  have done' := deferred.firstUse_finished 2 ⟨"test/None", [], .drop⟩ {}
  rw [firstUse_eq] at done done' ⊢
  have found := (firstUse_accounting (registry false) (by decide) _ _).2 _ done
  have missing := (firstUse_accounting deferred (by decide) _ _).2 _ done'
  exact ⟨⟨_, found⟩, _, _, _, missing⟩

end Route

end HandleCache

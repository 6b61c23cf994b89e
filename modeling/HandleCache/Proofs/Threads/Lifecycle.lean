import HandleCache.Proofs.Threads.Start
import HandleCache.Vm.Counting

/-!
# How entries come and go

An entry that was declared in front stays for good, and so does one whose class was resolved; any
other is gone once its request has failed. So a class that nobody resolved and nobody declared in
front can be asked for with another declaration as soon as no call is under way.

## Main statements

- `Team.bindings_run`: no run changes a binding that was made
- `Sound.kept_run`: resolved entries stay as they are
- `Sound.settled`: between calls there is no entry that is neither predeclared nor resolved
- `Shared.Prepared.lifecycle`: all of this, for every run
-/

namespace HandleCache

variable {H : Host}

/-! ## Bindings -/

namespace Stage

theorem bindings_of_advance {stage stage' : Stage H} {s s' : Shared H}
    (h : stage.advance s = some (stage', s')) : s.store.bindings <+: s'.store.bindings := by
  cases effect_of_advance h with
  | request => exact List.prefix_rfl
  | @adopt goal binding =>
    -- The new binding comes behind the others, whoever counts it.
    unfold adopt
    split <;> exact List.prefix_append ..
  | other idle quiet =>
    exact ⟨[], (List.append_nil _).trans quiet.bindings.symm⟩

end Stage

namespace Team

/-- No run changes a binding that was made. -/
theorem bindings_run (team : Team H) (schedule : List Nat) :
    team.shared.store.bindings <+: (team.run schedule).shared.store.bindings := by
  induction schedule generalizing team with
  | nil => exact List.prefix_rfl
  | cons i schedule ih =>
    refine List.IsPrefix.trans ?_ (ih (team.turn i))
    rcases team.turn_cases i with ⟨same, _⟩ | ⟨stage, stage', s', _, ha, turn, _⟩
    · exact ⟨[], by rw [List.append_nil, same]⟩
    · rw [turn]
      exact Stage.bindings_of_advance ha

end Team

/-! ## Entries -/

section Move

variable {labels : Labelling} {threads : List (Stage H)} {board : Board} {i : Nat}
  {stage stage' : Stage H} {deed : Deed}

theorem Sound.kept_move (sound : Sound labels threads board)
    (move : Move board stage deed stage') {name : String} {entry : Registration}
    {b : BindingId} (h : (name, entry) ∈ board.entries)
    (hb : board.cell entry.cell = .filled b) : (name, entry) ∈ (deed.on board).entries := by
  cases move with
  | inserted => exact List.mem_append.mpr (.inl h)
  | withdrawn hf hc unfilled =>
    refine List.mem_filter.mpr ⟨h, ?_⟩
    simp only [bne_iff_ne, ne_eq]
    -- The entry that is taken away would be this one, whose cell is filled.
    rintro rfl
    cases (sound.find?_of_mem h).symm.trans hf
    rw [← hc, hb] at unfilled
    cases unfilled
  | _ => exact h

end Move

section Run

variable {labels : Labelling} {team : Team H}

theorem Sound.kept_run (sound : Sound labels team.threads team.shared.board)
    (schedule : List Nat) {name : String} {entry : Registration} {b : BindingId}
    (h : team.shared.registry.find? name = some entry)
    (hb : team.shared.store.cell entry.cell = .filled b) :
    (team.run schedule).shared.registry.find? name = some entry ∧
      (team.run schedule).shared.store.cell entry.cell = .filled b := by
  have mem : (name, entry) ∈ team.shared.board.entries := Board.mem_of_find? h
  obtain ⟨labels', _, sound', mem, filled⟩ := Sound.run
    (P := fun _ _ board _ => (name, entry) ∈ board.entries ∧ board.cell entry.cell = .filled b)
    (fun _ h => h)
    (fun sound hi move h => ⟨sound.kept_move move h.1 h.2, sound.filled_move hi move h.2⟩)
    [] schedule sound ⟨mem, hb⟩
  exact ⟨sound'.find?_of_mem mem, filled⟩

/-- Predeclared entries are there for good. -/
theorem Sound.predeclared_run (sound : Sound labels team.threads team.shared.board)
    (schedule : List Nat) {name : String} {entry : Registration}
    (h : team.shared.registry.find? name = some entry) (hp : entry.predeclared = true) :
    (team.run schedule).shared.registry.find? name = some entry := by
  obtain ⟨d, _, c⟩ := entry
  -- The label of the cell tells that the entry is predeclared, and labels stay.
  subst hp
  have mem : (name, ⟨d, true, c⟩) ∈ team.shared.board.entries := Board.mem_of_find? h
  obtain ⟨label, rfl⟩ := sound.entry name ⟨d, true, c⟩ mem
  obtain ⟨labels', le, sound'⟩ := sound.after schedule
  exact sound'.find?_of_mem (sound'.predeclared c d (le c _ label))

/-- No entry comes in as a predeclared one. -/
theorem Move.predeclared_old {board : Board} {stage stage' : Stage H} {deed : Deed}
    (move : Move board stage deed stage') {name : String} {entry : Registration}
    (mem : (name, entry) ∈ (deed.on board).entries) (hp : entry.predeclared = true) :
    (name, entry) ∈ board.entries := by
  cases move with
  | inserted =>
    rcases List.mem_append.mp mem with mem | mem
    · exact mem
    · cases List.mem_singleton.mp mem
      cases hp
  | withdrawn => exact (List.mem_filter.mp mem).1
  | _ => exact mem

theorem Sound.predeclared_of_run (sound : Sound labels team.threads team.shared.board)
    (schedule : List Nat) {name : String} {entry : Registration}
    (h : (team.run schedule).shared.registry.find? name = some entry)
    (hp : entry.predeclared = true) : team.shared.registry.find? name = some entry := by
  obtain ⟨_, _, _, old⟩ := Sound.run
    (P := fun _ _ board _ => (name, entry) ∈ board.entries →
      (name, entry) ∈ team.shared.board.entries)
    (fun _ h => h) (fun _ _ move h mem => h (move.predeclared_old mem hp)) [] schedule sound
    (fun mem => mem)
  exact sound.find?_of_mem (old (Board.mem_of_find? h))

end Run

/-- Whether no call is under way. -/
def Team.Idle (team : Team H) : Prop :=
  ∀ stage ∈ team.threads, (∃ task, stage = .start task) ∨ ∃ outcome, stage = .done outcome

/-- Between calls there is no entry that is neither predeclared nor resolved: nobody would answer
for it. -/
theorem Sound.settled {labels : Labelling} {team : Team H}
    (sound : Sound labels team.threads team.shared.board) (idle : team.Idle) {name : String}
    {entry : Registration} (h : team.shared.registry.find? name = some entry) :
    entry.predeclared = true ∨ ∃ b, team.shared.store.cell entry.cell = .filled b := by
  by_cases hp : entry.predeclared = true
  · exact .inl hp
  · cases hb : team.shared.store.cell entry.cell with
    | filled b => exact .inr ⟨b, rfl⟩
    | empty | busy =>
      have mem : (name, entry) ∈ team.shared.board.entries := Board.mem_of_find? h
      have unfilled : (team.shared.board.cell entry.cell).binding? = none := by
        rw [Shared.cell_board, hb]
        rfl
      -- Some thread would have to withdraw the entry, but none is at work on anything.
      obtain ⟨stage, hs, goal, hg, _⟩ := sound.responsible name entry mem (by simpa using hp)
        unfilled
      rcases idle stage hs with ⟨task, rfl⟩ | ⟨outcome, rfl⟩ <;> cases hg

/-- A class that has no entry gets one for whatever it is asked for with. -/
theorem Shared.locate_of_unknown {s : Shared H} {d : Declaration}
    (h : s.registry.find? d.className = none) :
    ∃ s', locate d s = (.ok ⟨d, false, s.store.cells.length⟩, s') ∧
      s'.registry.find? d.className = some ⟨d, false, s.store.cells.length⟩ ∧
      s'.store.cell s.store.cells.length = .empty := by
  refine ⟨⟨s.registry.insert d.className ⟨d, false, s.store.newCell.1⟩, s.store.newCell.2⟩,
    ?_, ?_, ?_⟩
  · simp [locate, h, Store.newCell]
  · rw [Registry.find?_insert h, if_pos rfl]
    rfl
  · rw [Store.cell_newCell]
    simp [Store.cell, List.getD]

/-- In every run, whatever becomes of each attempt: an entry whose cell is filled stays with its
declaration and its binding, a predeclared entry stays, and whenever no call is under way each
entry is predeclared or resolved. So a class that is neither can then be registered again, with any
declaration. -/
theorem Team.entry_lifecycle {s : Shared H} {ls : List Deferred} (prepared : s.Prepared ls)
    {tasks : List Task} (among : ∀ task ∈ tasks, task.Among ls) (before after : List Nat) :
    let now := (Team.start tasks s).run before
    let later := now.run after
    (∀ name entry b, now.shared.registry.find? name = some entry →
      now.shared.store.cell entry.cell = .filled b →
      later.shared.registry.find? name = some entry ∧
        later.shared.store.cell entry.cell = .filled b ∧
        ∃ binding, now.shared.store.binding? b = some binding ∧
          later.shared.store.binding? b = some binding) ∧
    (∀ name entry, now.shared.registry.find? name = some entry → entry.predeclared = true →
      later.shared.registry.find? name = some entry) ∧
    (now.Idle → ∀ name entry, now.shared.registry.find? name = some entry →
      entry.predeclared = true ∨ ∃ b, now.shared.store.cell entry.cell = .filled b) ∧
    (now.Idle → ∀ d : Declaration,
      (∀ entry, now.shared.registry.find? d.className = some entry → entry.predeclared = false) →
      Registry.peek now.shared d.className = none →
      ∃ s', Shared.locate d now.shared = (.ok ⟨d, false, now.shared.store.cells.length⟩, s') ∧
        s'.registry.find? d.className = some ⟨d, false, now.shared.store.cells.length⟩ ∧
        s'.store.cell now.shared.store.cells.length = .empty) := by
  intro now later
  obtain ⟨labels, ready⟩ := prepared.ready
  obtain ⟨labels', _, sound⟩ := (ready.sound among).after before
  refine ⟨fun name entry b h hb => ?_, fun name entry h hp => sound.predeclared_run after h hp,
    fun idle name entry h => sound.settled idle h, fun idle d undeclared unresolved => ?_⟩
  · obtain ⟨stays, filled⟩ := sound.kept_run after h hb
    refine ⟨stays, filled, ?_⟩
    have made : b < now.shared.store.bindings.length :=
      sound.known entry.cell entry.label b (sound.found h).1 (.inl hb)
    have binding : now.shared.store.binding? b = some now.shared.store.bindings[b] :=
      List.getElem?_eq_getElem made
    obtain ⟨rest, more⟩ := now.bindings_run after
    refine ⟨_, binding, ?_⟩
    show later.shared.store.bindings[b]? = _
    rw [← more, List.getElem?_append_left made]
    exact binding
  -- There is no entry: between calls it would be predeclared or resolved.
  · refine Shared.locate_of_unknown ?_
    cases h : now.shared.registry.find? d.className with
    | none => rfl
    | some entry =>
      rcases sound.settled idle h with hp | ⟨b, hb⟩
      · rw [undeclared entry h] at hp
        cases hp
      · rw [Registry.peek, h, Option.bind_some, hb] at unresolved
        cases unresolved

/-- A registry that knows nothing yet, on a machine of its own. -/
def Counting.emptyRegistry : Shared Counting.host := { store := { host := ({} : Machine) } }

/-- One thread that asked for a class that there is not. -/
def Team.missingClass : Team Counting.host :=
  (start [.request ⟨"test/None", [], .drop⟩] Counting.emptyRegistry).run (List.replicate 8 0)

/-- The class of a request that failed can be declared anew. -/
theorem Team.entry_lifecycle_missingClass :
    ∃ s', Shared.locate ⟨"test/None", [], .global⟩ missingClass.shared =
      (.ok ⟨⟨"test/None", [], .global⟩, false, missingClass.shared.store.cells.length⟩, s') := by
  have threads : missingClass.threads =
      [.done (.error (.classNotFound "test/None" (.noClass "test/None")))] := rfl
  have unknown : missingClass.shared.registry.find? "test/None" = none := rfl
  have unresolved : Registry.peek missingClass.shared "test/None" = none := rfl
  have idle : missingClass.Idle := by
    intro stage mem
    rw [threads, List.mem_singleton] at mem
    exact .inr ⟨_, mem⟩
  have made : Registry.ofDeclarations [] Counting.emptyRegistry.store =
      (.ok {}, Counting.emptyRegistry.store) := rfl
  have among : ∀ task ∈ [Task.request ⟨"test/None", [], .drop⟩], task.Among [] := by
    simp [Task.Among]
  obtain ⟨s', located, _⟩ := (entry_lifecycle (.made made) among (List.replicate 8 0) []).2.2.2
    idle ⟨"test/None", [], .global⟩ (fun _ h => nomatch unknown.symm.trans h) unresolved
  exact ⟨s', located⟩

end HandleCache

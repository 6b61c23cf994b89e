import HandleCache.Proofs.Threads.ResolveOnce
import HandleCache.Host.Faulty

/-!
# One binding for each class

A registry is meant to hand out one binding for each class. It does so exactly as long as nobody is
answered from a cell whose entry was withdrawn. A thread that waits for a cell while another one
fails to resolve it may come to resolve it itself, after the other has withdrawn the entry; what it
then answers no later call gets.

## Contents

- `Team.HandsOut`: which bindings were answered for a class
- `Attached`: what becomes of requested cells

## Main statements

- `Team.identity_iff`: when a registry hands out one binding for each class
- `Team.orphaned_binding`: it does not always
-/

namespace HandleCache

variable {H : Host}

/-! ## Answers -/

/-- Whether some request for a class was answered with this binding. -/
def Team.HandsOut (tasks : List Task) (team : Team H) (name : String) (b : BindingId) : Prop :=
  ∃ (i : Nat) (task : Task), tasks[i]? = some task ∧ task.AsksFor name ∧
    team.threads[i]? = some (.done (.ok (some b)))

namespace Team

theorem HandsOut.run {tasks : List Task} {team : Team H} {name : String} {b : BindingId}
    (h : HandsOut tasks team name b) (schedule : List Nat) :
    HandsOut tasks (team.run schedule) name b := by
  obtain ⟨i, task, ht, asks, hd⟩ := h
  exact ⟨i, task, ht, asks, done_run hd schedule⟩

end Team

/-! ## Requested cells -/

section Move

variable {labels : Labelling} {threads : List (Stage H)} {board : Board} {i : Nat}
  {stage stage' : Stage H} {deed : Deed}

/-- What becomes of the cells of requested entries: they are with their entries until these are
withdrawn, and with no entry from then on. -/
structure Attached (labels : Labelling) (board : Board) (past : List (Nat × Deed)) : Prop where
  /-- A requested cell is with its entry, or the entry was withdrawn. -/
  requested : ∀ c d, labels c = some ⟨d, .requested⟩ →
    (d.className, ⟨d, false, c⟩) ∈ board.entries ∨ ∃ i, (i, .withdraw d.className c) ∈ past
  /-- A cell whose entry was withdrawn is with no entry. -/
  withdrawn : ∀ i name c, (i, .withdraw name c) ∈ past →
    (∃ label, labels c = some label) ∧ ∀ other entry, (other, entry) ∈ board.entries →
      entry.cell ≠ c

theorem Attached.lost {past : List (Nat × Deed)} (j : Nat) (h : Attached labels board past) :
    Attached labels board (past ++ [(j, .nothing)]) where
  requested c d hl := by
    refine (h.requested c d hl).imp_right fun ⟨k, hk⟩ => ⟨k, ?_⟩
    exact List.mem_append.mpr (.inl hk)
  withdrawn k name c hk := by
    rcases List.mem_append.mp hk with hk | hk
    · exact h.withdrawn k name c hk
    · cases List.mem_singleton.mp hk

theorem Move.entry_cases (move : Move board stage deed stage') {name : String}
    {entry : Registration} (h : (name, entry) ∈ (deed.on board).entries) :
    (name, entry) ∈ board.entries ∨ entry.cell = board.cells.length := by
  cases move with
  | inserted =>
    rcases List.mem_append.mp h with h | h
    · exact .inl h
    · cases List.mem_singleton.mp h
      exact .inr rfl
  | withdrawn => exact .inl (List.mem_filter.mp h).1
  | _ => exact .inl h

/-- A requested entry stays with its cell unless it is withdrawn. -/
theorem Sound.requested_move (sound : Sound labels threads board)
    (move : Move board stage deed stage') {c : CellId} {d : Declaration}
    (h : (d.className, ⟨d, false, c⟩) ∈ board.entries) :
    (d.className, ⟨d, false, c⟩) ∈ (deed.on board).entries ∨
      deed = .withdraw d.className c := by
  cases move with
  | inserted => exact .inl (List.mem_append.mpr (.inl h))
  | @withdrawn goal fault entry hf hc hb =>
    -- What is withdrawn is the entry of a class, with the cell that it holds.
    by_cases hn : d.className = goal.declaration.className
    · rw [← hn, sound.find?_of_mem h] at hf
      cases hf
      right
      rw [hn, ← hc]
    · exact .inl (List.mem_filter.mpr ⟨h, by simpa using hn⟩)
  | _ => exact .inl h

/-- No other entry has the cell of an entry that is withdrawn. -/
theorem Sound.detached (sound : Sound labels threads board) (hi : threads[i]? = some stage)
    (move : Move board stage deed stage') {name : String} {c : CellId}
    (hd : deed = .withdraw name c) :
    (∃ label, labels c = some label) ∧ ∀ other entry, (other, entry) ∈ (deed.on board).entries →
      entry.cell ≠ c := by
  cases move with
  | @withdrawn goal fault entry hf hc hb =>
    cases hd
    have labelled := (sound.stage _ (List.mem_of_getElem? hi)).1
    obtain ⟨origin, hl, _⟩ := id labelled
    refine ⟨⟨_, hl⟩, fun other entry' h same => ?_⟩
    obtain ⟨mem, differs⟩ := List.mem_filter.mp h
    exact absurd (sound.className_eq labelled mem same) (by simpa using differs)
  | _ => cases hd

/-- Each move keeps up with what becomes of requested cells. -/
theorem Sound.attached_move (sound : Sound labels threads board)
    (hi : threads[i]? = some stage) (move : Move board stage deed stage')
    {past : List (Nat × Deed)} (h : Attached labels board past) :
    Attached (deed.relabel labels) (deed.on board) (past ++ [(i, deed)]) where
  requested c d hl := by
    rcases move.label_cases hl with hl | ⟨d', rfl, _, rfl, label⟩
    -- A label that was there goes with an entry that stays, unless this move withdraws it.
    · rcases h.requested c d hl with entry | ⟨k, hk⟩
      · rcases sound.requested_move move entry with entry | rfl
        · exact .inl entry
        · exact .inr ⟨i, List.mem_append.mpr (.inr (List.mem_singleton.mpr rfl))⟩
      · exact .inr ⟨k, List.mem_append.mpr (.inl hk)⟩
    · cases label
      exact .inl (List.mem_append.mpr (.inr (List.mem_singleton.mpr rfl)))
  withdrawn k name c hk := by
    rcases List.mem_append.mp hk with hk | hk
    · obtain ⟨⟨label, hl⟩, apart⟩ := h.withdrawn k name c hk
      refine ⟨⟨label, sound.relabel move hl⟩, fun other entry mem => ?_⟩
      -- A new entry has a new cell, which is not the one that was withdrawn.
      rcases move.entry_cases mem with mem | new
      · exact apart other entry mem
      · rw [new]
        exact (sound.ne_next hl).symm
    · have hd : deed = .withdraw name c := (congrArg Prod.snd (List.mem_singleton.mp hk)).symm
      obtain ⟨⟨label, hl⟩, apart⟩ := sound.detached hi move hd
      exact ⟨⟨label, sound.relabel move hl⟩, apart⟩

end Move

/-! ## Runs -/

/-- In every run, each thread serves its task, and requested cells are with their entries until
these are withdrawn. -/
theorem Shared.Ready.attached_run {labels : Labelling} {s : Shared H} {ls : List Deferred}
    (ready : Ready labels s ls) {tasks : List Task} (among : ∀ task ∈ tasks, task.Among ls)
    (schedule : List Nat) :
    ∃ labels', Sound labels' ((Team.start tasks s).run schedule).threads
        ((Team.start tasks s).run schedule).shared.board ∧
      Served tasks labels' ((Team.start tasks s).run schedule).threads
        ((Team.start tasks s).run schedule).shared.board ∧
      Attached labels' ((Team.start tasks s).run schedule).shared.board
        ((Team.start tasks s).chronicle schedule) := by
  have attached : Attached labels (Team.start tasks s).shared.board [] :=
    ⟨fun c d hl => absurd hl (ready.unasked c d), fun _ _ _ hk => nomatch hk⟩
  obtain ⟨labels', _, sound, served, attached⟩ := Sound.run
    (P := fun labels threads board past =>
      Served tasks labels threads board ∧ Attached labels board past)
    (fun i h => ⟨h.1, h.2.lost i⟩)
    (fun sound hi move h => ⟨sound.served_move hi move h.1, sound.attached_move hi move h.2⟩)
    [] schedule (ready.sound among) ⟨Team.served_start tasks, attached⟩
  exact ⟨labels', sound, served, attached⟩

section Run

variable {labels : Labelling} {team : Team H} {past : List (Nat × Deed)} {tasks : List Task}
  {name : String} {b : BindingId}

/-- What is answered for a class is what is kept for it, unless it is in a cell whose entry was
withdrawn. -/
theorem Attached.peek_of_handsOut (attached : Attached labels team.shared.board past)
    (sound : Sound labels team.threads team.shared.board)
    (served : Served tasks labels team.threads team.shared.board)
    (h : team.HandsOut tasks name b)
    (bound : ∀ i c, (i, .withdraw name c) ∈ past → team.shared.store.cell c ≠ .filled b) :
    Registry.peek team.shared name = some b := by
  obtain ⟨i, task, ht, asks, hd⟩ := h
  obtain ⟨stage, hs, serves⟩ := served i task ht
  cases hs.symm.trans hd
  obtain ⟨b', same, c, ⟨d, origin⟩, hl, undeferred, hn, filled⟩ :=
    Task.Answered.source serves asks
  cases same
  have kept (predeclared : Bool)
      (mem : (d.className, ⟨d, predeclared, c⟩) ∈ team.shared.board.entries) :
      Registry.peek team.shared name = some b := by
    have found := sound.find?_of_mem mem
    simp only at hn
    rw [hn] at found
    rw [← Shared.peek_board, Board.peek, found, Option.bind_some, filled]
    rfl
  -- The answer came from a cell; where the cell comes from tells whether its entry is still there.
  cases origin with
  | deferred => exact absurd rfl undeferred
  | predeclared => exact kept true (sound.predeclared c d hl)
  | requested =>
    rcases attached.requested c d hl with mem | ⟨k, withdrawn⟩
    · exact kept false mem
    · exact absurd filled (bound k c (hn ▸ withdrawn))

/-- What is kept for a class is in no cell whose entry was withdrawn. -/
theorem Attached.not_peek_of_withdrawn (attached : Attached labels team.shared.board past)
    (sound : Sound labels team.threads team.shared.board) {i : Nat} {name' : String} {c : CellId}
    (withdrawn : (i, .withdraw name' c) ∈ past) (hb : team.shared.store.cell c = .filled b) :
    Registry.peek team.shared name ≠ some b := by
  intro peek
  obtain ⟨entry, hf, kept⟩ := Option.bind_eq_some_iff.mp peek
  obtain ⟨⟨label, hl⟩, apart⟩ := attached.withdrawn i name' c withdrawn
  have filled : team.shared.board.cell entry.cell = .filled b := by
    cases hc : team.shared.store.cell entry.cell <;> rw [hc] at kept <;> cases kept
    exact hc
  have mem : (name, entry) ∈ team.shared.board.entries := Board.mem_of_find? hf
  exact apart name entry mem
    (sound.distinct _ _ _ _ b (sound.entry name entry mem).1 hl (.inl filled) (.inl hb))

end Run

/-- A registry hands out one binding for a class exactly as long as no request for it is answered
from a cell whose entry was withdrawn: then what was answered at any time is what the registry
keeps, and what later requests are answered. -/
theorem Team.identity_iff {s : Shared H} {ls : List Deferred} (prepared : s.Prepared ls)
    {tasks : List Task} (among : ∀ task ∈ tasks, task.Among ls) (name : String)
    (schedule : List Nat) :
    let now := (start tasks s).run schedule
    (∀ before after b, schedule = before ++ after →
      HandsOut tasks ((start tasks s).run before) name b →
      Registry.peek now.shared name = some b ∧ ∀ b', HandsOut tasks now name b' → b' = b) ↔
    ∀ i c b, (i, .withdraw name c) ∈ (start tasks s).chronicle schedule →
      now.shared.store.cell c = .filled b → ¬ HandsOut tasks now name b := by
  intro now
  obtain ⟨labels, ready⟩ := prepared.ready
  obtain ⟨labels', sound, served, attached⟩ := ready.attached_run among schedule
  constructor
  -- What is handed out from a withdrawn cell is not what the registry keeps.
  · intro identity i c b withdrawn filled h
    have peek := (identity schedule [] b (List.append_nil schedule).symm h).1
    exact attached.not_peek_of_withdrawn sound withdrawn filled peek
  · intro bound
    have kept {b : BindingId} (h : HandsOut tasks now name b) :
        Registry.peek now.shared name = some b :=
      attached.peek_of_handsOut sound served h fun i c withdrawn filled =>
        bound i c b withdrawn filled h
    -- Answers that were given before are still given at the end, so it is enough to look there.
    rintro before after b rfl h
    have h' : HandsOut tasks now name b := by
      have later := h.run after
      rwa [← run_append] at later
    refine ⟨kept h', fun b' hb' => ?_⟩
    exact Option.some.inj ((kept hb').symm.trans (kept h'))

/-- A class of the counting machine, of which nothing is used. -/
def Counting.point : Declaration := ⟨"test/Point", [], .drop⟩

/-- Two threads that want this class, before they begin. -/
def Team.points : Team Counting.host :=
  start [.request Counting.point, .request Counting.point] Counting.emptyRegistry

/-- No entry is withdrawn where no attempt fails, so both are answered what the registry keeps. -/
theorem Team.identity_iff_points :
    HandsOut [.request Counting.point, .request Counting.point] (points.run (rounds 2 9))
        "test/Point" 0 ∧
      Registry.peek (points.run (rounds 2 9)).shared "test/Point" = some 0 := by
  have deeds : ((points.chronicle (rounds 2 9)).map (·.2)).filter (· ≠ .nothing) =
      [.insert "test/Point" ⟨Counting.point, false, 0⟩, .attempt 0, .make 0 0, .publish 0 0] := rfl
  have handed : HandsOut [.request Counting.point, .request Counting.point]
      (points.run (rounds 2 9)) "test/Point" 0 := ⟨1, _, rfl, rfl, rfl⟩
  have made : Registry.ofDeclarations [] Counting.emptyRegistry.store =
      (.ok {}, Counting.emptyRegistry.store) := rfl
  have among : ∀ task ∈ [Task.request Counting.point, .request Counting.point],
      task.Among [] := by simp [Task.Among]
  have bound : ∀ i c b, (i, .withdraw "test/Point" c) ∈ points.chronicle (rounds 2 9) →
      (points.run (rounds 2 9)).shared.store.cell c = .filled b →
      ¬ HandsOut [.request Counting.point, .request Counting.point] (points.run (rounds 2 9))
        "test/Point" b := by
    intro i c b withdrawn
    have deed : .withdraw "test/Point" c ∈ (points.chronicle (rounds 2 9)).map (·.2) :=
      List.mem_map.mpr ⟨_, withdrawn, rfl⟩
    have listed : .withdraw "test/Point" c ∈
        ((points.chronicle (rounds 2 9)).map (·.2)).filter (· ≠ .nothing) :=
      List.mem_filter.mpr ⟨deed, by simp⟩
    rw [deeds] at listed
    simp at listed
  exact ⟨handed, ((identity_iff (.made made) among "test/Point" (rounds 2 9)).mpr bound
    (rounds 2 9) [] 0 rfl handed).1⟩

/-! ## An orphaned binding -/

/-- A registry that knows nothing yet, on a machine whose first class lookup fails. -/
def Counting.unluckyRegistry : Shared (Host.faulty Counting.host) :=
  { store := { host := ⟨({} : Machine), [(.findClass, .fail)]⟩ } }

/-- Two threads want the class, and a third one later. The first fails while the second waits, and
withdraws the entry before the second resolves the cell itself. -/
def Team.orphaning : Team (Host.faulty Counting.host) :=
  (start [.request Counting.point, .request Counting.point, .request Counting.point]
    Counting.unluckyRegistry).run ([0, 0, 0, 0, 1, 1, 1, 0, 0] ++ List.replicate 6 1)

/-- The second thread is answered, but the registry keeps nothing for the class; the third thread
is answered with another binding. -/
theorem Team.orphaned_binding :
    orphaning.threads[1]? = some (.done (.ok (some 0))) ∧
      Registry.peek orphaning.shared "test/Point" = none ∧
      (orphaning.run (List.replicate 8 2)).threads[2]? = some (.done (.ok (some 1))) ∧
      Registry.peek (orphaning.run (List.replicate 8 2)).shared "test/Point" = some 1 :=
  ⟨rfl, rfl, rfl, rfl⟩

end HandleCache

import HandleCache.Proofs.Threads.Invariant

/-!
# Where threads begin

The invariant holds before any thread has taken a step. Threads begin with a registry that was made
from declarations, on a store that may hold other cells and bindings, and with deferred bindings
that were made after it.

## Main statements

- `Shared.Prepared`: what threads may begin with
- `Shared.Prepared.sound`: the invariant holds there
-/

namespace HandleCache

variable {H : Host}

/-! ## What threads begin with -/

/-- A registry just made, with some deferred bindings. -/
inductive Shared.Prepared : Shared H → List Deferred → Prop
  | made {ds : List Declaration} {store store' : Store H} {r : Registry}
      (h : Registry.ofDeclarations ds store = (.ok r, store')) : Prepared ⟨r, store'⟩ []
  | defer {s : Shared H} {ls : List Deferred} (d : Declaration) (h : Prepared s ls) :
      Prepared ⟨s.registry, (Deferred.ofDeclaration d s.store).2⟩
        ((Deferred.ofDeclaration d s.store).1 :: ls)

/-- Whether the deferred bindings that tasks ask for were made. -/
def Task.Among (ls : List Deferred) : Task → Prop
  | deferred l => l ∈ ls
  | request _ | named _ | preload _ | peek _ => True

namespace Shared

/-- What is true of a registry and its store before any thread takes a step. -/
structure Ready (labels : Labelling) (s : Shared H) (ls : List Deferred) : Prop where
  names : (s.registry.entries.map (·.1)).Nodup
  /-- Each entry is predeclared, under the name of its class, and its cell is for it. -/
  entry : ∀ name entry, (name, entry) ∈ s.registry.entries →
    entry.predeclared = true ∧ labels entry.cell = some entry.label ∧
      entry.declaration.className = name
  /-- Cells with a label are there, and nothing is in them. -/
  empty : ∀ c label, labels c = some label → c < s.store.cells.length ∧ s.store.cell c = .empty
  /-- Cells that are labelled as predeclared have their entries. -/
  predeclared : ∀ c d, labels c = some ⟨d, .predeclared⟩ →
    (d.className, ⟨d, true, c⟩) ∈ s.registry.entries
  /-- Nothing was requested. -/
  unasked : ∀ c d, labels c ≠ some ⟨d, .requested⟩
  /-- Deferred bindings have cells that are for them. -/
  deferred : ∀ l ∈ ls, labels l.cell = some ⟨l.declaration, .deferred⟩

namespace Ready

variable {labels : Labelling} {s : Shared H} {ls : List Deferred}

theorem update_of_label (ready : Ready labels s ls) {c : CellId} {label : Label}
    (h : labels c = some label) (new : Label) :
    Function.update labels s.store.cells.length (some new) c = some label := by
  rw [Function.update_of_ne (Nat.ne_of_lt (ready.empty c label h).1), h]

/-- What has a label after a new cell got one had it before, or is the new cell. -/
theorem label_of_update {c : CellId} {label new : Label} {n : Nat}
    (h : Function.update labels n (some new) c = some label) :
    (c = n ∧ label = new) ∨ labels c = some label := by
  by_cases hc : c = n
  · subst hc
    rw [Function.update_self] at h
    exact .inl ⟨rfl, (Option.some.inj h).symm⟩
  · rw [Function.update_of_ne hc] at h
    exact .inr h

/-- With a new cell that gets a label, the cells with a label are still there and empty. -/
theorem empty_newCell (ready : Ready labels s ls) (new : Label) (c : CellId) (label : Label)
    (h : Function.update labels s.store.cells.length (some new) c = some label) :
    c < s.store.newCell.2.cells.length ∧ s.store.newCell.2.cell c = .empty := by
  rw [Store.cell_newCell]
  -- The new cell is behind the old ones, and as empty as they are.
  rcases label_of_update h with ⟨rfl, _⟩ | h
  · simp [Store.newCell, Store.cell, List.getD]
  · obtain ⟨lt, empty⟩ := ready.empty c label h
    exact ⟨by simpa [Store.newCell] using Nat.lt_succ_of_lt lt, empty⟩

theorem declare (ready : Ready labels s ls) {d : Declaration}
    (new : d.className ∉ s.registry.entries.map (·.1)) :
    Ready (Function.update labels s.store.cells.length (some ⟨d, .predeclared⟩))
      ⟨s.registry.insert d.className ⟨d, true, s.store.newCell.1⟩, s.store.newCell.2⟩ ls where
  names := by
    simp only [Registry.insert, List.map_append, List.map_cons, List.map_nil]
    refine List.nodup_append.mpr ⟨ready.names, by simp, fun name hn other ho => ?_⟩
    -- The class that comes in would be known already.
    rintro rfl
    exact new (List.mem_singleton.mp ho ▸ hn)
  entry name entry h := by
    rcases List.mem_append.mp h with h | h
    · obtain ⟨predeclared, label, hn⟩ := ready.entry name entry h
      exact ⟨predeclared, ready.update_of_label label _, hn⟩
    · cases List.mem_singleton.mp h
      exact ⟨rfl, Function.update_self .., rfl⟩
  empty := ready.empty_newCell ⟨d, .predeclared⟩
  predeclared c d' h := by
    rcases label_of_update h with ⟨rfl, label⟩ | h
    · cases label
      exact List.mem_append.mpr (.inr (List.mem_singleton.mpr rfl))
    · exact List.mem_append.mpr (.inl (ready.predeclared c d' h))
  unasked c d' h := by
    rcases label_of_update h with ⟨_, label⟩ | h
    · cases label
    · exact ready.unasked c d' h
  deferred l hl := ready.update_of_label (ready.deferred l hl) _

theorem defer (ready : Ready labels s ls) (d : Declaration) :
    Ready (Function.update labels s.store.cells.length (some ⟨d, .deferred⟩))
      ⟨s.registry, (Deferred.ofDeclaration d s.store).2⟩
      ((Deferred.ofDeclaration d s.store).1 :: ls) where
  names := ready.names
  entry name entry h := by
    obtain ⟨predeclared, label, hn⟩ := ready.entry name entry h
    exact ⟨predeclared, ready.update_of_label label _, hn⟩
  empty := ready.empty_newCell ⟨d, .deferred⟩
  predeclared c d' h := by
    rcases label_of_update h with ⟨_, label⟩ | h
    · cases label
    · exact ready.predeclared c d' h
  unasked c d' h := by
    rcases label_of_update h with ⟨_, label⟩ | h
    · cases label
    · exact ready.unasked c d' h
  deferred l hl := by
    rcases List.mem_cons.mp hl with rfl | hl
    · exact Function.update_self ..
    · exact ready.update_of_label (ready.deferred l hl) _

/-- Classes that are not known, none of them twice, may be declared in front one after the
other. -/
theorem predeclare (ready : Ready labels s ls) {ds : List Declaration}
    (distinct : (ds.map (·.className)).Nodup)
    (new : ∀ d ∈ ds, d.className ∉ s.registry.entries.map (·.1)) :
    ∃ labels', Ready labels' (Registry.predeclare ds s) ls := by
  induction ds generalizing labels s with
  | nil => exact ⟨labels, ready⟩
  | cons d rest ih =>
    rw [List.map_cons, List.nodup_cons] at distinct
    apply ih (ready.declare (new d (by simp))) distinct.2
    intro d' hd' known
    simp only [Registry.insert, List.map_append, List.map_cons, List.map_nil] at known
    rcases List.mem_append.mp known with known | same
    · exact new d' (by simp [hd']) known
    · -- Then the first class would come again among the rest.
      rw [List.mem_singleton] at same
      exact distinct.1 (List.mem_map.mpr ⟨d', hd', same⟩)

end Ready

end Shared

/-- No class comes twice where each is kept as it comes first. -/
theorem Registry.nodup_of_distinct {ε : Type} {known ds result : List Declaration}
    (nodup : (known.map (·.className)).Nodup) (h : distinct (ε := ε) known ds = .ok result) :
    (result.map (·.className)).Nodup := by
  induction ds generalizing known with
  | nil =>
    cases h
    exact nodup
  -- What is kept grows while the declarations are gone through, so the induction is for all of it.
  | cons d rest ih =>
    unfold distinct at h
    split at h
    · rename_i unknown
      refine ih ?_ h
      rw [List.map_append, List.map_cons, List.map_nil]
      refine List.nodup_append.mpr ⟨nodup, by simp, fun name hn other ho => ?_⟩
      -- A class that is kept already would have been found.
      rintro rfl
      obtain ⟨k, hk, hname⟩ := List.mem_map.mp hn
      have differs := List.find?_eq_none.mp unknown k hk
      rw [List.mem_singleton] at ho
      exact differs (by simp [hname, ho])
    · split at h
      · exact ih nodup h
      · cases h

namespace Shared

/-- A store without a registry, none of whose cells anybody can reach. -/
theorem Ready.bare (store : Store H) : Ready (fun _ => none) { store } [] where
  names := List.nodup_nil
  entry _ _ h := by cases h
  empty _ _ h := by cases h
  predeclared _ _ h := by cases h
  unasked _ _ h := by cases h
  deferred _ h := by cases h

theorem Prepared.ready {s : Shared H} {ls : List Deferred} (h : Prepared s ls) :
    ∃ labels, Ready labels s ls := by
  induction h with
  | @made ds store store' r h =>
    unfold Registry.ofDeclarations at h
    split at h
    · rename_i known hk
      cases h
      -- A registry that could be made has each class once.
      have none : (([] : List Declaration).map (·.className)).Nodup := List.nodup_nil
      have nodup := Registry.nodup_of_distinct none hk
      exact (Ready.bare store).predeclare nodup fun d _ => by simp
    · cases h
  | defer d h ih =>
    obtain ⟨labels, ready⟩ := ih
    exact ⟨_, ready.defer d⟩

theorem Ready.not_holds {labels : Labelling} {s : Shared H} {ls : List Deferred}
    (ready : Ready labels s ls) {tasks : List Task} {c : CellId} {label : Label}
    {b : BindingId} (h : labels c = some label) :
    ¬ Holds (Team.start tasks s).threads (Team.start tasks s).shared.board c b := by
  rintro (filled | ⟨goal, mem, _⟩)
  · have empty : s.board.cell c = .empty := (ready.empty c label h).2
    cases empty.symm.trans filled
  · obtain ⟨task, _, start⟩ := List.mem_map.mp mem
    cases start

/-- The invariant holds where threads are about to begin. -/
theorem Ready.sound {labels : Labelling} {s : Shared H} {ls : List Deferred}
    (ready : Ready labels s ls) {tasks : List Task} (among : ∀ task ∈ tasks, task.Among ls) :
    Sound labels (Team.start tasks s).threads (Team.start tasks s).shared.board where
  names := ready.names
  entry name entry h := (ready.entry name entry h).2
  allocated c label h := (ready.empty c label h).1
  stage stage mem := by
    obtain ⟨task, ht, rfl⟩ := List.mem_map.mp mem
    cases task with
    | deferred l => exact ready.deferred l (among _ ht)
    | request | named | preload | peek => trivial
  owners c label h := by
    -- No thread has begun, so nobody resolves a cell, and no cell is busy.
    have empty : s.board.cell c = .empty := (ready.empty c label h).2
    rw [show (Team.start tasks s).shared = s from rfl, empty, if_neg Cell.noConfusion]
    apply List.countP_eq_zero.mpr
    intro stage mem
    obtain ⟨task, _, rfl⟩ := List.mem_map.mp mem
    simp
  known c label b h holds := absurd holds (ready.not_holds h)
  distinct c _ label _ b h _ holds _ := absurd holds (ready.not_holds h)
  responsible name entry h hp := by
    rw [(ready.entry name entry h).1] at hp
    cases hp
  predeclared := ready.predeclared
  apart _ c' _ d' _ h' := absurd h' (ready.unasked c' d')

end Shared

end HandleCache

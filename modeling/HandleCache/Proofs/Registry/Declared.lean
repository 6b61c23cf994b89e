import HandleCache.Proofs.Registry.Outcome
import HandleCache.Proofs.Threads.Start
import HandleCache.Vm.Counting
import Mathlib.Data.List.Nodup

/-!
# What a registry is made from

A registry is made from declarations if no class is declared in two ways. Each declaration is only
compared with the first one of its class, which is enough: where all of them equal the first they
equal each other. The registry then has one entry for each class, with the first declaration of it,
and it does not matter how often a class was declared and in which order.

## Contents

- `Declaration.first?`, `Declaration.conflict?`: the first declaration of a class, and the first one
  that differs from it
- `Declaration.Consistent`: no class is declared in two ways
- `Registry.MadeFrom`: what a registry is like when it was just made

## Main statements

- `Registry.made_from_consistent`: from which declarations a registry is made, what it is then, and
  what is told otherwise
-/

namespace HandleCache

/-! ## First declarations -/

namespace Declaration

variable {ds front : List Declaration} {d : Declaration} {name : String}

/-- The first declaration of a class. -/
def first? (ds : List Declaration) (name : String) : Option Declaration :=
  ds.find? (·.className == name)

/-- The first declaration that differs from the first one of its class. -/
def conflict? (ds : List Declaration) : Option Declaration :=
  ds.find? fun d => first? ds d.className != some d

/-- Any two declarations of one class are equal. -/
def Consistent (ds : List Declaration) : Prop :=
  ∀ d ∈ ds, ∀ d' ∈ ds, d.className = d'.className → d = d'

theorem mem_of_first? (h : first? ds name = some d) : d ∈ ds ∧ d.className = name :=
  ⟨List.mem_of_find?_eq_some h, by simpa using List.find?_some h⟩

theorem first?_isSome_iff : (first? ds name).isSome ↔ ∃ d ∈ ds, d.className = name := by
  simp [first?]

theorem first?_append (front rest : List Declaration) (name : String) :
    first? (front ++ rest) name = (first? front name).or (first? rest name) :=
  List.find?_append

@[simp]
theorem first?_singleton (d : Declaration) (name : String) :
    first? [d] name = if d.className = name then some d else none := by
  by_cases h : d.className = name <;> simp [first?, h]

theorem first?_append_of_some {rest : List Declaration} (h : first? front name = some d) :
    first? (front ++ rest) name = some d := by
  rw [first?_append, h, Option.some_or]

theorem conflict?_eq_none_iff :
    conflict? ds = none ↔ ∀ d ∈ ds, first? ds d.className = some d := by
  simp [conflict?]

/-- To equal the first declaration of one's class is to equal every one of it. -/
theorem consistent_iff : Consistent ds ↔ conflict? ds = none := by
  rw [conflict?_eq_none_iff]
  constructor
  · intro consistent d hd
    obtain ⟨k, hk⟩ := Option.isSome_iff_exists.mp (first?_isSome_iff.mpr ⟨d, hd, rfl⟩)
    obtain ⟨mem, same⟩ := mem_of_first? hk
    rw [hk, consistent k mem d hd same]
  · intro equal d hd d' hd' same
    have h := equal d hd
    rw [same, equal d' hd'] at h
    exact (Option.some.inj h).symm

/-- Whether declarations are consistent depends on which ones they are only. -/
theorem Consistent.congr {ds' : List Declaration} (same : ∀ d, d ∈ ds ↔ d ∈ ds') :
    Consistent ds ↔ Consistent ds' := by
  simp only [Consistent, same]

/-- One more declaration that equals the first one of its class, if there is one. -/
theorem conflict?_append_singleton (h : conflict? front = none)
    (fits : ∀ k, first? front d.className = some k → k = d) : conflict? (front ++ [d]) = none := by
  rw [conflict?_eq_none_iff] at h ⊢
  intro x hx
  rcases List.mem_append.mp hx with hx | hx
  · exact first?_append_of_some (h x hx)
  · cases List.mem_singleton.mp hx
    rw [first?_append]
    cases hk : first? front d.className with
    | none => simp
    | some k => rw [fits k hk, Option.some_or]

/-- The first declaration behind consistent ones that differs from the first of its class. -/
theorem conflict?_append_cons {rest : List Declaration} {k : Declaration}
    (h : conflict? front = none) (known : first? front d.className = some k) (differs : k ≠ d) :
    conflict? (front ++ d :: rest) = some d := by
  rw [conflict?_eq_none_iff] at h
  have unequal : (first? (front ++ d :: rest) d.className != some d) = true := by
    simpa [first?_append_of_some known] using differs
  -- Those in front equal the first ones of their classes, whatever comes behind them.
  have equal : ∀ x ∈ front, ¬(first? (front ++ d :: rest) x.className != some x) = true :=
    fun x hx => by simp [first?_append_of_some (h x hx)]
  rw [conflict?, List.find?_append, List.find?_eq_none.mpr equal, Option.none_or]
  exact List.find?_cons_of_pos unequal

end Declaration

namespace Registry

open Declaration

/-! ## Going through the declarations -/

/-- The declarations that are kept have the same first ones as all that were gone through, and those
to come are compared with them. -/
theorem distinct_cases {ε : Type} (known front ds : List Declaration)
    (same : ∀ name, first? known name = first? front name) (clear : conflict? front = none) :
    (conflict? (front ++ ds) = none ∧
      ∃ result, distinct (ε := ε) known ds = .ok result ∧
        ∀ name, first? result name = first? (front ++ ds) name) ∨
    ∃ d, conflict? (front ++ ds) = some d ∧
      distinct known ds = .error (Fault.conflictingDeclaration (ε := ε) d.className) := by
  induction ds generalizing known front with
  | nil => exact .inl ⟨by rwa [List.append_nil], known, rfl, by simpa using same⟩
  | cons d rest ih =>
    have next := ih known (front ++ [d])
    have new := ih (known ++ [d]) (front ++ [d])
    rw [List.append_assoc, List.singleton_append] at next new
    have found : known.find? (·.className == d.className) = first? front d.className :=
      same d.className
    unfold distinct
    rw [found]
    cases hk : first? front d.className with
    | none =>
      refine new (fun name => by rw [first?_append, first?_append, same]) ?_
      exact conflict?_append_singleton clear fun k h => by cases hk.symm.trans h
    | some k =>
      by_cases differs : k = d
      · subst differs
        simp only [↓reduceIte]
        refine next (fun name => ?_) (conflict?_append_singleton clear fun k' h => ?_)
        · -- Its class was known, so it is not the first one of any.
          rw [same, first?_append]
          by_cases hn : k.className = name
          · rw [← hn, hk, Option.some_or]
          · rw [first?_singleton, if_neg hn, Option.or_none]
        · exact Option.some.inj (h.symm.trans hk)
      · simp only [if_neg differs]
        exact .inr ⟨d, conflict?_append_cons clear hk differs, rfl⟩

/-! ## Making the entries -/

variable {H : Host}

/-- The entries of declarations, with cells from a number on. -/
def entriesFrom (n : CellId) (ds : List Declaration) : List (String × Registration) :=
  (ds.zipIdx n).map fun (d, c) => (d.className, ⟨d, true, c⟩)

theorem mem_entriesFrom {n : CellId} {ds : List Declaration} {name : String}
    {entry : Registration} (h : (name, entry) ∈ entriesFrom n ds) :
    entry.declaration ∈ ds ∧ entry.declaration.className = name ∧ entry.predeclared = true ∧
      n ≤ entry.cell ∧ entry.cell < n + ds.length := by
  obtain ⟨⟨d, c⟩, hd, same⟩ := List.mem_map.mp h
  cases same
  exact ⟨List.fst_mem_of_mem_zipIdx hd, rfl, rfl, List.le_snd_of_mem_zipIdx hd,
    List.snd_lt_add_of_mem_zipIdx hd⟩

theorem exists_mem_entriesFrom {n : CellId} {ds : List Declaration} {d : Declaration}
    (h : d ∈ ds) : ∃ c, (d.className, ⟨d, true, c⟩) ∈ entriesFrom n ds := by
  rw [← List.zipIdx_map_fst n ds] at h
  obtain ⟨⟨d, c⟩, hd, rfl⟩ := List.mem_map.mp h
  exact ⟨c, List.mem_map.mpr ⟨(d, c), hd, rfl⟩⟩

theorem names_entriesFrom (n : CellId) (ds : List Declaration) :
    (entriesFrom n ds).map (·.1) = ds.map (·.className) := by
  conv_rhs => rw [← List.zipIdx_map_fst n ds]
  rw [entriesFrom, List.map_map, List.map_map]
  rfl

theorem cells_entriesFrom (n : CellId) (ds : List Declaration) :
    (entriesFrom n ds).map (·.2.cell) = List.range' n ds.length := by
  rw [← List.zipIdx_map_snd, entriesFrom, List.map_map]
  rfl

/-- Each declaration gets an entry, and a cell behind those that are there. -/
theorem predeclare_eq (ds : List Declaration) (s : Shared H) :
    predeclare ds s =
      { registry :=
          { s.registry with
            entries := s.registry.entries ++ entriesFrom s.store.cells.length ds }
        store :=
          { s.store with cells := s.store.cells ++ List.replicate ds.length .empty } } := by
  induction ds generalizing s with
  | nil => simp [predeclare, entriesFrom]
  | cons d rest ih =>
    simp [predeclare, ih, insert, Store.newCell, entriesFrom, List.zipIdx_cons,
      List.replicate_succ]

/-! ## Registries that were just made -/

/-- A registry that was just made has an entry for each class that was declared, and it has done
nothing yet. -/
structure MadeFrom (ds : List Declaration) (store : Store H) (r : Registry)
    (store' : Store H) : Prop where
  /-- No class has two entries. -/
  names : (r.entries.map (·.1)).Nodup
  /-- What was declared of a class is what its entry holds. -/
  declared : ∀ d ∈ ds, ∃ c, r.find? d.className = some ⟨d, true, c⟩
  /-- Every entry comes from a declaration, and its cell is new. -/
  entry : ∀ name entry, (name, entry) ∈ r.entries →
    entry.declaration ∈ ds ∧ entry.declaration.className = name ∧ entry.predeclared = true ∧
      store.cells.length ≤ entry.cell ∧ entry.cell < store'.cells.length
  /-- No two classes share a cell. -/
  cells : (r.entries.map (·.2.cell)).Nodup
  /-- Nothing was resolved. -/
  unresolved : ∀ name, peek ⟨r, store'⟩ name = none
  resolutions : r.resolutions = 0
  /-- All that the store gets is an empty cell for each entry. -/
  store_eq :
    store' = { store with cells := store.cells ++ List.replicate r.entries.length .empty }

theorem cell_replicate (store : Store H) (n : Nat) (c : CellId) :
    ({ store with cells := store.cells ++ List.replicate n .empty } : Store H).cell c =
      store.cell c := by
  simp only [Store.cell, List.getD, List.getElem?_append]
  split
  · rfl
  · rename_i h
    rw [List.getElem?_eq_none (Nat.not_lt.mp h), List.getElem?_replicate]
    split <;> rfl

/-- The declarations that are kept, one for each class, are what the registry is made from. -/
theorem madeFrom_predeclare {ds known : List Declaration} (store : Store H)
    (nodup : (known.map (·.className)).Nodup) (mem : ∀ d, d ∈ known ↔ d ∈ ds) :
    MadeFrom ds store (predeclare known { store }).registry
      (predeclare known { store }).store := by
  have names : ((entriesFrom store.cells.length known).map (·.1)).Nodup := by
    rwa [names_entriesFrom]
  have comes {name : String} {entry : Registration}
      (h : (name, entry) ∈ entriesFrom store.cells.length known) := mem_entriesFrom h
  rw [predeclare_eq]
  refine ⟨by simpa using names, fun d hd => ?_, fun name entry h => ?_, ?_, fun name => ?_, rfl,
    by simp [entriesFrom]⟩
  · obtain ⟨c, hc⟩ := exists_mem_entriesFrom (n := store.cells.length) ((mem d).mpr hd)
    exact ⟨c, find?_of_mem (by simpa using names) (by simpa using hc)⟩
  · obtain ⟨kept, named, predeclared, low, high⟩ := comes (by simpa using h)
    exact ⟨(mem _).mp kept, named, predeclared, low, by simpa using high⟩
  · simpa [cells_entriesFrom] using List.nodup_range'
  · -- An entry's cell is behind the old ones, and the new ones are empty.
    refine Option.bind_eq_none_iff.mpr fun entry found => ?_
    obtain ⟨-, -, -, low, -⟩ := comes (by simpa using mem_of_find? found)
    rw [cell_replicate, Store.cell, List.getD, List.getElem?_eq_none low]
    rfl

/-! ## What becomes of declarations -/

/-- Where no two declarations conflict, one of each class is kept, which is all there are. -/
theorem distinct_of_clear {ε : Type} {ds : List Declaration} (clear : conflict? ds = none) :
    ∃ known, distinct (ε := ε) [] ds = .ok known ∧ (known.map (·.className)).Nodup ∧
      ∀ d, d ∈ known ↔ d ∈ ds := by
  obtain ⟨-, known, kept, same⟩ | ⟨d, conflict, -⟩ :=
    distinct_cases (ε := ε) [] [] ds (fun _ => rfl) rfl
  · have none : (([] : List Declaration).map (·.className)).Nodup := List.nodup_nil
    have nodup := nodup_of_distinct none kept
    refine ⟨known, kept, nodup, fun d => ⟨fun hd => ?_, fun hd => ?_⟩⟩
    · obtain ⟨k, hk⟩ := Option.isSome_iff_exists.mp (first?_isSome_iff.mpr ⟨d, hd, rfl⟩)
      obtain ⟨mem, named⟩ := mem_of_first? hk
      rw [← List.inj_on_of_nodup_map nodup mem hd named]
      exact (mem_of_first? ((same _).symm.trans hk)).1
    · exact (mem_of_first? ((same _).trans (conflict?_eq_none_iff.mp clear d hd))).1
  · cases conflict.symm.trans clear

theorem distinct_of_conflict {ε : Type} {ds : List Declaration} {d : Declaration}
    (conflict : conflict? ds = some d) :
    distinct [] ds = .error (Fault.conflictingDeclaration (ε := ε) d.className) := by
  obtain ⟨clear, -⟩ | ⟨d', conflict', refused⟩ :=
    distinct_cases (ε := ε) [] [] ds (fun _ => rfl) rfl
  · cases clear.symm.trans conflict
  · cases conflict'.symm.trans conflict
    exact refused

theorem ofDeclarations_of_consistent {ds : List Declaration} (consistent : Consistent ds)
    (store : Store H) :
    ∃ r store', ofDeclarations ds store = (.ok r, store') ∧ MadeFrom ds store r store' := by
  obtain ⟨known, kept, nodup, mem⟩ := distinct_of_clear (consistent_iff.mp consistent)
  exact ⟨_, _, by rw [ofDeclarations, kept], madeFrom_predeclare store nodup mem⟩

theorem ofDeclarations_of_conflict {ds : List Declaration} {d : Declaration}
    (conflict : conflict? ds = some d) (store : Store H) :
    ofDeclarations ds store = (.error (.conflictingDeclaration d.className), store) := by
  rw [ofDeclarations, distinct_of_conflict conflict]

/-- A registry is made exactly if any two declarations of one class are equal, so neither their order
nor repetitions matter. It then has one entry for each class, which holds what was declared of it;
otherwise nothing happens, and the class is told of the first declaration that differs from the
first one of its class. -/
theorem made_from_consistent (ds : List Declaration) (store : Store H) :
    ((∃ r, (ofDeclarations ds store).1 = .ok r) ↔ Consistent ds) ∧
    (∀ ds', (∀ d, d ∈ ds ↔ d ∈ ds') →
      ((∃ r, (ofDeclarations ds store).1 = .ok r) ↔
        ∃ r, (ofDeclarations ds' store).1 = .ok r)) ∧
    (∀ r store', ofDeclarations ds store = (.ok r, store') → MadeFrom ds store r store') ∧
    ∀ fault store', ofDeclarations ds store = (.error fault, store') →
      store' = store ∧
        ∃ d, conflict? ds = some d ∧ fault = .conflictingDeclaration d.className := by
  have made (ds : List Declaration) :
      (∃ r, (ofDeclarations ds store).1 = .ok r) ↔ Consistent ds := by
    constructor
    · rintro ⟨r, hr⟩
      rw [consistent_iff]
      cases conflict : conflict? ds with
      | none => rfl
      | some d =>
        rw [ofDeclarations_of_conflict conflict store] at hr
        cases hr
    · intro consistent
      obtain ⟨r, store', h, -⟩ := ofDeclarations_of_consistent consistent store
      exact ⟨r, by rw [h]⟩
  refine ⟨made ds, fun ds' same => ?_, fun r store' h => ?_, fun fault store' h => ?_⟩
  · rw [made ds, made ds']
    exact Consistent.congr same
  · obtain ⟨r', store'', h', madeFrom⟩ :=
      ofDeclarations_of_consistent ((made ds).mp ⟨r, by rw [h]⟩) store
    cases h'.symm.trans h
    exact madeFrom
  · cases conflict : conflict? ds with
    | none =>
      obtain ⟨r', store'', h', -⟩ :=
        ofDeclarations_of_consistent (consistent_iff.mpr conflict) store
      cases h'.symm.trans h
    | some d =>
      cases (ofDeclarations_of_conflict conflict store).symm.trans h
      exact ⟨rfl, d, rfl, rfl⟩

/-- A class that was declared twice in the same way, in front of another. -/
theorem made_from_consistent_twice :
    let point : Declaration := ⟨"test/Point", [.field "x" "x" "I"], .drop⟩
    let counter : Declaration := ⟨"test/Counter", [], .weak⟩
    (∃ r, (ofDeclarations (H := Counting.host) [point, point, counter] { host := {} }).1 = .ok r) ∧
      ∃ r, (ofDeclarations (H := Counting.host) [counter, point] { host := {} }).1 = .ok r := by
  intro point counter
  obtain ⟨made, unaffected, -, -⟩ :=
    made_from_consistent (H := Counting.host) [point, point, counter] { host := {} }
  have succeeds := made.mpr (by simp [Consistent, point, counter])
  exact ⟨succeeds, (unaffected [counter, point] (by simp [or_comm])).mp succeeds⟩

end Registry

end HandleCache

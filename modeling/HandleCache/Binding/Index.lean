import HandleCache.Declaration

/-!
# Indices

An index tells the place of each logical name in a table, so that an operation is found without a
search. It is filled as the rows of the table come in, and where no name comes twice it finds each
of them.

## Contents

- `Index`: the places of logical names
- `places`: the index of operations, entered one after the other

## Main statements

- `place?_places`: the index finds the place of each operation
- `eq_or_of_place?_places`: and no other place
-/

namespace HandleCache

/-- The places of logical names in a table: a map, kept as the list of its entries, of which the
latest of a name counts. -/
abbrev Index : Type := List (String × Nat)

namespace Index

/-- The place that was entered under a name. -/
def place? (index : Index) (name : String) : Option Nat := index.lookup name

/-- Enters a place under a name. -/
def enter (index : Index) (name : String) (place : Nat) : Index := (name, place) :: index

theorem place?_enter (index : Index) (name : String) (place : Nat) (other : String) :
    (index.enter name place).place? other =
      if other = name then some place else index.place? other := by
  by_cases same : other = name
  · simp [place?, enter, same]
  · have differs : (other == name) = false := by simpa using same
    simp [place?, enter, List.lookup_cons, same, differs]

end Index

/-- Enters the places of operations under their logical names, from place `n` on. -/
def places (n : Nat) : List Operation → Index → Index
  | [], index => index
  | op :: rest, index => places (n + 1) rest (index.enter op.name n)

section

variable {n : Nat} {ops : List Operation} {index : Index} {name : String}

theorem place?_places_of_forall_ne (others : ∀ op ∈ ops, op.name ≠ name) :
    (places n ops index).place? name = index.place? name := by
  induction ops generalizing n index with
  | nil => rfl
  | cons op rest ih =>
    obtain ⟨here, others⟩ := List.forall_mem_cons.mp others
    rw [places, ih others, Index.place?_enter, if_neg here.symm]

/-- A place that is found is that of an operation of this name, or was entered before. -/
theorem eq_or_of_place?_places {i : Nat} (found : (places n ops index).place? name = some i) :
    (∃ j op, ops[j]? = some op ∧ op.name = name ∧ i = n + j) ∨ index.place? name = some i := by
  induction ops generalizing n index with
  | nil => exact .inr found
  | cons op rest ih =>
    rcases ih found with ⟨j, other, at_j, named, rfl⟩ | before
    · exact .inl ⟨j + 1, other, at_j, named, by omega⟩
    · rw [Index.place?_enter] at before
      split at before
      · next same =>
        cases before
        exact .inl ⟨0, op, rfl, same.symm, rfl⟩
      · exact .inr before

/-- Of distinct names each has the place where it was entered. -/
theorem place?_places {i : Nat} {op : Operation} (distinct : (ops.map (·.name)).Nodup)
    (at_i : ops[i]? = some op) : (places n ops index).place? op.name = some (n + i) := by
  -- By induction on the operations: what is entered behind a name leaves its place as it is.
  induction ops generalizing n index i with
  | nil => simp at at_i
  | cons first rest ih =>
    rw [List.map_cons, List.nodup_cons] at distinct
    cases i with
    | zero =>
      obtain rfl : first = op := by simpa using at_i
      have others : ∀ other ∈ rest, other.name ≠ first.name := fun other mem same =>
        distinct.1 (List.mem_map.mpr ⟨other, mem, same⟩)
      rw [places, place?_places_of_forall_ne others, Index.place?_enter, if_pos rfl, Nat.add_zero]
    | succ i =>
      rw [places, ih distinct.2 (by simpa using at_i)]
      congr 1
      omega

end

end HandleCache

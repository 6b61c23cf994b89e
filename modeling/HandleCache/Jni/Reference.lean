import HandleCache.World.Basic

/-!
# References

The references that native code holds: local ones, global ones and weak ones, each to a class or an
object. A reference is made by one request and deleted by another; the table of all references ever
made remembers for each how often it was deleted, so that a reference that was never deleted, or
deleted twice, can be seen.

## Contents

- `ReferenceKind`, `Target`, `ReferenceInfo`: what a reference is
- `Reference`: a reference by its number, or null
- `ReferenceTable`: all references ever made, with `make`, `delete` and `live`

## Main statements

- `ReferenceTable.live_make`, `ReferenceTable.live_delete`: how the number of live references moves
-/

namespace HandleCache.Jni

/-- The kinds of references. -/
inductive ReferenceKind where
  /-- It lasts as long as the native frame. -/
  | local
  /-- It lasts until it is deleted. -/
  | global
  /-- It lasts until it is deleted, but does not keep its target loaded. -/
  | weak
  deriving DecidableEq, Repr

/-- What a reference is to. -/
inductive Target where
  /-- A class, in the age in which the reference was made. -/
  | classAt (c : Nat) (age : Nat)
  | object (i : Nat)
  deriving DecidableEq, Repr

/-- A reference that was made. -/
structure ReferenceInfo where
  kind : ReferenceKind
  /-- What it is to. -/
  target : Target
  deletions : Nat := 0
  deriving DecidableEq, Repr

/-- A reference by its number, or null. -/
abbrev Reference := Option Nat

/-- All references ever made, by number. -/
abbrev ReferenceTable := List ReferenceInfo

namespace ReferenceTable

/-- The entry of a reference. -/
def info? (t : ReferenceTable) (r : Reference) : Option ReferenceInfo :=
  r.bind (t[·]?)

/-- Makes a reference. -/
def make (t : ReferenceTable) (kind : ReferenceKind) (target : Target) :
    Reference × ReferenceTable :=
  (some t.length, t ++ [⟨kind, target, 0⟩])

/-- Deletes a reference; null has nothing to be deleted. -/
def delete (t : ReferenceTable) (r : Reference) : ReferenceTable :=
  match r with
  | none => t
  | some i => t.modify i fun info => { info with deletions := info.deletions + 1 }

/-- Whether an entry is a reference of this kind that is not deleted. -/
def isLive (kind : ReferenceKind) (info : ReferenceInfo) : Bool :=
  info.kind == kind && info.deletions == 0

/-- How many references of a kind are not deleted. -/
def live (t : ReferenceTable) (kind : ReferenceKind) : Nat :=
  t.countP (isLive kind)

/-- A reference that was made is live, and no other changes. -/
theorem live_make (t : ReferenceTable) (kind : ReferenceKind) (target : Target)
    (k : ReferenceKind) :
    live (t.make kind target).2 k = t.live k + if kind = k then 1 else 0 := by
  by_cases h : kind = k <;> simp [live, make, isLive, h]

/-- A live reference is so no more after it was deleted, and no other changes. -/
theorem live_delete {t : ReferenceTable} {i : Nat} {info : ReferenceInfo} (h : t[i]? = some info)
    (hd : info.deletions = 0) (k : ReferenceKind) :
    t.live k = live (t.delete (some i)) k + if info.kind = k then 1 else 0 := by
  induction t generalizing i with
  | nil => simp at h
  | cons first rest ih =>
    match i with
    | 0 =>
      obtain rfl : first = info := by simpa using h
      by_cases hk : first.kind = k <;> simp [live, delete, isLive, hd, hk]
    | i + 1 =>
      have := ih (i := i) (by simpa using h)
      simp only [live, delete, List.modify_succ_cons, List.countP_cons] at this ⊢
      omega

@[simp] theorem delete_null (t : ReferenceTable) : t.delete none = t := rfl

@[simp] theorem length_delete (t : ReferenceTable) (r : Reference) :
    (t.delete r).length = t.length := by
  cases r <;> simp [delete]

end ReferenceTable

end HandleCache.Jni

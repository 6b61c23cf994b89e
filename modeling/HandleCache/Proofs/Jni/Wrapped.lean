import HandleCache.Proofs.Jni.Outstanding

/-!
# What wrapping leaves behind

To wrap an object a class reference is had for a moment, and to make an object for it a reference to
the new object as well. Both are local, and on a machine with nothing pending both are deleted
again, wherever it goes wrong. What remains of it is the one global reference that the object is
held by, if it comes to that.

With an exception pending it is otherwise: the answer of a function is lost to the exception, and
the reference that it has made with it.

## Contents

- `Machine.Docile`: to make a local reference throws nothing

## Main statements

- `owes_wrap`, `owes_wrapNew`: what is still to be deleted after an object was wrapped
-/

namespace HandleCache.Jni

open HandleCache.Action

namespace Machine

variable {m s : Machine} {r : Reference}

/-- To make a local reference next throws nothing. -/
def Docile (m : Machine) : Prop := ∀ x, m.fate? .newLocalRef ≠ some (.throws x)

theorem Docile.newLocal (docile : m.Docile) (r : Reference) :
    (m.newReference .local r).2.exception = m.exception := by
  rw [exception_newReference, exception_enter]
  split
  · next x struck => exact absurd struck (docile x)
  · rfl

end Machine

section

variable {m : Machine} {b : Binding host}

/-- A class that is looked up is referred to by a new reference; if it is not found there is none. -/
theorem owes_findClass (name : String) :
    Meets (fun s => m.Owes [] s ∧ s.exception = none) (findClass name)
      (fun c s => m.Owes (owing .local c []) s ∧ s.exception = none)
      fun _ s => m.Owes [] s ∧ s.exception = none := by
  refine meets_lookup (T := m.Owes []) (meets_nonNull_cases ?_ ?_ ?_) ?_
  · intro s c ⟨even, _⟩ clear answered
    obtain ⟨i, made, rfl⟩ := Option.map_eq_some_iff.mp answered
    exact ⟨even.makes (made ▸ s.makes_findClass name), clear⟩
  · intro s ⟨even, _⟩ _ null
    have made := s.makes_findClass name
    rw [Option.map_eq_none_iff.mp null] at made
    exact even.of_references made.references_of_null
  · intro s x ⟨even, clear⟩ threw
    exact even.of_references ((s.makes_findClass name).references_of_threw clear threw)
  · intro s told even
    exact ⟨even.of_references (Machine.references_exceptionClear _), rfl⟩

/-- However a class is obtained, the reference to it is the only one that is made. -/
theorem owes_obtainClass (b : Binding host) (clear : m.exception = none) (docile : m.Docile) :
    Meets (· = m) b.obtainClass (fun c s => m.Owes (owing .local c []) s ∧ s.exception = none)
      fun _ s => m.Owes [] s ∧ s.exception = none := by
  have even : m.Owes [] m := .refl m
  have made (r : Reference) : m.Owes (owing .local (m.newReference .local r).1 [])
      (m.newReference .local r).2 ∧ (m.newReference .local r).2.exception = none :=
    ⟨even.makes (m.makes_newReference .local r), (docile.newLocal r).trans clear⟩
  refine b.meets_obtainClass (fun _ => owes_findClass b.className) (fun p _ => .query ?_)
    (fun w _ => .query ?_) (by rintro s rfl; exact ⟨.refl s, clear⟩) fun _ _ h => h
  · rintro s rfl
    exact made p
  · rintro s rfl
    refine ⟨fun c answered => ?_, fun null => ?_⟩
    · obtain ⟨i, answer, rfl⟩ := Option.map_eq_some_iff.mp answered
      exact answer ▸ made w
    · have := made w
      rwa [Option.map_eq_none_iff.mp null] at this

/-! ## Checks and new objects -/

/-- After an instance was tested the class reference is gone again. -/
theorem owes_requireInstance (b : Binding host) (o : Reference) (clear : m.exception = none)
    (docile : m.Docile) :
    Meets (· = m) (b.requireInstance o) (fun _ => m.Owes []) fun _ => m.Owes [] := by
  have obtains : Meets (· = m) b.obtainClass (fun c => m.Owes (owing .local c [])) fun _ => m.Owes [] :=
    (owes_obtainClass b clear docile).conseq (fun _ h => h) (fun _ _ h => h.1) fun _ _ h => h.1
  refine b.meets_requireInstance o obtains fun c => .query fun s h => ?_
  have dropped : m.Owes [] (dropLocal c (s.isInstanceOf o c).2) :=
    Machine.Owes.drop (h.of_references (s.references_isInstanceOf o c))
  split
  · exact dropped
  · exact dropped

/-- After an object was made only the reference to it is to be deleted. -/
theorem owes_create (b : Binding host) (name : String) (args : List (Value Reference))
    (clear : m.exception = none) (docile : m.Docile) :
    Meets (· = m) (b.create name args) (fun o => m.Owes (owing .local o [])) fun _ => m.Owes [] := by
  have start : ∀ s, s = m → m.Owes [] s := fun s same => same ▸ .refl m
  have obtains : Meets (· = m) b.obtainClass
      (fun c s => m.Owes (owing .local c []) s ∧ s.exception = none) fun _ => m.Owes [] :=
    (owes_obtainClass b clear docile).conseq (fun _ h => h) (fun _ _ h => h) fun _ _ h => h.1
  refine b.meets_create name args (fun _ _ _ h => h) (fun _ s _ => start s) obtains
    fun c op id d _ => ?_
  refine meets_nonNull_cases (fun s o h _ answered => ?_) (fun s h _ null => ?_)
    fun s x h threw => ?_
  · obtain ⟨i, made, rfl⟩ := Option.map_eq_some_iff.mp answered
    have both := h.1.makes (made ▸ s.makes_newObject c id args)
    exact Machine.Owes.drop (both.perm (owing_perm ..))
  · have made := s.makes_newObject c id args
    rw [Option.map_eq_none_iff.mp null] at made
    exact Machine.Owes.drop (h.1.of_references made.references_of_null)
  · have same := (s.makes_newObject c id args).references_of_threw h.2 threw
    exact Machine.Owes.drop (h.1.of_references same)

/-! ## Wrapping -/

variable {s : Machine} {due : List (Nat × ReferenceKind)}

/-- An object that is there is held by a new global reference, unless the virtual machine cannot be
had. -/
theorem owes_holdGlobally (fine : ¬ m.Fails .newGlobalRef) (o : Reference) :
    Meets (fun s => m.Owes due s ∧ m.Awaits s ∧ s.target? o ≠ none) (holdGlobally o)
      (fun g s => ∃ i, g = some i ∧ m.Owes ((i, .global) :: due) s) fun _ => m.Owes due := by
  refine .mapError (Meets.bind (F := fun _ s => m.Owes due s ∧ m.Awaits s ∧ s.target? o ≠ none)
    ?_ fun _ => .query ?_)
  · exact (keeps_requireVirtualMachine fun s h =>
      ⟨h.1.of_references rfl, (Machine.stable_awaits m).asked h.2.1, h.2.2⟩).conseq (fun _ h => h)
        (fun _ _ h => h) fun _ _ h => h.1
  · intro s ⟨owes, awaits, there⟩
    have made := owes.makes (s.makes_newReference .global o)
    have fails : s.Fails (Machine.maker .global) ↔ m.Fails .newGlobalRef := awaits.fails_iff rfl
    cases answer : (s.newReference .global o).1 with
    | none =>
      have := (s.newReference_eq_none .global o).mp answer
      rw [fails] at this
      exact absurd this (not_or.mpr ⟨fine, there⟩)
    | some i =>
      rw [answer] at made
      exact ⟨i, rfl, made⟩

/-- When an object was wrapped there is one more reference, by which it is held; when it was not
there is none. -/
theorem owes_wrap (b : Binding host) (o : Reference) (clear : m.exception = none)
    (docile : m.Docile) (fine : ¬ m.Fails .newGlobalRef) :
    Meets (· = m) (wrap b o) (fun g s => ∃ i, g = some i ∧ m.Owes [(i, .global)] s)
      fun _ => m.Owes [] := by
  unfold wrap
  split
  · exact .fail fun s same => same ▸ .refl m
  · have tested := (owes_requireInstance b o clear docile).and
      (meets_requireInstance_target (m := m) b o)
    refine Meets.bind (F := fun _ s => m.Owes [] s ∧ m.Awaits s ∧ s.target? o ≠ none) ?_
      fun _ => owes_holdGlobally fine o
    exact tested.conseq (fun _ same => ⟨same, same⟩) (fun _ _ h => h) fun _ _ h => h.1

/-- The same when the object is made for it: the local reference to it is gone again. -/
theorem owes_wrapNew (b : Binding host) (name : String) (args : List (Value Reference))
    (clear : m.exception = none) (docile : m.Docile) (fine : ¬ m.Fails .newGlobalRef) :
    Meets (· = m) (wrapNew b name args) (fun g s => ∃ i, g = some i ∧ m.Owes [(i, .global)] s)
      fun _ => m.Owes [] := by
  have made := (owes_create b name args clear docile).and
    (meets_create_target (m := m) b name args)
  refine Meets.bracket
    (F := fun o s => m.Owes (owing .local o []) s ∧ m.Awaits s ∧ s.target? o ≠ none) ?_ fun o => ?_
  · exact made.conseq (fun _ same => ⟨same, same⟩) (fun _ _ h => h) fun _ _ h => h.1
  · refine (owes_holdGlobally fine o).conseq (fun _ h => h) ?_ fun _ s h =>
      Machine.Owes.drop h
    rintro _ s ⟨i, rfl, owes⟩
    refine ⟨i, rfl, Machine.Owes.drop (owes.perm ?_)⟩
    exact owing_perm .global .local (some i) o []

end

end HandleCache.Jni

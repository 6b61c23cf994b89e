import HandleCache.Proofs.Jni.Nulls

/-!
# References to objects

What a reference is to is told by the table of references alone, so a function that makes no
reference to an object makes no difference to the objects that references are to. A test against a
class says what is true of the object, and a new object is of the class that it is made with, as
long as neither function goes wrong.

## Contents

- `Machine.CanRefer`: references to what is there can be made
- `Machine.Rests`: nothing has changed that the test of an object depends on

## Main statements

- `Machine.object?_eq_some_iff`: the object that a reference is to
- `Machine.isInstanceOf_eq_true_iff`: what the test of an object says
- `Machine.made_newObject`: what a new object is
- `Machine.later_takeTurns`: no session takes away what another one has made
-/

namespace HandleCache.Jni

namespace Machine

variable {m s t : Machine} {r o : Reference} {c i : Nat}

/-! ## References to objects -/

theorem object?_of_refers {kind : ReferenceKind} (h : m.Refers r kind (.object i)) :
    m.object? r = some i := by
  simp [object?, target?_eq_of_refers_object h]

theorem object?_enter (f : Function) (operands : List Operand) (o : Reference) (m : Machine) :
    (m.enter f operands).2.object? o = m.object? o := by
  unfold object?
  rw [target?_enter]

theorem object?_eq_some_iff : m.object? r = some i ↔ ∃ kind, m.Refers r kind (.object i) :=
  ⟨refers_of_object?, fun ⟨_, made⟩ => object?_of_refers made⟩

/-- A new reference to a class is none to an object. -/
theorem object?_refer_class (kind : ReferenceKind) (c age : Nat) (o : Reference) (m : Machine) :
    (m.refer kind (.classAt c age)).2.object? o = m.object? o := by
  apply Option.ext
  intro i
  rw [object?_eq_some_iff, object?_eq_some_iff]
  constructor
  · rintro ⟨kind', n, made⟩
    cases o with
    | none => cases made
    | some j =>
      refine ⟨kind', n, ?_⟩
      simp only [refer, ReferenceTable.make, ReferenceTable.info?, Option.bind_some,
        List.getElem?_append] at made ⊢
      split at made
      · exact made
      · simp [List.getElem?_singleton] at made
  · rintro ⟨kind', made⟩
    exact ⟨kind', grows_refer m kind _ _ _ _ made⟩

/-- A reference to a class is to no object. -/
theorem Refers.object?_eq_none {kind : ReferenceKind} {age : Nat}
    (h : m.Refers r kind (.classAt c age)) : m.object? r = none := by
  rcases target?_of_refers h with there | gone
  · simp [object?, there]
  · simp [object?, gone]

theorem object?_findClass (name : String) (o : Reference) (m : Machine) :
    (m.findClass name).2.object? o = m.object? o := by
  have entered := object?_enter .findClass [.text name] o m
  unfold findClass
  split
  · next h => rwa [h] at entered
  · next h =>
    rw [h] at entered
    split
    · exact (object?_refer_class _ _ _ o _).trans entered
    · exact entered

theorem object?_exceptionClear (o : Reference) (m : Machine) :
    m.exceptionClear.object? o = m.object? o :=
  object?_enter .exceptionClear [] o m

/-- What is made of a reference that is to no object is not to one either. -/
theorem object?_newReference (kind : ReferenceKind) (none : m.object? r = none) (o : Reference) :
    (m.newReference kind r).2.object? o = m.object? o := by
  have entered := object?_enter (maker kind) [.reference r] o m
  have same := target?_enter (maker kind) [.reference r] r m
  unfold newReference
  split
  · next h => rwa [h] at entered
  · next h =>
    rw [h] at entered same
    rw [same]
    split
    · exact (object?_refer_class _ _ _ o _).trans entered
    · next there =>
      simp [object?, there] at none
    · exact entered

/-- A reference is made to an object that there is a reference to, unless the making goes wrong. -/
theorem refers_newReference_object {kind : ReferenceKind} (kind' : ReferenceKind)
    (h : m.Refers r kind (.object i)) (fine : ¬ m.Fails (maker kind')) :
    (m.newReference kind' r).2.Refers (m.newReference kind' r).1 kind' (.object i) := by
  have there := target?_eq_of_refers_object h
  rw [← enter_fst (maker kind') [.reference r]] at fine
  rw [← target?_enter (maker kind') [.reference r]] at there
  unfold newReference
  split
  · next h => simp [h] at fine
  · next h =>
    rw [h] at there
    rw [there]
    exact refers_refer _ kind' _

/-- An object that is tested against a class is said to be an instance exactly if it is one, unless
the test goes wrong. -/
theorem isInstanceOf_eq_true_iff (h : m.Denotes r c) :
    (m.isInstanceOf o r).1 = true ↔
      ¬ m.Fails .isInstanceOf ∧ m.world.isInstance (m.object? o) c = true := by
  have entered := called_enter .isInstanceOf [.reference o, .reference r] m
  have same := object?_enter .isInstanceOf [.reference o, .reference r] o m
  rw [← enter_fst .isInstanceOf [.reference o, .reference r]]
  unfold isInstanceOf
  split
  · next h => simp [h]
  · next run =>
    rw [run] at entered same
    rw [(h.grows entered.grows).class?_eq, same, entered.world rfl]
    simp [run]

/-- A new object is an instance of the class that it was made of, and was not there before. -/
theorem made_newObject {id : MemberId} {args : List (Value Reference)} {j : Nat}
    (h : m.Denotes r c) (answered : (m.newObject r id args).1 = some j) :
    ∃ i, (m.newObject r id args).2.Refers (some j) .local (.object i) ∧
      m.world.objects.length ≤ i ∧
      (m.newObject r id args).2.world.isInstance (some i) c = true := by
  unfold newObject at answered ⊢
  split at answered
  · cases answered
  · next m' entered =>
    have called := called_of_enter entered
    have denotes : m'.class? r = some c := (h.grows called.grows).class?_eq
    simp only [denotes, Option.getD_some] at answered ⊢
    split at answered
    · next o w made =>
      cases o with
      | none => cases answered
      | some i =>
        obtain ⟨new, isInstance⟩ := World.made_make made
        have grown : m.world.objects.length ≤ m'.world.objects.length := by
          simpa using called.worldGrows.objects.length_le
        refine ⟨i, ?_, Nat.le_trans grown new, isInstance⟩
        rw [← answered]
        exact refers_refer { m' with world := w } .local (.object i)
    · cases answered

/-! ## What the test of an object depends on -/

/-- References to what is there can be made, local ones and global ones. -/
def CanRefer (m : Machine) : Prop := ¬ m.Fails .newLocalRef ∧ ¬ m.Fails .newGlobalRef

/-- Nothing has changed that it depends on what the test of an object says, nor whether the object
can be held globally. -/
structure Rests (m s : Machine) : Prop where
  world : s.world = m.world
  objects (o : Reference) : s.object? o = m.object? o
  test : s.fate? .isInstanceOf = m.fate? .isInstanceOf
  awaits : m.Awaits s

theorem Rests.refl (m : Machine) : m.Rests m := ⟨rfl, fun _ => rfl, rfl, .refl m⟩

/-- A function was called that makes no reference to an object. -/
theorem Rests.called {f : Function} {operands : List Operand} (h : m.Rests s)
    (call : s.Called f operands t) (runs : f.runs = false) (passing : f.lasting = false)
    (other : f.name ≠ Function.isInstanceOf.name)
    (objects : ∀ o, t.object? o = s.object? o) : m.Rests t where
  world := (call.world runs).trans h.world
  objects o := (objects o).trans (h.objects o)
  test := (call.fate?_eq other).trans h.test
  awaits := (stable_awaits m).called h.awaits call passing

theorem Rests.note (h : m.Rests s) (e : LogEntry) :
    m.Rests { s with journal := s.journal ++ [e] } :=
  { h with }

theorem Rests.findClass (h : m.Rests s) (name : String) : m.Rests (s.findClass name).2 :=
  h.called (s.called_findClass name) rfl rfl (by decide) fun o => s.object?_findClass name o

theorem Rests.newLocalRef (h : m.Rests s) (none : s.object? r = none) :
    m.Rests (s.newReference .local r).2 :=
  h.called (s.called_newReference .local r) rfl rfl (by decide) (s.object?_newReference .local none)

theorem Rests.exceptionClear (h : m.Rests s) : m.Rests s.exceptionClear :=
  h.called s.called_exceptionClear rfl rfl (by decide) fun o => s.object?_exceptionClear o

/-! ## Sessions -/

theorem later_takeTurn (m : Machine) (turn : Turn) : m.Later (m.takeTurn turn) := by
  cases turn with
  | happens h => exact m.later_afterOne h
  | session pending => exact Later.of_eq rfl rfl

theorem later_takeTurns (m : Machine) (turns : List Turn) : m.Later (m.takeTurns turns) := by
  induction turns generalizing m with
  | nil => exact Later.refl m
  | cons first rest ih => exact (m.later_takeTurn first).trans (ih _)

end Machine

end HandleCache.Jni

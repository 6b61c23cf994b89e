import HandleCache.Proofs.Jni.References

/-!
# What befalls functions

What is queued under the name of a function decides whether its next call goes wrong, and no other
function takes it off. So what is to befall a function that is called once can be told in advance.

## Contents

- `Machine.fate?`: what is to befall a function next
- `Machine.Fails`: its next call goes wrong
- `Machine.Awaits`: the functions that make lasting references still have the same before them
- `solitary`: a machine with one class, to try this out on

## Main statements

- `Machine.exception_enter`: what is pending after a call
- `Machine.newReference_eq_none`: a new reference is null if its making goes wrong, or there is
  nothing to refer to
-/

namespace HandleCache.Jni

open HandleCache.Action

namespace Machine

variable {m₀ m m' : Machine} {f : Function} {operands : List Operand}

/-! ## What is queued -/

/-- What is queued first for a function. -/
def fate? (m : Machine) (f : Function) : Option Fate := (next f.name m.queue).1

theorem mem_of_next {name : String} {fate : Fate} {queue : List (String × Fate)}
    (h : (next name queue).1 = some fate) : (name, fate) ∈ queue := by
  induction queue with
  | nil => cases h
  | cons first rest ih =>
    obtain ⟨n, fate'⟩ := first
    by_cases same : n = name
    · simp only [next, same, if_true, Option.some.injEq] at h
      simp [same, h]
    · simp only [next, same, if_false] at h
      exact List.mem_cons_of_mem _ (ih h)

/-- Nothing is put in when something is taken off. -/
theorem mem_of_mem_next {name : String} {entry : String × Fate} {queue : List (String × Fate)}
    (h : entry ∈ (next name queue).2) : entry ∈ queue := by
  induction queue with
  | nil => cases h
  | cons first rest ih =>
    obtain ⟨n, fate⟩ := first
    by_cases same : n = name
    · simp only [next, same, if_true] at h
      exact List.mem_cons_of_mem _ h
    · simp only [next, same, if_false, List.mem_cons] at h
      exact List.mem_cons.mpr (h.imp_right ih)

/-- What is queued for one function is left when it is taken off for another. -/
theorem next_next_of_ne {name other : String} (h : other ≠ name) (queue : List (String × Fate)) :
    (next name (next other queue).2).1 = (next name queue).1 := by
  induction queue with
  | nil => rfl
  | cons first rest ih =>
    obtain ⟨n, fate⟩ := first
    by_cases same : n = other
    · simp [next, same, h]
    · by_cases found : n = name
      · simp [next, found, h.symm]
      · simp [next, same, found, ih]

/-- A call of one function takes nothing off that is queued for another. -/
theorem Called.fate?_eq {g : Function} (call : m.Called f operands m') (other : f.name ≠ g.name) :
    m'.fate? g = m.fate? g := by
  rw [fate?, call.queue]
  exact next_next_of_ne other m.queue

/-- A call leaves the exception pending that is queued for it, and otherwise what was pending. -/
theorem exception_enter (f : Function) (operands : List Operand) (m : Machine) :
    (m.enter f operands).2.exception =
      match m.fate? f with
      | some (.throws x) => some x
      | _ => m.exception := by
  unfold enter strike fate?
  dsimp only
  split <;> simp_all [raise]

theorem exception_newReference (kind : ReferenceKind) (r : Reference) (m : Machine) :
    (m.newReference kind r).2.exception = (m.enter (maker kind) [.reference r]).2.exception := by
  unfold newReference
  split
  · next h => rw [h]
  · next h =>
    rw [h]
    split <;> rfl

/-- A call goes wrong if that is queued for it. -/
def Fails (m : Machine) (f : Function) : Prop :=
  ∃ fate, m.fate? f = some fate ∧ fate ≠ .pass

theorem enter_fst (f : Function) (operands : List Operand) (m : Machine) :
    (m.enter f operands).1 = true ↔ m.Fails f := by
  unfold enter strike Fails fate?
  dsimp only
  split
  · next none => simp [none]
  · next pass => simp [pass]
  · next null => simp [null]
  · next throws => simp [throws]

theorem target?_enter (f : Function) (operands : List Operand) (r : Reference) (m : Machine) :
    (m.enter f operands).2.target? r = m.target? r := by
  unfold enter strike
  dsimp only
  split <;> rfl

/-- Only what is missing is not referred to, unless the making of references goes wrong. -/
theorem newReference_eq_none (kind : ReferenceKind) (r : Reference) (m : Machine) :
    (m.newReference kind r).1 = none ↔ m.Fails (maker kind) ∨ m.target? r = none := by
  rw [← enter_fst (maker kind) [.reference r], ← target?_enter (maker kind) [.reference r]]
  unfold newReference
  split
  · next h => simp [h]
  · next h =>
    simp only [h, Bool.false_eq_true, false_or]
    split <;> simp_all [refer, ReferenceTable.make]

/-! ## What is still to come -/

/-- What is to befall the functions that make lasting references is the same as in `m`. -/
def Awaits (m m' : Machine) : Prop :=
  ∀ f : Function, f.lasting = true → m'.fate? f = m.fate? f

theorem Awaits.refl (m : Machine) : m.Awaits m := fun _ _ => rfl

theorem Awaits.fails_iff (h : m.Awaits m') (lasts : f.lasting = true) :
    m'.Fails f ↔ m.Fails f := by
  rw [Fails, h f lasts, Fails]

/-- The functions that make lasting references have names of their own. -/
theorem name_ne_of_lasting {g : Function} (h : f.lasting = false) (lasts : g.lasting = true) :
    f.name ≠ g.name := by
  have named : f.name ≠ "NewGlobalRef" ∧ f.name ≠ "NewWeakGlobalRef" := by
    cases f with
    | newGlobalRef | newWeakGlobalRef => cases h
    | callMethod k | callStaticMethod k | getField k | getStaticField k =>
      rcases k with ⟨⟨⟩⟩ | _ <;> decide
    | _ => decide
  cases g with
  | newGlobalRef => exact named.1
  | newWeakGlobalRef => exact named.2
  | _ => cases lasts

/-- No other function changes what is to befall them. -/
theorem stable_awaits (m₀ : Machine) : Stable m₀.Awaits where
  called {f operands m m'} h call passing g lasts := by
    rw [← h g lasts]
    exact call.fate?_eq (name_ne_of_lasting passing lasts)
  note _ h := h
  asked {m} h g lasts := by
    rw [← h g lasts]
    exact next_next_of_ne (name_ne_of_lasting (f := .getVirtualMachine) rfl lasts) m.queue

end Machine

/-! ## One class -/

/-- A machine with one class and an instance of it, to which there is a reference, and with what is
queued. The class has a static field. -/
def solitary (queue : List (String × Fate)) : Machine where
  world := ⟨[{ name := "a/A", parent := none, members := [⟨"x", "I", true, .constant (.int 7)⟩] }],
    [⟨0, .void⟩]⟩
  references := [⟨.global, .object 0, 0⟩]
  queue

end HandleCache.Jni

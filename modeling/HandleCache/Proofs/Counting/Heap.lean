import HandleCache.Proofs.Counting.Layout
import HandleCache.Proofs.Requests.Agreement

/-!
# What does not touch the heap

The heap of a counting machine is what a program can tell by calls: its classes and objects, and how
often it was called. What lies in front of a call does not touch it, and how a class reference is
obtained makes no difference to it.

## Contents

- `Machine.SameHeap`: machines with the same classes, objects and count of calls
- `Yields`: an action that answers and leaves the heap as it was
- `Machine.price`: how many class look-ups it takes to obtain a class

## Main statements

- `IsCall.agree_sameHeap`: a call answers alike on machines with the same heap
- `Home.obtainClass_eq`: how a binding at home obtains its class
-/

namespace HandleCache.Counting

open HandleCache.Action

/-! ## Heaps -/

/-- The machines have the same classes and objects, and as many calls were made on them. -/
structure Machine.SameHeap (m m' : Machine) : Prop where
  classes : m.classes = m'.classes
  objects : m.objects = m'.objects
  calls : m.calls = m'.calls

namespace Machine.SameHeap

variable {m m' m'' : Machine}

theorem refl (m : Machine) : m.SameHeap m := ⟨rfl, rfl, rfl⟩

theorem symm (h : m.SameHeap m') : m'.SameHeap m := ⟨h.classes.symm, h.objects.symm, h.calls.symm⟩

theorem trans (h : m.SameHeap m') (h' : m'.SameHeap m'') : m.SameHeap m'' :=
  ⟨h.classes.trans h'.classes, h.objects.trans h'.objects, h.calls.trans h'.calls⟩

theorem layout (h : m.SameHeap m') : m.layout = m'.layout := by
  simp only [Machine.layout, h.classes]

end Machine.SameHeap

theorem same_join {ε α : Type} {p q r : Except ε α × Machine} (h : Same Machine.SameHeap p r)
    (h' : Same Machine.SameHeap q r) : Same Machine.SameHeap p q :=
  ⟨h.answer.trans h'.answer.symm, h.state.trans h'.state.symm⟩

/-- A call answers alike on machines with the same heap. -/
theorem IsCall.agree_sameHeap {α : Type} {x : Machine.Step α} (call : IsCall x) :
    Agree Machine.SameHeap x x := by
  intro m m' same
  rw [call m m rfl rfl, call m m' same.classes.symm same.objects.symm]
  exact ⟨rfl, same.classes, rfl, congrArg (· + 1) same.calls⟩

/-! ## What comes before a call -/

/-- The action answers `v` and leaves the heap as it was. -/
abbrev Yields {ε α : Type} (x : Action Machine ε α) (m : Machine) (v : α) : Prop :=
  Same Machine.SameHeap (x m) (.ok v, m)

section

variable {ε ε' α β : Type} {x : Action Machine ε α} {f : α → Action Machine ε β} {m : Machine}
  {v : α} {r : Except ε β × Machine}

theorem Yields.of_eq {m' : Machine} (run : x m = (.ok v, m')) (heap : m'.SameHeap m) :
    Yields x m v := by
  constructor
  · rw [run]
  · rwa [run]

theorem Yields.exists_eq (h : Yields x m v) : ∃ m', x m = (.ok v, m') ∧ m'.SameHeap m := by
  obtain ⟨answer, heap⟩ := h
  exact ⟨(x m).2, Prod.ext answer rfl, heap⟩

/-- What an action yields on the same heap. -/
theorem Yields.same (h : Yields x m v) {m₀ : Machine} (heap : m.SameHeap m₀) :
    Same Machine.SameHeap (x m) (.ok v, m₀) :=
  ⟨h.answer, h.state.trans heap⟩

theorem Yields.mapError {g : ε → ε'} (h : Yields x m v) : Yields (Action.mapError g x) m v := by
  obtain ⟨m', run, heap⟩ := h.exists_eq
  simp only [Yields, Action.mapError, run]
  exact ⟨rfl, heap⟩

/-- What yields an answer may come first. -/
theorem Yields.same_bind (h : Yields x m v)
    (next : ∀ m', m'.SameHeap m → Same Machine.SameHeap (f v m') r) :
    Same Machine.SameHeap ((x >>= f) m) r := by
  obtain ⟨m', run, heap⟩ := h.exists_eq
  rw [bind_of_ok run]
  exact next m' heap

/-- So may a resource that is no part of the heap. -/
theorem Yields.same_bracket {release : α → Machine → Machine} (h : Yields x m v)
    (released : ∀ m, (release v m).SameHeap m)
    (next : ∀ m', m'.SameHeap m → Same Machine.SameHeap (f v m') r) :
    Same Machine.SameHeap (Action.bracket x release f m) r := by
  obtain ⟨m', run, heap⟩ := h.exists_eq
  rw [bracket_of_ok run]
  obtain ⟨answer, used⟩ := next m' heap
  exact ⟨answer, (released _).trans used⟩

end

/-! ## The class -/

/-- Whether weak references to the class are cleared. -/
def Machine.isUnloaded (m : Machine) (c : Nat) : Bool := m.classes[c]?.any (·.unloaded)

/-- How many class look-ups it takes to obtain the class of a binding: none from what yields it, and
one otherwise. -/
def Machine.price (m : Machine) (b : Binding host) : Nat :=
  match b.retained with
  | .nothing => 1
  | .weakly c => if m.isUnloaded c then 1 else 0
  | .pinned _ => 0

section

variable {d : Declaration} {b : Binding host} {c : Nat} {m : Machine}

theorem Machine.exists_of_class? {name : String} (h : m.layout.class? name = some c) :
    ∃ info, m.classes[c]? = some info := by
  rw [class?_layout] at h
  obtain ⟨bound, -⟩ := List.findIdx?_eq_some_iff_getElem.mp h
  exact ⟨m.classes[c], List.getElem?_eq_getElem bound⟩

theorem Kept.retained_cases {r : Retention} {k : Retained host} (h : Kept c r k) :
    k = .nothing ∨ k = .weakly c ∨ k = .pinned c := by
  cases h with
  | nothing => exact .inl rfl
  | weakly => exact .inr (.inl rfl)
  | pinned => exact .inr (.inr rfl)

theorem Home.className (home : Home d m.layout c b) : b.className = d.className := by
  rw [Binding.className, home.declaration]

theorem Home.lookupAgain_eq (home : Home d m.layout c b) :
    ∃ j, b.lookupAgain m = (.ok c, { m with
      classLookups := m.classLookups + 1
      liveClasses := m.liveClasses + 1
      journal := j }) := by
  let told : Machine := host.note (.lookingUpAgain b.className) m
  have found : told.layout.class? b.className = some c := home.className ▸ home.class?
  refine ⟨told.journal, ?_⟩
  show Host.classNamed (H := host) b.className told = _
  have run : host.findClass b.className told = _ := Machine.findClass_of_class? found
  simp only [Host.classNamed, Action.mapError, run]
  rfl

/-- A binding at home obtains its class, whatever it keeps of it. Nothing of the machine changes but
the counts of class look-ups and class references, and what the journal has been told. -/
theorem Home.obtainClass_eq (home : Home d m.layout c b) :
    ∃ j, b.obtainClass m = (.ok c, { m with
      classLookups := m.classLookups + m.price b
      liveClasses := m.liveClasses + 1
      journal := j }) := by
  rcases home.kept.retained_cases with kept | kept | kept
  · obtain ⟨j, again⟩ := home.lookupAgain_eq
    refine ⟨j, (Binding.obtainClass_of_nothing kept).trans (again.trans ?_)⟩
    simp [Machine.price, kept]
  · obtain ⟨info, there⟩ := Machine.exists_of_class? home.class?
    by_cases gone : info.unloaded = true
    · let told : Machine := host.note (.weakCleared b.className) m
      have home' : Home d told.layout c b := home
      obtain ⟨j, again⟩ := home'.lookupAgain_eq
      refine ⟨j, ?_⟩
      rw [Binding.obtainClass_of_cleared kept (Machine.strengthen_of_unloaded there gone), again]
      simp [Machine.price, Machine.isUnloaded, kept, there, gone, told, host]
    · refine ⟨m.journal, ?_⟩
      rw [Binding.obtainClass_of_weakly kept (Machine.strengthen_of_loaded there gone)]
      simp [Machine.price, Machine.isUnloaded, kept, there, gone]
  · have run : host.classOfPin c m = (.ok c, { m with liveClasses := m.liveClasses + 1 }) := rfl
    refine ⟨m.journal, (Binding.obtainClass_of_pinned kept run).trans ?_⟩
    simp [Machine.price, kept]

theorem Home.yields_obtainClass (home : Home d m.layout c b) : Yields b.obtainClass m c := by
  obtain ⟨j, run⟩ := home.obtainClass_eq
  exact .of_eq run ⟨rfl, rfl, rfl⟩

theorem yields_classNamed (h : m.layout.class? d.className = some c) :
    Yields (Host.classNamed (H := host) d.className) m c := by
  apply Yields.mapError
  exact .of_eq (Machine.findClass_of_class? h) ⟨rfl, rfl, rfl⟩

end

end HandleCache.Counting

import HandleCache.Binding.Progress
import HandleCache.Proofs.Jni.Fates
import HandleCache.Proofs.Jni.Identity

/-!
# Null references

To make a reference can fail, and then null is answered. A weak reference that cannot be made fails
the resolution, and a local reference that cannot be made of one is as good as a class that is gone.
A global reference that cannot be made is taken as it is: it is kept as a pin, or an object is held
by it, and what is made of a null pin is a null class reference.

## Contents

- `Entry.classReference?`: the class reference that a call hands over
- `Lasting`: what a resolution keeps of the class
- `NullClass`: the class reference that a binding obtains is null
- `Handing`: which of the class references are null that were handed over
- `Obtained`: and which one is that is out
- `Nulls`: where null occurs when a binding is used

## Main statements

- `null_references`: a reference is null exactly if it is a global one that could not be made, or
  was to be made of a pin that is null or when no local one could be made
- `null_pin_handed_over`: a null pin is kept, and handed over as a class
-/

namespace HandleCache.Jni

open HandleCache.Action

/-! ## References to what is there -/

namespace Machine

variable {m : Machine} {r o : Reference}

theorem target?_of_denotes {c : Nat} (h : m.Denotes r c) : m.target? r ≠ none := by
  obtain ⟨age, n, made⟩ := h
  simp [target?, made]

theorem target?_eq_of_refers_object {kind : ReferenceKind} {i : Nat}
    (h : m.Refers r kind (.object i)) : m.target? r = some (.object i) := by
  obtain ⟨n, made⟩ := h
  cases kind <;> simp [target?, made]

theorem target?_of_refers_object {kind : ReferenceKind} {i : Nat}
    (h : m.Refers r kind (.object i)) : m.target? r ≠ none := by
  simp [target?_eq_of_refers_object h]

/-- A pinned class does not go away. -/
theorem target?_of_pin {c age : Nat} (h : m.Refers r .global (.classAt c age)) :
    m.target? r ≠ none := by
  obtain ⟨n, made⟩ := h
  simp [target?, made]

/-- What is said to be an instance is an object. -/
theorem refers_of_isInstanceOf (said : (m.isInstanceOf o r).1 = true) :
    ∃ kind i, (m.isInstanceOf o r).2.Refers o kind (.object i) := by
  unfold isInstanceOf at said ⊢
  split at said
  · cases said
  · next m' entered =>
    cases stands : m'.class? r with
    | none => simp [stands] at said
    | some c =>
      simp only [stands] at said ⊢
      cases found : m'.object? o with
      | none => simp [found, World.isInstance, World.objectLineage] at said
      | some i =>
        obtain ⟨kind, made⟩ := refers_of_object? found
        exact ⟨kind, i, made⟩

/-- A new object is there. -/
theorem refers_newObject {id : MemberId} {args : List (Value Reference)} {j : Nat}
    (answered : (m.newObject r id args).1 = some j) :
    ∃ i, (m.newObject r id args).2.Refers (some j) .local (.object i) := by
  unfold newObject at answered ⊢
  split at answered
  · cases answered
  · next m' entered =>
    split at answered
    · next o w made =>
      cases o with
      | none => cases answered
      | some i =>
        refine ⟨i, ?_⟩
        rw [← answered]
        exact refers_refer { m' with world := w } .local (.object i)
    · cases answered

end Machine

/-! ## Lasting references -/

/-- What a resolution keeps of the class: a weak reference that could be made, or a pin, which is
null if it could not be made. -/
inductive Lasting (m : Machine) : Retention → Retained host → Prop where
  | drop : Lasting m .drop .nothing
  | weak {i : Nat} : ¬ m.Fails .newWeakGlobalRef → Lasting m .weak (.weakly (some i : Reference))
  | global {p : Reference} : (p = none ↔ m.Fails .newGlobalRef) → Lasting m .global (.pinned p)

theorem Lasting.pinned_iff {m : Machine} {r : Retention} {p : Reference}
    (h : Lasting m r (.pinned p)) : p = none ↔ m.Fails .newGlobalRef := by
  cases h with
  | global null => exact null

section

variable {m s : Machine}

/-- A global reference to what is there is null if it cannot be made. -/
theorem meets_makeGlobal_of_target (r : Reference) :
    Meets (fun s => m.Awaits s ∧ s.target? r ≠ none) (makeGlobal r)
      (fun g _ => g = none ↔ m.Fails .newGlobalRef) fun _ _ => True := by
  refine Meets.bind (F := fun _ s => m.Awaits s ∧ s.target? r ≠ none) ?_ fun _ => .query ?_
  · exact (keeps_requireVirtualMachine fun s h => ⟨(Machine.stable_awaits m).asked h.1, h.2⟩).conseq
      (fun _ h => h) (fun _ _ h => h) fun _ _ _ => trivial
  · intro s ⟨awaits, there⟩
    have fails : s.Fails (Machine.maker .global) ↔ m.Fails .newGlobalRef := awaits.fails_iff rfl
    rw [Machine.newReference_eq_none, fails]
    exact or_iff_left there

theorem meets_makeWeak_of_awaits (r : Reference) :
    Meets m.Awaits (makeWeak r)
      (fun w _ => ∃ i, w = some i ∧ ¬ m.Fails .newWeakGlobalRef) fun _ _ => True := by
  refine Meets.bind (F := fun _ => m.Awaits) ?_ fun _ => ?_
  · exact (Machine.stable_awaits m).keeps_machine.conseq (fun _ h => h) (fun _ _ h => h)
      fun _ _ _ => trivial
  · cases r with
    | none => exact .fail fun _ _ => trivial
    | some i =>
      refine meets_nonNull (fun s w awaits answered => ?_) fun _ _ => trivial
      obtain ⟨j, made, rfl⟩ := Option.map_eq_some_iff.mp answered
      have fails : s.Fails (Machine.maker .weak) ↔ m.Fails .newWeakGlobalRef := awaits.fails_iff rfl
      refine ⟨j, rfl, fun failed => ?_⟩
      have null := (Machine.newReference_eq_none .weak (some i) s).mpr (.inl (fails.mpr failed))
      cases made.symm.trans null

/-- The class is referred to, and what is to befall lasting references is as in `m`. -/
def Holding (m : Machine) (r : Reference) (s : Machine) : Prop :=
  m.Awaits s ∧ ∃ c, s.Denotes r c

theorem stable_holding (m : Machine) (r : Reference) : Stable (Holding m r) where
  called h call passing :=
    ⟨(Machine.stable_awaits m).called h.1 call passing, h.2.imp fun _ d => d.grows call.grows⟩
  note _ h := h
  asked h := ⟨(Machine.stable_awaits m).asked h.1, h.2⟩

theorem meets_classNamed_holding (name : String) :
    Meets (· = m) (Host.classNamed (H := host) name) (Holding m) fun _ _ => True := by
  refine .mapError (meets_lookup (T := fun _ => True) (meets_nonNull ?_ fun _ _ => trivial)
    fun _ _ _ => trivial)
  rintro s r rfl answered
  obtain ⟨i, found, rfl⟩ := Option.map_eq_some_iff.mp answered
  obtain ⟨c, _, denotes⟩ := Machine.denotes_findClass found
  refine ⟨?_, c, denotes⟩
  exact (Machine.stable_awaits s).called (.refl s) (s.called_findClass name) rfl

theorem meets_resolve_lasting (m : Machine) (d : Declaration) :
    Meets (· = m) (Binding.resolve host d)
      (fun b _ => Lasting m d.retention b.retained) fun _ _ => True := by
  refine (Binding.meets_resolve (H := host) (I := Holding m)
    (F := fun kept _ => Lasting m d.retention kept) (E := fun _ _ => True) d (fun _ _ _ => trivial)
    (meets_classNamed_holding d.className) (fun c plans => ?_) (fun c => ?_)
    (fun e c s h => (stable_holding m c).note e h) fun _ _ _ h => h).conseq (fun _ h => h)
    (fun _ _ h => h.2) fun _ _ _ => trivial
  · exact ((stable_holding m c).keeps_lookupOperations c d.className plans).conseq (fun _ h => h)
      (fun _ _ h => h) fun _ _ _ => trivial
  · refine Host.meets_retain (H := host) c d (fun dropped _ _ => ?_) (fun weak => ?_)
      fun global => ?_
    · rw [dropped]
      exact .drop
    · refine (meets_makeWeak_of_awaits c).conseq (fun _ h => h.1) (fun w s h => ?_)
        fun _ _ _ => trivial
      obtain ⟨i, rfl, fine⟩ := h
      rw [weak]
      exact .weak fine
    · refine (meets_makeGlobal_of_target c).conseq (fun _ h => ⟨h.1, ?_⟩) (fun p s h => ?_)
        fun _ _ _ => trivial
      · exact h.2.elim fun _ denotes => Machine.target?_of_denotes denotes
      · rw [global]
        exact .global h

/-! ## What is wrapped -/

theorem meets_obtainClass_awaits (b : Binding host) :
    Meets (· = m) b.obtainClass (fun _ => m.Awaits) fun _ _ => True :=
  ((Machine.stable_awaits m).routine.service b).obtainClass.conseq
    (fun _ same => same ▸ .refl m) (fun _ _ h => h) fun _ _ _ => trivial

/-- A class reference is given back. -/
theorem Machine.Awaits.release (h : m.Awaits s) (c : Reference) : m.Awaits (dropLocal c s) :=
  (Machine.stable_awaits m).called h (s.called_deleteReference .local c) rfl

theorem meets_requireInstance_target (b : Binding host) (o : Reference) :
    Meets (· = m) (b.requireInstance o) (fun _ s => m.Awaits s ∧ s.target? o ≠ none)
      fun _ _ => True := by
  refine Meets.bind (F := fun answer s => m.Awaits s ∧ (answer = true → s.target? o ≠ none))
    ((meets_obtainClass_awaits b).bracket fun c => .mapError (.query fun s awaits => ?_))
    fun answer => ?_
  · have tested := (Machine.stable_awaits m).called awaits (s.called_isInstanceOf o c) rfl
    refine ⟨tested.release c, fun said => ?_⟩
    obtain ⟨kind, i, made⟩ := Machine.refers_of_isInstanceOf said
    have dropped := Machine.called_deleteReference .local c (s.isInstanceOf o c).2
    exact Machine.target?_of_refers_object (dropped.grows o kind (.object i) made)
  · cases answer with
    | true => exact .pure fun _ h => ⟨h.1, h.2 rfl⟩
    | false => exact .fail fun _ _ => trivial

theorem meets_create_target (b : Binding host) (name : String) (args : List (Value Reference)) :
    Meets (· = m) (b.create name args) (fun o s => m.Awaits s ∧ s.target? o ≠ none)
      fun _ _ => True := by
  refine .ofExcept_bind (fun (op, id, d) _ => ?_) fun _ _ _ _ => trivial
  refine Meets.bind (F := fun _ => (· = m)) ?_ fun _ => ?_
  · exact (b.keeps_requireArguments op d args fun _ _ _ h => h).conseq (fun _ h => h)
      (fun _ _ h => h) fun _ _ _ => trivial
  · refine (meets_obtainClass_awaits b).bracket fun c =>
      .mapError (meets_nonNull ?_ fun _ _ => trivial)
    intro s o awaits answered
    obtain ⟨j, found, rfl⟩ := Option.map_eq_some_iff.mp answered
    obtain ⟨i, made⟩ := Machine.refers_newObject found
    have made' := (Machine.stable_awaits m).called awaits (s.called_newObject c id args) rfl
    have dropped := Machine.called_deleteReference .local c (s.newObject c id args).2
    exact ⟨made'.release c, Machine.target?_of_refers_object (dropped.grows _ _ _ made)⟩

/-- An object that is wrapped is held by null if it cannot be held globally. -/
theorem meets_wrap_lasting (b : Binding host) (o : Reference) :
    Meets (· = m) (wrap b o) (fun g _ => g = none ↔ m.Fails .newGlobalRef) fun _ _ => True := by
  unfold wrap
  split
  · exact .fail fun _ _ => trivial
  · exact (meets_requireInstance_target b o).bind fun _ => .mapError (meets_makeGlobal_of_target o)

theorem meets_wrapNew_lasting (b : Binding host) (name : String) (args : List (Value Reference)) :
    Meets (· = m) (wrapNew b name args) (fun g _ => g = none ↔ m.Fails .newGlobalRef)
      fun _ _ => True :=
  (meets_create_target b name args).bracket fun o => .mapError (meets_makeGlobal_of_target o)

end

/-! ## Class references that are handed over -/

/-- The class reference that a call hands over. -/
def Entry.classReference? (e : Entry) : Option Reference :=
  match e.function, e.operands with
  | .isInstanceOf, [_, .reference c] => some c
  | .callStaticMethod _, .reference c :: _ => some c
  | .newObject, .reference c :: _ => some c
  | .getStaticField _, .reference c :: _ => some c
  | _, _ => none

/-- The class reference that the binding obtains is null: it is made of a pin that is null, or it
cannot be made. -/
def NullClass (b : Binding host) (m : Machine) : Prop :=
  ∃ p : Reference, b.retained = .pinned p ∧ (p = none ∨ m.Fails .newLocalRef)

/-- Of the class references that were handed over since `m`, each is null if `null` holds, and not
otherwise. -/
def Handing (m : Machine) (null : Prop) (s : Machine) : Prop :=
  m.Calls (fun e => ∀ c, e.classReference? = some c → (c = none ↔ null)) s

/-- And this class reference, which is out, is null or not as they are. -/
def Obtained (m : Machine) (null : Prop) (c : Reference) (s : Machine) : Prop :=
  Handing m null s ∧ (c = none ↔ null)

section

variable {m s t : Machine} {null : Prop} {v : Outlook} {b : Binding host}

/-- A call hands the class reference over that is out. -/
theorem Obtained.handsOver {c : Reference} {f : Function} {operands : List Operand}
    (h : Obtained m null c s) (call : s.Called f operands t)
    (hands : (Entry.mk f operands s.exception.isSome).classReference? = some c) :
    Obtained m null c t := by
  refine ⟨h.1.called call fun c' hands' => ?_, h.2⟩
  cases hands.symm.trans hands'
  exact h.2

/-- A pin that is not null is to a class that is there. -/
theorem Bound.target?_of_pinned (bound : Bound m v b) {p : Reference}
    (kept : b.retained = .pinned p) : m.target? p = none ↔ p = none := by
  have retains := bound.retains
  rw [kept] at retains
  rcases retains.of_pinned with rfl | ⟨_, made⟩
  · exact iff_of_true rfl rfl
  · exact iff_of_false (Machine.target?_of_pin made) made.ne_none

/-- What is made of a pin. -/
theorem Bound.newReference_pinned (bound : Bound m v b) {p : Reference}
    (kept : b.retained = .pinned p) : (m.newReference .local p).1 = none ↔ NullClass b m := by
  rw [Machine.newReference_eq_none, bound.target?_of_pinned kept]
  constructor
  · exact fun null => ⟨p, kept, null.symm⟩
  · rintro ⟨p', kept', null⟩
    cases kept.symm.trans kept'
    exact null.symm

/-- What a binding obtains is null or not as the binding and the machine have it, and this is what it
hands over. -/
theorem service_handing (bound : Bound m v b) :
    b.Service (· = m) (Obtained m (NullClass b m)) (Handing m (NullClass b m)) where
  begun s same := same ▸ Machine.Calls.refl m _
  isNull _ _ same := same
  accepts _ _ _ same := same
  obtainClass := by
    refine b.meets_obtainClass (fun unpinned => ?_) (fun p kept => ?_) (fun w kept => ?_)
      (fun s same => same ▸ Machine.Calls.refl m _) fun _ _ h => h
    · have none : ¬ NullClass b m := fun ⟨p, kept, _⟩ => unpinned p kept
      refine meets_lookup (T := Handing m (NullClass b m)) (meets_nonNull ?_ ?_) ?_
      · intro s c known answered
        obtain ⟨i, _, rfl⟩ := Option.map_eq_some_iff.mp answered
        exact ⟨known.called (s.called_findClass b.className) nofun, by simp [none]⟩
      · exact fun s known => known.called (s.called_findClass b.className) nofun
      · intro s told known
        have noted : Handing m (NullClass b m) { s with journal := s.journal ++ [told] } := known
        exact noted.called (Machine.called_exceptionClear _) nofun
    · refine .query ?_
      rintro s rfl
      exact ⟨(Machine.Calls.refl s _).called (s.called_newReference .local p) nofun,
        bound.newReference_pinned kept⟩
    · refine .query ?_
      rintro s rfl
      have known : Handing s (NullClass b s) (s.newReference .local w).2 :=
        (Machine.Calls.refl s _).called (s.called_newReference .local w) nofun
      refine ⟨fun c answered => ⟨known, ?_⟩, fun _ => known⟩
      have none : ¬ NullClass b s := fun ⟨p, kept', _⟩ => by cases kept.symm.trans kept'
      obtain ⟨i, _, rfl⟩ := Option.map_eq_some_iff.mp answered
      simp [none]
  isInstance o c := .query fun s known => known.handsOver (s.called_isInstanceOf o c) rfl
  callStatic c id d args := by
    have kept : ∀ s, Obtained m (NullClass b m) c s → _ := fun s known =>
      known.handsOver (s.called_callStatic c id (Kind.ofType d.result) args) rfl
    exact meets_checked kept kept
  newObject c id d args := by
    have kept : ∀ s, Obtained m (NullClass b m) c s → _ := fun s known =>
      known.handsOver (s.called_newObject c id args) rfl
    exact meets_nonNull (fun s _ known _ => kept s known) kept
  readStatic c id d := meets_readAs fun s known =>
    known.handsOver (s.called_getStaticField c id (Kind.ofType d.type)) rfl
  releaseClass c s known := known.1.called (s.called_deleteReference .local c) nofun
  callMethod o id d args := by
    have kept : ∀ s, Handing m (NullClass b m) s → _ := fun s known =>
      known.called (s.called_callMethod o id (Kind.ofType d.result) args) nofun
    exact meets_checked kept kept
  readField o id d := meets_readAs fun s known =>
    known.called (s.called_getField o id (Kind.ofType d.type)) nofun

theorem keeps_handing_holdGlobally (o : Reference) : Keeps (Handing m null) (holdGlobally o) :=
  .mapError ((keeps_requireVirtualMachine fun _ h => h).bind fun _ => .query fun s h =>
    h.called (s.called_newReference .global o) nofun)

theorem handing_wrap (bound : Bound m v b) (o : Reference) :
    Meets (· = m) (wrap b o) (fun _ => Handing m (NullClass b m))
      fun _ => Handing m (NullClass b m) := by
  unfold wrap
  split
  · exact .fail (service_handing bound).begun
  · exact ((service_handing bound).requireInstance o).bind fun _ => keeps_handing_holdGlobally o

theorem handing_wrapNew (bound : Bound m v b) (name : String) (args : List (Value Reference)) :
    Meets (· = m) (wrapNew b name args) (fun _ => Handing m (NullClass b m))
      fun _ => Handing m (NullClass b m) := by
  have dropped : ∀ (o : Reference) s, Handing m (NullClass b m) s →
      Handing m (NullClass b m) (dropLocal o s) :=
    fun o s h => h.called (s.called_deleteReference .local o) nofun
  refine ((service_handing bound).create name args).bracket fun o => ?_
  exact (keeps_handing_holdGlobally o).conseq (fun _ h => h) (fun _ => dropped o)
    fun _ => dropped o

end

/-! ## Where null occurs -/

/-- Where null occurs when a binding is used on a machine: as a class reference that is handed over,
and as the global reference that an object is held by. -/
structure Nulls (b : Binding host) (m : Machine) : Prop where
  answer (ask : Ask host) : Handing m (NullClass b m) (b.answer ask m).2
  wrap (o : Reference) : Handing m (NullClass b m) (wrap b o m).2
  wrapNew (name : String) (args : List (Value Reference)) :
    Handing m (NullClass b m) (wrapNew b name args m).2
  held {o g : Reference} {t : Machine} :
    Jni.wrap b o m = (.ok g, t) → (g = none ↔ m.Fails .newGlobalRef)
  heldNew {name : String} {args : List (Value Reference)} {g : Reference} {t : Machine} :
    Jni.wrapNew b name args m = (.ok g, t) → (g = none ↔ m.Fails .newGlobalRef)

/-- A weak reference that cannot be made fails the resolution, and none that is kept is null. A pin
is null if it could not be made. Whatever happens later, a class reference is null if it is made of
such a pin, or of a pin when no local reference can be made, and an object is held by null if no
global reference can be made; and nothing is null otherwise. -/
theorem null_references (d : Declaration) (m₀ : Machine) :
    (d.retention = .weak → m₀.Fails .newWeakGlobalRef →
      ∀ b t, Binding.resolve host { d with retention := .drop } m₀ = (.ok b, t) →
        ∃ e t', Binding.resolve host d m₀ = (.error (.classNotRetained d.className e), t')) ∧
    ∀ b m₁, Binding.resolve host d m₀ = (.ok b, m₁) →
      Lasting m₀ d.retention b.retained ∧ ∀ run, Nulls b (m₁.after run) := by
  refine ⟨fun weak fails b t dropped => ?_, fun b m₁ resolved => ⟨?_, fun run => ?_⟩⟩
  · rcases Progress.resolve_of_dropped dropped with ⟨b', t', resolved⟩ | failed
    · have lasting := (meets_resolve_lasting m₀ d).answered rfl resolved
      rw [weak] at lasting
      generalize b'.retained = kept at lasting
      cases lasting with
      | weak fine => exact absurd fails fine
    · exact failed
  · exact (meets_resolve_lasting m₀ d).answered rfl resolved
  · obtain ⟨rfl, r, c, es, -, -, retains, -⟩ := (meets_resolve m₀ d).answered rfl resolved
    have bound : Bound (m₁.after run) ⟨c, b.declaration, (m₁.after run).world⟩ b :=
      ⟨rfl, rfl, retains.grows (m₁.grows_after run)⟩
    exact {
      answer := fun ask => ((service_handing bound).answer ask).state rfl
      wrap := fun o => (handing_wrap bound o).state rfl
      wrapNew := fun name args => (handing_wrapNew bound name args).state rfl
      held := fun wrapped => (meets_wrap_lasting b _).answered rfl wrapped
      heldNew := fun wrapped => (meets_wrapNew_lasting b _ _).answered rfl wrapped }

/-- The class of the field is kept weakly, and cannot be kept so when no weak reference can be
made. -/
theorem null_references_solitary :
    (∃ b m₁, Binding.resolve host ⟨"a/A", [.staticField "x" "x" "I"], .weak⟩ (solitary []) =
        (.ok b, m₁) ∧ Lasting (solitary []) .weak b.retained ∧ Nulls b m₁) ∧
    ∃ e t, Binding.resolve host ⟨"a/A", [.staticField "x" "x" "I"], .weak⟩
      (solitary [("NewWeakGlobalRef", .null)]) = (.error (.classNotRetained "a/A" e), t) := by
  constructor
  · have resolved : Binding.resolve host ⟨"a/A", [.staticField "x" "x" "I"], .weak⟩
        (solitary []) = (.ok _, _) := rfl
    obtain ⟨lasting, nulls⟩ := (null_references _ _).2 _ _ resolved
    exact ⟨_, _, resolved, lasting, nulls []⟩
  · have dropped : Binding.resolve host ⟨"a/A", [.staticField "x" "x" "I"], .drop⟩
        (solitary [("NewWeakGlobalRef", .null)]) = (.ok _, _) := rfl
    exact (null_references ⟨"a/A", [.staticField "x" "x" "I"], .weak⟩ _).1 rfl
      ⟨.null, rfl, nofun⟩ _ _ dropped

/-- When no global reference can be made, a null pin is kept; a null class is handed over with the
handle of the static field, and the read answers. And an object is wrapped that is held by null. -/
theorem null_pin_handed_over :
    (∃ b m₁, Binding.resolve host ⟨"a/A", [.staticField "x" "x" "I"], .global⟩
        (solitary [("NewGlobalRef", .null)]) = (.ok b, m₁) ∧
      b.retained = .pinned (none : Reference) ∧
      (b.answer (.readStatic "x") m₁).1 = .ok (.value (.int 7)) ∧
      (b.answer (.readStatic "x") m₁).2.trace.drop m₁.trace.length =
        [⟨.newLocalRef, [.reference none], false⟩,
          ⟨.getStaticField (.primitive .int), [.reference none, .member ⟨0, 0⟩], false⟩,
          ⟨.deleteLocalRef, [.reference none], false⟩]) ∧
    (wrap (.ofRows ⟨"a/A", [], .drop⟩ [] .nothing) (some 0) (solitary [("NewGlobalRef", .null)])).1 =
      .ok none :=
  ⟨⟨_, _, rfl, rfl, rfl, rfl⟩, rfl⟩

end HandleCache.Jni

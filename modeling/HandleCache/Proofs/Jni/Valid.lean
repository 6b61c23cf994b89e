import HandleCache.Proofs.Jni.Constructors
import HandleCache.Proofs.Jni.Objects
import HandleCache.Proofs.Jni.Recent

/-!
# Wrapped objects are valid

An object that is wrapped is tested once, and what is made to be wrapped is not tested at all. Both
are sound for the same reason: the class that a binding gets is the one that it was resolved for, as
long as its name stands for no other class and references can be made. An instance of this class
stays one, and the reference that it is held by is there until it is deleted, which no request does.
So a request through the wrapped object may trust it, whenever and in whatever session it is made.

## Contents

- `Fault.blamesInstance`: a request is refused for its instance
- `Ask.Trusts`: a request that takes its instance to be of the class
- `Sound`: a binding gets the class that it was resolved for
- `Machine.Holds`: an instance of a class is held by a global reference that is not deleted
- `Wrapping`: what comes of it when an object is wrapped
- `Valid`: what a wrapped object is good for

## Main statements

- `Binding.unblaming_answer`: a request that trusts an object that is there is not refused for
  it, on any host
- `Sound.meets_obtainClass`: the class that a sound binding gets
- `wrap_eq_nullInstance_iff`, `Sound.wrap_eq_wrongClass_iff`: which objects are not wrapped
- `Machine.Holds.takeTurns_iff`: an object is held until a turn deletes the reference
- `Machine.Holds.valid`: an object that is held is valid
- `wrapped_objects_valid`: what is wrapped is held, and valid as long as it is
-/

namespace HandleCache

open HandleCache.Action

/-! ## Requests that trust their instance -/

/-- Whether the request is refused for its instance. -/
def Fault.blamesInstance {ε : Type} : Fault ε → Bool
  | .nullInstance .. | .wrongClass .. => true
  | _ => false

/-- The request is never refused for its instance. -/
abbrev Host.Unblaming {H : Host} {α : Type} (x : H.Request α) : Prop :=
  Meets (fun _ => True) x (fun _ _ => True) fun fault _ => fault.blamesInstance = false

/-- The request is about this object and takes it to be of the class. -/
inductive Ask.Trusts {H : Host} (o : H.Object) : Ask H → Prop where
  | call (name : String) (args : List H.Argument) : Ask.Trusts o (.call true name o args)
  | read (name : String) : Ask.Trusts o (.read true name o)

namespace Binding

variable {H : Host} {α : Type} {b : Binding H} {op : Operation} {o : H.Object}

/-- The table blames no instance. -/
theorem unblaming_operation {name : String} {g : ResolvedOperation H → Except (Fault H.Failure) α}
    (kinds : ∀ r fault, g r = .error fault → fault.blamesInstance = false) :
    Host.Unblaming (H := H) (Action.ofExcept (b.operation name >>= g)) := by
  unfold operation
  cases b.find? name with
  | none => exact fun _ _ => rfl
  | some r =>
    show Host.Unblaming (H := H) (Action.ofExcept (g r))
    cases row : g r with
    | ok v => exact fun _ _ => trivial
    | error fault => exact fun _ _ => kinds r fault row

theorem unblaming_requirePresent (there : ∀ s, (H.isNull o s).1 = false) :
    Host.Unblaming (b.requirePresent op o) := by
  refine Meets.bind (F := fun null _ => null = false) (.query fun s _ => there s) fun null => ?_
  cases null with
  | true => exact fun _ known => nomatch known
  | false => exact .pure fun _ _ => trivial

/-- A request that trusts an object that is there is not refused for it. -/
theorem unblaming_answer (b : Binding H) {ask : Ask H} (trusts : ask.Trusts o)
    (there : ∀ s, (H.isNull o s).1 = false) : Host.Unblaming (b.answer ask) := by
  have direct (x : Action H.State H.Failure H.Value) : Host.Unblaming (Host.direct x) :=
    .told fun _ => rfl
  cases trusts with
  | call name args =>
    refine Meets.bind (F := fun _ _ => True) ?_ fun _ => .pure fun _ h => h
    refine (unblaming_operation fun r fault stopped => ?_).bind fun row => ?_
    · split at stopped <;> cases stopped
      rfl
    · refine (unblaming_requirePresent there).bind fun _ => ?_
      refine Meets.bind (F := fun _ _ => True) ?_ fun _ => direct _
      exact b.meets_requireArguments _ _ args (fun _ _ _ h => h) (fun _ _ => rfl) fun _ _ _ _ => rfl
  | read name =>
    refine Meets.bind (F := fun _ _ => True) ?_ fun _ => .pure fun _ h => h
    refine (unblaming_operation fun r fault stopped => ?_).bind fun row => ?_
    · split at stopped <;> cases stopped
      rfl
    · exact (unblaming_requirePresent there).bind fun _ => direct _

end Binding

/-! ## The class of a binding -/

/-- Under this name no other class is found. -/
def World.Names (w : World) (name : String) (c : Nat) : Prop :=
  ∀ c', w.visibleClass? name = some c' → c' = c

namespace Jni

/-- What a binding keeps is of the class, and what it takes to come by a reference to the class is
given: no pin that is null, no other class of the name, and references can be made. -/
structure Sound (c : Nat) (b : Binding host) (m : Machine) : Prop where
  retains : Retains m c b.declaration.retention b.retained
  pinned : b.retained ≠ .pinned (none : Reference)
  names : m.world.Names b.className c
  able : m.CanRefer

section

variable {b : Binding host} {c i : Nat} {m s : Machine} {o g : Reference}

/-- Where a binding is sound it gets its class, if it gets any. -/
theorem Sound.meets_obtainClass (sound : Sound c b m) :
    Meets (· = m) b.obtainClass (fun r s => m.Rests s ∧ s.Denotes r c) fun _ => m.Rests := by
  have retains := sound.retains
  apply b.meets_obtainClass
  · -- By name, nothing else can be found.
    intro _
    refine meets_lookup (T := m.Rests) (meets_nonNull ?_ ?_) ?_
    · intro s r rests answered
      obtain ⟨i, found, rfl⟩ := Option.map_eq_some_iff.mp answered
      obtain ⟨c', seen, denotes⟩ := Machine.denotes_findClass found
      rw [rests.world] at seen
      cases sound.names c' seen
      exact ⟨rests.findClass b.className, denotes⟩
    · exact fun s rests => rests.findClass b.className
    · exact fun s told rests => (rests.note told).exceptionClear
  · intro p kept
    rw [kept] at retains
    refine .query ?_
    rintro s rfl
    rcases retains.of_pinned with rfl | ⟨_, made⟩
    · exact absurd kept sound.pinned
    · have rests := (Machine.Rests.refl s).newLocalRef made.object?_eq_none
      rcases Machine.refers_newReference .local made with null | denotes
      · rcases (Machine.newReference_eq_none .local p s).mp null with fails | gone
        · exact absurd fails sound.able.1
        · exact absurd gone (Machine.target?_of_pin made)
      · exact ⟨rests, denotes⟩
  · intro w kept
    rw [kept] at retains
    refine .query ?_
    rintro s rfl
    obtain ⟨_, made⟩ := retains.of_weakly
    have rests := (Machine.Rests.refl s).newLocalRef made.object?_eq_none
    refine ⟨fun r answered => ⟨rests, ?_⟩, fun _ => rests⟩
    obtain ⟨i, found, rfl⟩ := Option.map_eq_some_iff.mp answered
    rcases Machine.refers_newReference .local made with null | denotes
    · cases found.symm.trans null
    · rwa [found] at denotes
  · rintro s rfl
    exact .refl s
  · exact fun e s rests => rests.note e

/-! ## Objects that are held -/

/-- The object is held by a global reference that is not deleted, and is an instance of the class. -/
structure Machine.Holds (m : Machine) (c : Nat) (g : Reference) (i : Nat) : Prop where
  live : m.references.info? g = some ⟨.global, .object i, 0⟩
  isInstance : m.world.isInstance (some i) c = true

theorem Machine.Holds.ne_none (h : m.Holds c g i) : g ≠ none :=
  Refers.ne_none ⟨0, h.live⟩

/-- In a run of turns, what is held stays so exactly if none of them deletes the reference. -/
theorem Machine.Holds.takeTurns_iff (h : m.Holds c g i) {turns : List Turn} :
    (m.takeTurns turns).Holds c g i ↔ ∀ turn ∈ turns, turn.deletes ≠ g := by
  have counted := info?_takeTurns h.live turns
  have never : (turns.map Turn.deletes).count g = 0 ↔ ∀ turn ∈ turns, turn.deletes ≠ g := by
    rw [List.count_eq_zero]
    simp
  rw [← never]
  constructor
  · intro held
    have same := held.live.symm.trans counted
    simp only [Option.some.injEq, ReferenceInfo.mk.injEq, Nat.zero_add] at same
    exact same.2.2.symm
  · intro none
    rw [none] at counted
    exact ⟨counted, (m.later_takeTurns turns).world.isInstance h.isInstance⟩

/-- A global reference can be made to what there is a reference to. -/
def Machine.Holdable (m : Machine) (c : Nat) (o : Reference) (i : Nat) (s : Machine) : Prop :=
  m.Awaits s ∧ (∃ kind, s.Refers o kind (.object i)) ∧ s.world.isInstance (some i) c = true

theorem meets_holdGlobally (able : m.CanRefer) (o : Reference) (c i : Nat) :
    Meets (m.Holdable c o i) (holdGlobally o)
      (fun g s => s.Refers g .global (.object i) ∧ s.world.isInstance (some i) c = true)
      fun f _ => f.isMisuse = false := by
  apply Meets.mapError_told
  refine Meets.bind (F := fun _ => m.Holdable c o i) ?_ fun _ => .query ?_
  · refine (keeps_requireVirtualMachine fun s h => ?_).conseq (fun _ h => h) (fun _ _ h => h)
      fun _ _ _ => rfl
    exact ⟨(Machine.stable_awaits m).asked h.1, h.2⟩
  · rintro s ⟨awaits, ⟨kind, refers⟩, isInstance⟩
    have fine : ¬ s.Fails (Machine.maker .global) := fun fails =>
      able.2 ((awaits.fails_iff rfl).mp fails)
    have made := Machine.refers_newReference_object .global refers fine
    have called := Machine.called_newReference .global o s
    exact ⟨made, called.worldGrows.isInstance isInstance⟩

/-! ## Wrapping -/

/-- The test of an object against the class that a reference is to, which is given back then. -/
def Machine.test (m : Machine) (o r : Reference) : Bool × Machine :=
  ((m.isInstanceOf o r).1, dropLocal r (m.isInstanceOf o r).2)

/-- What comes of it when an object is wrapped. -/
inductive Wrapping (b : Binding host) (o : Reference) (m : Machine) :
    Except (Fault Failure) Reference × Machine → Prop where
  | null : o = none → Wrapping b o m (.error (.nullInstance b.className "new"), m)
  | noClass {fault : Fault Failure} {s : Machine} :
      o ≠ none → b.obtainClass m = (.error fault, s) → Wrapping b o m (.error fault, s)
  | foreign {r : Reference} {s t : Machine} :
      o ≠ none → b.obtainClass m = (.ok r, s) → s.test o r = (false, t) →
      Wrapping b o m (.error (.wrongClass b.className), t)
  | passed {r : Reference} {s t : Machine} :
      o ≠ none → b.obtainClass m = (.ok r, s) → s.test o r = (true, t) →
      Wrapping b o m (holdGlobally o t)

theorem wrapping_wrap (b : Binding host) (o : Reference) (m : Machine) :
    Wrapping b o m (wrap b o m) := by
  cases o with
  | none => exact .null rfl
  | some j =>
    have there : (some j : Reference) ≠ none := by simp
    cases obtained : b.obtainClass m with
    | mk a s =>
      cases a with
      | error fault =>
        have stopped : wrap b (some j) m = (.error fault, s) :=
          bind_of_error (bind_of_error (bracket_of_error obtained))
        rw [stopped]
        exact .noClass there obtained
      | ok r =>
        have tested : b.withClass (fun r => Host.direct (host.isInstance (some j) r)) m =
            (.ok (s.test (some j) r).1, (s.test (some j) r).2) :=
          bracket_of_ok obtained
        cases said : s.test (some j) r with
        | mk accepted t =>
          rw [said] at tested
          cases accepted with
          | false =>
            have refused : wrap b (some j) m = (.error (.wrongClass b.className), t) :=
              bind_of_error (bind_of_ok tested)
            rw [refused]
            exact .foreign there obtained said
          | true =>
            have passed : wrap b (some j) m = holdGlobally (some j) t :=
              bind_of_ok (bind_of_ok tested)
            rw [passed]
            exact .passed there obtained said

theorem not_isMisuse_holdGlobally (o : Reference) :
    Meets (fun _ => True) (holdGlobally o) (fun _ _ => True) fun f _ => f.isMisuse = false :=
  .told fun _ => rfl

/-- What is refused as misuse is null, or was not accepted by the test. -/
theorem Wrapping.refusal {result : Except (Fault Failure) Reference × Machine}
    {fault : Fault Failure} (h : Wrapping b o m result) (stopped : result.1 = .error fault)
    (misuse : fault.isMisuse = true) :
    o = none ∧ fault = .nullInstance b.className "new" ∨
      o ≠ none ∧ fault = .wrongClass b.className ∧
        ∃ r s, b.obtainClass m = (.ok r, s) ∧ (s.isInstanceOf o r).1 = false := by
  cases h with
  | null is =>
    cases stopped
    exact .inl ⟨is, rfl⟩
  | noClass there failed =>
    cases stopped
    have proper := (b.not_isMisuse_obtainClass).stopped trivial failed
    cases proper.symm.trans misuse
  | foreign there obtained said =>
    cases stopped
    exact .inr ⟨there, rfl, _, _, obtained, congrArg Prod.fst said⟩
  | passed =>
    have proper := (not_isMisuse_holdGlobally o).stopped trivial (Prod.ext stopped rfl)
    cases proper.symm.trans misuse

/-- What is wrapped was accepted by the test. -/
theorem Wrapping.accepted {result : Except (Fault Failure) Reference × Machine}
    (h : Wrapping b o m result) (answered : result.1 = .ok g) :
    ∃ r s t, b.obtainClass m = (.ok r, s) ∧ s.test o r = (true, t) ∧
      holdGlobally o t = result := by
  cases h with
  | null => cases answered
  | noClass => cases answered
  | foreign => cases answered
  | passed _ obtained said => exact ⟨_, _, _, obtained, said, rfl⟩

theorem wrap_eq_nullInstance_iff {className operation : String} :
    (wrap b o m).1 = .error (.nullInstance className operation) ↔
      o = none ∧ className = b.className ∧ operation = "new" := by
  constructor
  · intro stopped
    rcases (wrapping_wrap b o m).refusal stopped rfl with ⟨null, same⟩ | ⟨-, other, -⟩
    · cases same
      exact ⟨null, rfl, rfl⟩
    · cases other
  · rintro ⟨rfl, rfl, rfl⟩
    rfl

theorem wrap_eq_wrongClass_iff {className : String} :
    (wrap b o m).1 = .error (.wrongClass className) ↔
      className = b.className ∧ o ≠ none ∧
        ∃ r s, b.obtainClass m = (.ok r, s) ∧ (s.isInstanceOf o r).1 = false := by
  constructor
  · intro stopped
    rcases (wrapping_wrap b o m).refusal stopped rfl with ⟨-, other⟩ | ⟨there, same, tested⟩
    · cases other
    · cases same
      exact ⟨rfl, there, tested⟩
  · rintro ⟨rfl, there, r, s, obtained, said⟩
    generalize outcome : wrap b o m = result
    have wrapping := wrapping_wrap b o m
    rw [outcome] at wrapping
    cases wrapping with
    | null is => exact absurd is there
    | noClass _ failed => cases obtained.symm.trans failed
    | foreign => rfl
    | passed _ obtained' said' =>
      cases obtained.symm.trans obtained'
      have accepted : (s.isInstanceOf o r).1 = true := congrArg Prod.fst said'
      cases said.symm.trans accepted

/-! ## Sound wrapping -/

/-- Of a sound binding, an object is wrapped if it is an instance of the class. -/
theorem Sound.wrap_eq_ok (sound : Sound c b m) {t : Machine} (wrapped : wrap b o m = (.ok g, t)) :
    ∃ i, m.object? o = some i ∧ t.Holds c g i := by
  obtain ⟨r, s, u, obtained, said, held⟩ :=
    (wrapping_wrap b o m).accepted (congrArg Prod.fst wrapped)
  obtain ⟨rests, denotes⟩ := sound.meets_obtainClass.answered rfl obtained
  obtain ⟨answer, rfl⟩ := Prod.mk.inj said
  obtain ⟨-, isInstance⟩ := (Machine.isInstanceOf_eq_true_iff denotes).mp answer
  rw [rests.objects] at isInstance
  cases is : m.object? o with
  | none =>
    rw [is] at isInstance
    cases isInstance
  | some i =>
    rw [is] at isInstance
    obtain ⟨kind, refers⟩ := Machine.object?_eq_some_iff.mp ((rests.objects o).trans is)
    have tested := s.called_isInstanceOf o r
    have dropped := Machine.called_deleteReference .local r (s.isInstanceOf o r).2
    have later := tested.later.trans dropped.later
    have awaits := (Machine.stable_awaits m).called rests.awaits tested rfl
    have holdable : m.Holdable c o i (dropLocal r (s.isInstanceOf o r).2) := by
      refine ⟨awaits.release r, ⟨kind, ?_⟩, ?_⟩
      · exact later.references o kind _ refers
      · exact later.world.isInstance isInstance
    -- It is held by a reference to it, and that one was just made, so it is not deleted.
    obtain ⟨made, still⟩ :=
      (meets_holdGlobally sound.able o c i).answered holdable (held.trans wrapped)
    have holder := (meets_wrap_holder b o).answered (.start m) wrapped
    exact ⟨i, rfl, holder.2.info?_eq made, still⟩

/-- And it is refused as of another class exactly if the class is had, and it is no instance or the
test goes wrong. -/
theorem Sound.wrap_eq_wrongClass_iff (sound : Sound c b m) {className : String} :
    (wrap b o m).1 = .error (.wrongClass className) ↔
      className = b.className ∧ o ≠ none ∧ (∃ r, (b.obtainClass m).1 = .ok r) ∧
        (m.Fails .isInstanceOf ∨ m.world.isInstance (m.object? o) c = false) := by
  have tested {r : Reference} {s : Machine} (obtained : b.obtainClass m = (.ok r, s)) :
      (s.isInstanceOf o r).1 = false ↔
        m.Fails .isInstanceOf ∨ m.world.isInstance (m.object? o) c = false := by
    obtain ⟨rests, denotes⟩ := sound.meets_obtainClass.answered rfl obtained
    have fails : s.Fails .isInstanceOf ↔ m.Fails .isInstanceOf := by
      rw [Machine.Fails, rests.test, Machine.Fails]
    have same := Machine.isInstanceOf_eq_true_iff (o := o) denotes
    rw [fails, rests.world, rests.objects] at same
    rw [← Bool.not_eq_true, same, not_and_or, not_not, Bool.not_eq_true]
  rw [Jni.wrap_eq_wrongClass_iff]
  constructor
  · rintro ⟨named, there, r, s, obtained, said⟩
    exact ⟨named, there, ⟨r, congrArg Prod.fst obtained⟩, (tested obtained).mp said⟩
  · rintro ⟨named, there, ⟨r, answered⟩, refused⟩
    have obtained : b.obtainClass m = (.ok r, (b.obtainClass m).2) := Prod.ext answered rfl
    exact ⟨named, there, r, _, obtained, (tested obtained).mpr refused⟩

/-- Of a sound binding, an object that is made is an instance of the class, and a new one. -/
theorem Sound.meets_create (sound : Sound c b m) (name : String) (args : List (Value Reference)) :
    Meets (· = m) (b.create name args)
      (fun o s => ∃ i, m.world.objects.length ≤ i ∧ m.Holdable c o i s) fun _ _ => True := by
  refine .ofExcept_bind (fun (op, id, t) _ => ?_) fun _ _ _ _ => trivial
  refine Meets.bind (F := fun _ => (· = m)) ?_ fun _ => ?_
  · exact (b.keeps_requireArguments op t args fun _ _ _ h => h).conseq (fun _ h => h)
      (fun _ _ h => h) fun _ _ _ => trivial
  · have obtains : Meets (· = m) b.obtainClass (fun r s => m.Rests s ∧ s.Denotes r c)
        fun _ _ => True :=
      sound.meets_obtainClass.conseq (fun _ h => h) (fun _ _ h => h) fun _ _ _ => trivial
    refine obtains.bracket fun r => .mapError (meets_nonNull ?_ fun _ _ => trivial)
    rintro s o ⟨rests, denotes⟩ answered
    obtain ⟨j, found, rfl⟩ := Option.map_eq_some_iff.mp answered
    obtain ⟨i, refers, new, isInstance⟩ := Machine.made_newObject denotes found
    rw [rests.world] at new
    have made := (Machine.stable_awaits m).called rests.awaits (s.called_newObject r id args) rfl
    have dropped := Machine.called_deleteReference .local r (s.newObject r id args).2
    refine ⟨i, new, made.release r, ⟨.local, dropped.grows _ _ _ refers⟩, ?_⟩
    exact dropped.worldGrows.isInstance isInstance

/-- What is made to be wrapped is held. -/
theorem Sound.wrapNew_eq_ok (sound : Sound c b m) {name : String} {args : List (Value Reference)}
    {t : Machine} (wrapped : wrapNew b name args m = (.ok g, t)) :
    ∃ o s i, b.create name args m = (.ok o, s) ∧ s.object? o = some i ∧
      m.world.objects.length ≤ i ∧ t.Holds c g i := by
  cases created : b.create name args m with
  | mk a s =>
    cases a with
    | error fault =>
      have stopped : wrapNew b name args m = (.error fault, s) := bracket_of_error created
      cases stopped.symm.trans wrapped
    | ok o =>
      obtain ⟨i, new, holdable⟩ := (sound.meets_create name args).answered rfl created
      obtain ⟨kind, refers⟩ := holdable.2.1
      refine ⟨o, s, i, rfl, Machine.object?_of_refers refers, new, ?_⟩
      -- The local reference is dropped behind the making of the global one.
      have ended : wrapNew b name args m =
          ((holdGlobally o s).1, dropLocal o (holdGlobally o s).2) := bracket_of_ok created
      obtain ⟨answer, rfl⟩ := Prod.mk.inj (ended.symm.trans wrapped)
      obtain ⟨made, still⟩ :=
        (meets_holdGlobally sound.able o c i).answered holdable (Prod.ext answer rfl)
      have dropped := (Machine.called_deleteReference .local o (holdGlobally o s).2).later
      have holder := (meets_wrapNew_holder b name args).answered (.start m) wrapped
      exact ⟨holder.2.info?_eq (dropped.references g _ _ made), dropped.world.isInstance still⟩

/-! ## Requests to what is held -/

/-- The call is one of a member of this object. -/
inductive Entry.On (g : Reference) : Entry → Prop where
  | call {k : Kind} {id : MemberId} {args : List (Value Reference)} {pending : Bool} :
      Entry.On g ⟨.callMethod k, [.reference g, .member id, .arguments args], pending⟩
  | read {k : Kind} {id : MemberId} {pending : Bool} :
      Entry.On g ⟨.getField k, [.reference g, .member id], pending⟩

/-- The reference is not deleted and holds an instance of the class, and that is enough for all
requests that trust it:
none is refused for its instance, and none calls any function but that of the member, on this
instance. -/
structure Valid (b : Binding host) (c : Nat) (g : Reference) (i : Nat) (m : Machine) : Prop
    extends m.Holds c g i where
  there : g ≠ none
  unblamed (ask : Ask host) : ask.Trusts g →
    ∀ fault, (b.answer ask m).1 = .error fault → fault.blamesInstance = false
  calls (ask : Ask host) : ask.Trusts g → m.Calls (Entry.On g) (b.answer ask m).2

theorem keeps_calls_answer {ask : Ask host} (trusts : ask.Trusts g) :
    Keeps (m.Calls (Entry.On g)) (b.answer ask) := by
  cases trusts with
  | call name args =>
    refine .ofExcept_reply (fun (op, id, t) _ => ?_) fun _ known => known
    refine (b.keeps_requirePresent op fun _ known => known).bind fun _ => ?_
    refine (b.keeps_requireArguments op t args fun _ _ _ known => known).bind fun _ => ?_
    have called (s : Machine) (known : m.Calls (Entry.On g) s) :=
      known.called (s.called_callMethod g id (Kind.ofType t.result) args) .call
    exact .mapError (meets_checked called called)
  | read name =>
    refine .ofExcept_reply (fun (op, id, t) _ => ?_) fun _ known => known
    refine (b.keeps_requirePresent op fun _ known => known).bind fun _ => ?_
    exact .mapError (meets_readAs fun s known => known.called (s.called_getField g id _) .read)

theorem Machine.Holds.valid (held : m.Holds c g i) (b : Binding host) : Valid b c g i m where
  toHolds := held
  there := held.ne_none
  unblamed ask trusts fault stopped := by
    have there : ∀ s, (host.isNull g s).1 = false := by
      cases g with
      | none => exact absurd rfl held.ne_none
      | some j => exact fun _ => rfl
    exact (b.unblaming_answer trusts there).stopped trivial (Prod.ext stopped rfl)
  calls ask trusts := (keeps_calls_answer trusts).state (.refl m _)

end

/-- A binding that was resolved stays sound as long as its name stands for no other class and
references can be made. -/
theorem sound_of_resolve {d : Declaration} {m₀ m₁ : Machine} {b : Binding host}
    (resolved : Binding.resolve host d m₀ = (.ok b, m₁)) (able : m₀.CanRefer) :
    ∃ c, m₀.world.visibleClass? d.className = some c ∧ ∀ turns,
      (m₁.takeTurns turns).CanRefer → (m₁.takeTurns turns).world.Names d.className c →
        Sound c b (m₁.takeTurns turns) := by
  obtain ⟨rfl, r, c, es, seen, -, retains, -⟩ := (meets_resolve m₀ d).answered rfl resolved
  have lasting := (meets_resolve_lasting m₀ b.declaration).answered rfl resolved
  refine ⟨c, seen, fun turns able' names => ⟨?_, ?_, names, able'⟩⟩
  · exact retains.grows (m₁.later_takeTurns turns).references
  · intro kept
    rw [kept] at lasting
    exact able.2 (lasting.pinned_iff.mp rfl)

/-- What wrapping comes to on a machine, where the binding is of this class. -/
structure WrapsValidly (b : Binding host) (c : Nat) (m : Machine) : Prop where
  /-- What is wrapped is an object, and valid as long as no turn deletes the reference to it. -/
  wraps {o g : Reference} {t : Machine} : wrap b o m = (.ok g, t) →
    ∃ i, m.object? o = some i ∧ ∀ turns, (∀ turn ∈ turns, turn.deletes ≠ g) →
      Valid b c g i (t.takeTurns turns)
  /-- What is made to be wrapped is a new object, and valid for as long. -/
  wrapsNew {name : String} {args : List (Value Reference)} {g : Reference} {t : Machine} :
    wrapNew b name args m = (.ok g, t) →
      ∃ o s i, b.create name args m = (.ok o, s) ∧ s.object? o = some i ∧
        m.world.objects.length ≤ i ∧ ∀ turns, (∀ turn ∈ turns, turn.deletes ≠ g) →
          Valid b c g i (t.takeTurns turns)
  nullInstance (o : Reference) (className operation : String) :
    (wrap b o m).1 = .error (.nullInstance className operation) ↔
      o = none ∧ className = b.className ∧ operation = "new"
  /-- The class was had, and the test says no: the object is no instance, or the test went wrong. -/
  wrongClass (o : Reference) (className : String) :
    (wrap b o m).1 = .error (.wrongClass className) ↔
      className = b.className ∧ o ≠ none ∧ (∃ r, (b.obtainClass m).1 = .ok r) ∧
        (m.Fails .isInstanceOf ∨ m.world.isInstance (m.object? o) c = false)

/-- Suppose that references could be made when a binding was resolved and can be made now, and that
its name stands for no other class now than it did then. Then an object that is wrapped, or made to
be wrapped, is held by a global reference that is not deleted, and is an instance of the class. It
stays so whatever happens later, in whatever session, as long as the reference itself is not deleted,
and a request through the wrapped object is not refused for its instance, looks nothing up, and hands
this instance over. And an object is not wrapped because it is null exactly if it is, and because it
is of another class exactly if it is no instance when it is tested. -/
theorem wrapped_objects_valid {d : Declaration} {m₀ m₁ : Machine} {b : Binding host}
    (resolved : Binding.resolve host d m₀ = (.ok b, m₁)) (able : m₀.CanRefer) :
    ∃ c, m₀.world.visibleClass? d.className = some c ∧ ∀ turns : List Turn,
      (m₁.takeTurns turns).CanRefer → (m₁.takeTurns turns).world.Names d.className c →
        WrapsValidly b c (m₁.takeTurns turns) := by
  obtain ⟨c, seen, sound⟩ := sound_of_resolve resolved able
  refine ⟨c, seen, fun turns able' names => ?_⟩
  have sound := sound turns able' names
  constructor
  · intro o g t wrapped
    obtain ⟨i, is, held⟩ := sound.wrap_eq_ok wrapped
    exact ⟨i, is, fun later spared => (held.takeTurns_iff.mpr spared).valid b⟩
  · intro name args g t wrapped
    obtain ⟨o, s, i, made, is, new, held⟩ := sound.wrapNew_eq_ok wrapped
    exact ⟨o, s, i, made, is, new, fun later spared => (held.takeTurns_iff.mpr spared).valid b⟩
  · exact fun o className operation => wrap_eq_nullInstance_iff
  · exact fun o className => sound.wrap_eq_wrongClass_iff

/-- A workshop, and an object of another class, to which there is a reference. -/
def stall : Machine where
  world :=
    { classes := workshop.classes ++ [{ name := "a/B", parent := none, members := [] }]
      objects := [⟨1, .void⟩] }
  references := [⟨.global, .object 0, 0⟩]

theorem canRefer_of_queue_eq_nil {m : Machine} (empty : m.queue = []) : m.CanRefer := by
  constructor <;> simp [Machine.Fails, Machine.fate?, empty, Machine.next]

/-- After the class was unloaded an object is made to be wrapped, which is valid in another session
and after the other reference is deleted, and is not once its own one is; the object of the other
class is not wrapped. -/
theorem wrapped_objects_valid_stall : ∃ b m₁,
    Binding.resolve host (makes "<init>" "()V") stall = (.ok b, m₁) ∧
    let m := m₁.takeTurns [.session none, .happens (.change (.unload "a/A"))]
    ∃ t, wrapNew b "make" [] m = (.ok (some 4), t) ∧
      Valid b 0 (some 4) 1 (t.takeTurns [.session none, .happens (.delete .global (some 0))]) ∧
      ¬ Valid b 0 (some 4) 1 (t.takeTurns [.happens (.delete .global (some 4))]) ∧
      (wrap b (some 0) m).1 = .error (.wrongClass "a/A") := by
  have resolved : Binding.resolve host (makes "<init>" "()V") stall = (.ok _, _) :=
    (Progress.resolve_of_found (plans_makes _).1 rfl).trans rfl
  refine ⟨_, _, resolved, ?_⟩
  intro m
  obtain ⟨c, seen, valid⟩ := wrapped_objects_valid resolved (canRefer_of_queue_eq_nil rfl)
  cases seen
  have names : m.world.Names "a/A" 0 := by
    intro c' found
    cases found
    rfl
  have wraps := valid _ (canRefer_of_queue_eq_nil rfl) names
  obtain ⟨o, s, i, made, is, -, later⟩ :=
    wraps.wrapsNew (rfl : wrapNew _ "make" [] m = (.ok (some 4), _))
  cases made
  cases is
  refine ⟨_, rfl, ?_, ?_, ?_⟩
  · refine later _ fun turn there => ?_
    simp only [List.mem_cons, List.not_mem_nil, or_false] at there
    rcases there with rfl | rfl <;> simp [Turn.deletes]
  · intro gone
    have held := (later [] (List.forall_mem_nil _)).toHolds
    exact held.takeTurns_iff.mp gone.toHolds _ List.mem_cons_self rfl
  · exact (wraps.wrongClass (some 0) "a/A").mpr ⟨rfl, nofun, ⟨_, rfl⟩, .inr rfl⟩

end Jni

end HandleCache

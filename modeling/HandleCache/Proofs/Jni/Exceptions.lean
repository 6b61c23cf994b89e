import HandleCache.Proofs.Jni.Outstanding

/-!
# Exceptions of members

Whether a member throws is written in the world, and whether the function that runs it lets it
through is queued: so what will be pending after a member is run can be told in advance. It depends
neither on the instance nor on the class that it is run on, nor on the arguments.

## Contents

- `World.throws?`: the exception that a member throws
- `Machine.befalling`: what is left pending by a function, by what is queued for it

## Main statements

- `Machine.exception_callMethod`, `Machine.exception_callStatic`, `Machine.exception_newObject`: what
  is pending after a member was run
-/

namespace HandleCache

/-! ## What members throw -/

/-- The exception that a behavior throws, if it does. -/
def Behavior.throws? : Behavior → Option String
  | .throws x => some x
  | _ => none

namespace World

/-- The exception with which a run ends, if it ends with one. -/
def exception? {α : Type} : Except String α → Option String
  | .error x => some x
  | .ok _ => none

/-- The exception that a member throws, if it does. -/
def throws? (w : World) (id : MemberId) : Option String := (w.behaviorOf id).throws?

variable (w : World) (id : MemberId) (args : List (Value ObjectId))

/-- Whether it throws depends neither on the instance nor on the arguments. -/
theorem exception?_behave (behavior : Behavior) (o : ObjectId) :
    exception? (w.behave behavior o args).1 = behavior.throws? := by
  unfold behave
  cases behavior with
  | create name => dsimp only; split <;> rfl
  | hold => dsimp only; split <;> rfl
  | add =>
    dsimp only
    split
    · split <;> rfl
    · rfl
    · rfl
  | _ => rfl

theorem exception?_run (o : ObjectId) (k : Kind) :
    exception? (w.run id o args k).1 = w.throws? id := by
  have coerced (result : Except String (Value ObjectId)) :
      exception? (result.map (Value.coerce none k)) = exception? result := by
    cases result <;> rfl
  rw [throws?, ← w.exception?_behave args (w.behaviorOf id) o]
  exact coerced _

/-- Nor does it depend on the class of which an object is made. -/
theorem exception?_make (c : Nat) : exception? (w.make c id args).1 = w.throws? id := by
  unfold make throws?
  split
  · next null => rw [null]; rfl
  · rw [← w.exception?_behave args (w.behaviorOf id) none]
    split
    · next failed => rw [failed]; rfl
    · next yielded => rw [yielded]; rfl

end World

namespace Jni

/-! ## What is pending after a function -/

namespace Machine

variable {f : Function} {operands : List Operand} {m s : Machine}

/-- What is left pending by a function that would otherwise leave this. -/
def befalling (m : Machine) (f : Function) (otherwise : Option String) : Option String :=
  match m.fate? f with
  | some .null => none
  | some (.throws x) => some x
  | none | some .pass => otherwise

/-- What went wrong at once. -/
theorem exception_of_struck (h : m.enter f operands = (true, s)) (clear : m.exception = none)
    (otherwise : Option String) : s.exception = m.befalling f otherwise := by
  have left := exception_enter f operands m
  have fails := (enter_fst f operands m).mp (congrArg Prod.fst h)
  rw [h] at left
  obtain ⟨fate, queued, wrong⟩ := fails
  unfold befalling
  rw [queued] at left ⊢
  cases fate with
  | null => exact left.trans clear
  | throws x => exact left
  | pass => exact absurd rfl wrong

theorem befalling_of_entered (h : m.enter f operands = (false, s)) (otherwise : Option String) :
    m.befalling f otherwise = otherwise := by
  have fine : ¬ m.Fails f := fun fails => by
    have struck := (enter_fst f operands m).mpr fails
    rw [h] at struck
    cases struck
  unfold befalling
  split
  · next queued => exact absurd ⟨_, queued, nofun⟩ fine
  · next queued => exact absurd ⟨_, queued, nofun⟩ fine
  · rfl
  · rfl

theorem world_of_enter {struck : Bool} (h : m.enter f operands = (struck, s)) :
    s.world = m.world := by
  unfold enter strike at h
  dsimp only at h
  split at h <;> (obtain ⟨-, rfl⟩ := Prod.mk.inj h; rfl)

theorem exception_referObject (m : Machine) (o : ObjectId) :
    (m.referObject o).2.exception = m.exception := by
  cases o <;> rfl

/-- What comes of a member that the function has let through. -/
theorem exception_runMember (entered : m.enter f operands = (false, s)) (clear : m.exception = none)
    (o : ObjectId) (id : MemberId) (args : List (Value Reference)) (k : Kind) :
    (s.runMember o id args k).2.exception = m.befalling f (m.world.throws? id) := by
  have lifted (v : Value ObjectId) (m : Machine) : (lift m v).2.exception = m.exception := by
    cases v with
    | reference o => exact m.exception_referObject o
    | _ => rfl
  rw [befalling_of_entered entered, ← world_of_enter entered,
    ← s.world.exception?_run id (args.map s.lower) o k]
  unfold runMember
  split
  · next yielded =>
    rw [yielded]
    exact (lifted _ _).trans ((exception_of_enter entered).trans clear)
  · next threw => rw [threw]; rfl

theorem exception_callMethod (o : Reference) (id : MemberId) (k : Kind)
    (args : List (Value Reference)) (m : Machine) (clear : m.exception = none) :
    (m.callMethod o id k args).2.exception =
      m.befalling (.callMethod k) (m.world.throws? id) := by
  unfold callMethod
  split
  · next struck => exact exception_of_struck struck clear _
  · next entered => exact exception_runMember entered clear _ id args k

theorem exception_callStatic (c : Reference) (id : MemberId) (k : Kind)
    (args : List (Value Reference)) (m : Machine) (clear : m.exception = none) :
    (m.callStatic c id k args).2.exception =
      m.befalling (.callStaticMethod k) (m.world.throws? id) := by
  unfold callStatic
  split
  · next struck => exact exception_of_struck struck clear _
  · next entered => exact exception_runMember entered clear none id args k

theorem exception_newObject (c : Reference) (id : MemberId) (args : List (Value Reference))
    (m : Machine) (clear : m.exception = none) :
    (m.newObject c id args).2.exception = m.befalling .newObject (m.world.throws? id) := by
  unfold newObject
  split
  · next struck => exact exception_of_struck struck clear _
  · next s entered =>
    rw [befalling_of_entered entered, ← world_of_enter entered,
      ← s.world.exception?_make id (args.map s.lower) ((s.class? c).getD id.owner)]
    split
    · next made =>
      rw [made, exception_referObject]
      exact (exception_of_enter entered).trans clear
    · next threw => rw [threw]; rfl

end Machine

end Jni

end HandleCache

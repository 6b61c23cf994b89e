import HandleCache.Proofs.Counting.Trusted
import HandleCache.Proofs.Requests.Defect

/-!
# Promises to the counting machine

The counting machine checks nothing that its caller can know: it relies on classes, members and
objects that are there, on an instance for a member that works on one, on an argument to add, and on
constructors that make an object. The cache keeps all of these promises. What it passes on as a
handle it was given in a look-up under the same signature, so a member that runs is of the form that
its kind was looked up by; and the checks leave no call without its instance or its arguments.

## Contents

- `Member.CanRun`, `Member.Fits`: what a member needs to run, and members that the kinds fit
- `Unbroken`, `Honoured`: an outcome in which no promise was broken
- `Run`: what programs can do on a machine, with the bindings that are made in the course of it

## Main statements

- `Machine.runMember_ne_brokenPromise_iff`: when a member can run
- `unbroken_resolve`: a resolution breaks no promise
- `promises_kept`: nothing that a program does breaks a promise
-/

namespace HandleCache.Counting

open HandleCache.Action

/-! ## Members -/

/-- What a member needs to run on an object, or on none, with these arguments. -/
def Member.CanRun (x : Member) (m : Machine) (o : ObjectNumber) (args : List Int32) : Prop :=
  match x.behavior with
  | .holds => (m.instance? o).isSome
  | .add => (m.instance? o).isSome ∧ args ≠ []
  | .make | .throws | .greatest | .constant _ => True

/-- A member that works on an object is no member of the class, and it has a result; what adds has a
parameter besides and is no field. What makes no object and needs none is a member of the class. -/
def Member.Fits (x : Member) : Prop :=
  match x.behavior with
  | .make | .throws => True
  | .holds =>
    x.isStatic = false ∧
      ∀ t, MethodDescriptor.parse x.signature = .ok t → t.result ≠ .primitive .void
  | .add =>
    x.isStatic = false ∧
      (∀ t, MethodDescriptor.parse x.signature = .ok t →
        t.parameters ≠ [] ∧ t.result ≠ .primitive .void) ∧
      ∀ t, FieldDescriptor.parse x.signature ≠ .ok t
  | .greatest | .constant _ => x.isStatic = true

/-- The members of every machine fit. -/
theorem fits_standard : ∀ info ∈ standardClasses, ∀ x ∈ info.members, x.Fits := by
  have get : MethodDescriptor.parse "()I" = .ok ⟨[], .primitive .int⟩ := by cbv
  have add : MethodDescriptor.parse "(I)I" = .ok ⟨[.primitive .int], .primitive .int⟩ := by cbv
  have noMethod : MethodDescriptor.parse "I" = .error (.stopped "I" .unexpectedChar) := by cbv
  have noField : FieldDescriptor.parse "(I)I" = .error (.stopped "(I)I" .unexpectedChar) := by cbv
  simp [standardClasses, Member.Fits, get, add, noMethod, noField]

section

variable {m : Machine} {o : ObjectNumber} {id : MemberId} {args : List Int32}

/-- A member that is there runs exactly if it has what it needs. -/
theorem Machine.runMember_ne_brokenPromise_iff :
    (Machine.runMember o id args m).1 ≠ .error .brokenPromise ↔
      ∃ x, m.member? id = some x ∧ x.CanRun m o args := by
  have same : Machine.member? { m with calls := m.calls + 1 } id = m.member? id := rfl
  have found : Machine.instance? { m with calls := m.calls + 1 } o = m.instance? o := rfl
  unfold Machine.runMember Member.CanRun
  cases there : m.member? id with
  | none => simp [same, there]
  | some x =>
    simp only [same, there, found, Option.some.injEq, exists_eq_left']
    cases x.behavior with
    | make | throws | constant => simp
    | holds => cases m.instance? o <;> simp
    | greatest => cases args <;> simp
    | add =>
      cases m.instance? o with
      | none => simp
      | some => cases args <;> simp

/-- A constructor that runs makes an object, unless it throws. -/
theorem Machine.make_ne_brokenPromise {x : Member} (there : m.member? id = some x)
    (makes : x.behavior = .make ∨ x.behavior = .throws) :
    (Machine.make id args m).1 ≠ .error .brokenPromise := by
  have same : Machine.member? { m with calls := m.calls + 1 } id = m.member? id := rfl
  unfold Machine.make Machine.runMember
  simp only [same, there]
  rcases makes with h | h <;> simp [h]

/-! ## Objects -/

/-- The reference is null, or to an object of the machine. -/
def Machine.HasObject (m : Machine) (o : ObjectNumber) : Prop := ∀ i, o = some i → i < m.objects.length

/-- The object that is handed out as a value, null if none is. -/
def Value.reference : Value → ObjectNumber
  | .int _ => none
  | .object o => o

/-- The object that is handed out in a reply, null if none is. -/
def handedOut : Reply host → ObjectNumber
  | .value v => Value.reference v
  | .object o => o
  | .nothing => none

/-- What is handed out is on the heap that is left. -/
theorem hasObject_runMember {t : Machine} {v : Value}
    (run : Machine.runMember o id args m = (.ok v, t)) : t.HasObject v.reference := by
  unfold Machine.runMember at run
  dsimp only at run
  repeat' split at run
  all_goals cases run
  all_goals simp [Machine.HasObject, Value.reference]

theorem hasObject_make {t : Machine} (run : Machine.make id args m = (.ok o, t)) :
    t.HasObject o := by
  cases ran : Machine.runMember none id args m with
  | mk answer u =>
    unfold Machine.make at run
    rw [ran] at run
    match answer with
    | .ok (.object o') =>
      cases run
      exact hasObject_runMember ran
    | .ok (.int _) => cases run
    | .error _ => cases run

end

/-- An action loses no object. -/
def LosesNone {α : Type} (x : Machine.Step α) : Prop :=
  ∀ m, m.objects.length ≤ (x m).2.objects.length

section

variable {α : Type} {x : Machine.Step α}

theorem LosesNone.of_eq (h : ∀ m, (x m).2.objects = m.objects) : LosesNone x :=
  fun m => Nat.le_of_eq (congrArg List.length (h m).symm)

theorem LosesNone.keeps (h : LosesNone x) (n : Nat) : Keeps (n ≤ ·.objects.length) x :=
  .of_state fun m large => Nat.le_trans large (h m)

theorem losesNone_runMember (o : ObjectNumber) (id : MemberId) (args : List Int32) :
    LosesNone (Machine.runMember o id args) := by
  intro m
  unfold Machine.runMember
  dsimp only
  repeat' split
  all_goals simp

theorem losesNone_make (id : MemberId) (args : List Int32) : LosesNone (Machine.make id args) := by
  intro m
  have none := losesNone_runMember none id args m
  unfold Machine.make
  split <;> simp_all

theorem losesNone_findClass (name : String) : LosesNone (Machine.findClass name) := by
  refine .of_eq fun m => ?_
  cases found : m.layout.class? name with
  | some c => rw [Machine.findClass_of_class? found]
  | none => rw [Machine.findClass_of_none found]

theorem losesNone_findMember (missing : Failure) (isStatic : Bool) (c : Nat)
    (name signature : String) :
    LosesNone (Machine.findMember missing isStatic c name signature) := by
  refine .of_eq fun m => ?_
  unfold Machine.findMember
  dsimp only
  repeat' split
  all_goals rfl

theorem losesNone_strengthen (c : Nat) : LosesNone (Machine.strengthen c) := by
  refine .of_eq fun m => ?_
  unfold Machine.strengthen
  repeat' split
  all_goals rfl

theorem losesNone_pin (c : Nat) : LosesNone (Machine.pin c) := by
  refine .of_eq fun m => ?_
  unfold Machine.pin
  split <;> rfl

theorem losesNone_isInstance (o : ObjectNumber) (c : Nat) : LosesNone (Machine.isInstance o c) :=
  .of_eq fun m => congrArg Machine.objects (isInstance_state o c m)

/-- No request of the cache loses an object. -/
theorem discipline_objects (n : Nat) : host.Discipline fun _ m => n ≤ m.objects.length where
  findClass name := (losesNone_findClass name).keeps n
  classOfPin _ _ large := large
  classOfWeak c := (losesNone_strengthen c).keeps n
  releaseClass _ _ large := large
  findMethod c name s := (losesNone_findMember (.noMethod name s) false c name s).keeps n
  findStaticMethod c name s := (losesNone_findMember (.noMethod name s) true c name s).keeps n
  findField c name s := (losesNone_findMember (.noField name s) false c name s).keeps n
  findStaticField c name s := (losesNone_findMember (.noField name s) true c name s).keeps n
  pin c := (losesNone_pin c).keeps n
  weaken _ _ large := large
  isInstance o c := (losesNone_isInstance o c).keeps n
  callStatic _ id _ args := (losesNone_runMember none id args).keeps n
  newObject _ id _ args := (losesNone_make id args).keeps n
  readStatic _ id _ := (losesNone_runMember none id []).keeps n
  callMethod o id _ args := (losesNone_runMember o id args).keeps n
  readField o id _ := (losesNone_runMember o id []).keeps n
  isNull _ _ large := large
  accepts _ _ _ large := large
  note _ _ _ large := large

/-- Whatever happens, no object is lost. -/
theorem objects_afterOne (m : Machine) (h : Happening) :
    m.objects.length ≤ (m.afterOne h).objects.length := by
  have D := discipline_objects m.objects.length
  cases h with
  | resolve d => exact (D.resolve d).state (Nat.le_refl _)
  | ask b ask => exact (D.answer b ask).state (Nat.le_refl _)
  | release b =>
    show _ ≤ (Machine.objects (b.release m)).length
    unfold Binding.release
    cases b.retained <;> exact Nat.le_refl _
  | feature f => cases f <;> exact Nat.le_refl _

end

/-! ## Handles -/

section

variable {l : Layout} {isStatic : Bool} {c : Nat} {name signature : String} {id : MemberId}

/-- What a look-up found is a member of this signature and staticness. -/
theorem Machine.exists_of_member? {m : Machine}
    (found : m.layout.member? isStatic c name signature = some id) :
    ∃ info x, info ∈ m.layout ∧ x ∈ info.2 ∧ m.member? id = some x ∧ x.signature = signature ∧
      x.isStatic = isStatic := by
  rw [Machine.member?_layout] at found
  obtain ⟨info, there, found⟩ := Option.bind_eq_some_iff.mp found
  obtain ⟨i, place, rfl⟩ := Option.map_eq_some_iff.mp found
  obtain ⟨bound, fits, -⟩ := List.findIdx?_eq_some_iff_getElem.mp place
  simp only [Bool.and_eq_true, beq_iff_eq] at fits
  refine ⟨(info.name, info.members), info.members[i], ?_, List.getElem_mem bound, ?_, fits.1.2,
    fits.2⟩
  · exact List.mem_map.mpr ⟨info, List.mem_of_getElem? there, rfl⟩
  · simp [Machine.member?, there]

end

/-! ## Outcomes -/

/-- No promise was broken. A failure of the machine is told as the cause of a fault, so a broken
promise would be as well. -/
def Unbroken {α : Type} (r : Except (Fault host.Failure) α × Machine) : Prop :=
  ∀ fault, r.1 = .error fault → fault.cause? ≠ some Failure.brokenPromise

/-- No promise was broken, and an object that is handed out is one of the machine. -/
structure Honoured (r : Except (Fault host.Failure) (Reply host) × Machine) : Prop where
  unbroken : Unbroken r
  object : ∀ reply, r.1 = .ok reply → r.2.HasObject (handedOut reply)

section

variable {d : Declaration} {l : Layout} {b : Binding host} {c : Nat} {m : Machine} {name : String}
  {op : Operation} {args : List Int32} {o : ObjectNumber} {ask : Ask host}

theorem Honoured.of_eq {r r' : Except (Fault host.Failure) (Reply host) × Machine}
    (h : Honoured r') (answer : r.1 = r'.1) (objects : r.2.objects = r'.2.objects) :
    Honoured r where
  unbroken fault stopped := h.unbroken fault (answer ▸ stopped)
  object reply ran i there := by
    rw [objects]
    exact h.object reply (answer ▸ ran) i there

theorem Honoured.of_sameHeap {r r' : Except (Fault host.Failure) (Reply host) × Machine}
    (h : Honoured r') (same : Same Machine.SameHeap r r') : Honoured r :=
  h.of_eq same.answer same.state.objects

theorem honoured_direct {α : Type} {x : Machine.Step α} {g : α → Reply host}
    (unbroken : (x m).1 ≠ .error .brokenPromise)
    (object : ∀ v t, x m = (.ok v, t) → t.HasObject (handedOut (g v))) :
    Honoured ((Host.direct (H := host) x >>= fun v => pure (g v)) m) := by
  cases ran : x m with
  | mk answer t =>
    rw [ran] at unbroken
    cases answer with
    | ok v =>
      have told : (Host.direct (H := host) x >>= fun v => pure (g v)) m = (.ok (g v), t) :=
        bind_of_ok (mapError_of_ok ran)
      refine ⟨fun fault stopped => ?_, fun reply answered => ?_⟩
      · cases (congrArg Prod.fst told).symm.trans stopped
      · cases (congrArg Prod.fst told).symm.trans answered
        exact told ▸ object v t ran
    | error e =>
      have told : (Host.direct (H := host) x >>= fun v => pure (g v)) m =
          (.error (.host e), t) :=
        bind_of_error (by simp only [Host.direct, Action.mapError, ran])
      refine ⟨fun fault stopped same => ?_, fun reply answered => ?_⟩
      · cases (congrArg Prod.fst told).symm.trans stopped
        exact unbroken (congrArg Except.error (Option.some.inj same))
      · cases (congrArg Prod.fst told).symm.trans answered

/-- What is refused by the checks has not come to the machine. -/
theorem honoured_of_refused (refused : ¬Allowed (b.answer ask) m) : Honoured (b.answer ask m) := by
  simp only [Allowed, not_forall] at refused
  obtain ⟨fault, stopped, misuse⟩ := refused
  have none : fault.cause? = none :=
    Fault.cause?_eq_none_of_isMisuse (by simpa using misuse)
  refine ⟨fun fault' stopped' same => ?_, fun reply answered => ?_⟩
  · cases stopped.symm.trans stopped'
    cases none.symm.trans same
  · cases stopped.symm.trans answered

/-! ## Members that were looked up -/

variable {x : Member} {id : MemberId}

/-- A method that comes past the checks has its instance, and what adds has its argument. -/
theorem Member.Fits.canRun_method {t : MethodDescriptor} (fits : x.Fits)
    (parsed : MethodDescriptor.parse x.signature = .ok t)
    (length : t.parameters.length = args.length) (inst : m.HasInstance d o) :
    x.CanRun m o args := by
  obtain ⟨i, object, rfl, there, -⟩ := inst
  have found : (m.instance? (some i)).isSome := by simp [Machine.instance?, there]
  obtain ⟨_, _, _, behavior⟩ := x
  cases behavior with
  | make | throws | greatest | constant => trivial
  | holds => exact found
  | add =>
    obtain ⟨-, takes, -⟩ := fits
    refine ⟨found, ?_⟩
    rintro rfl
    exact (takes t parsed).1 (List.eq_nil_of_length_eq_zero length)

/-- What adds is no field. -/
theorem Member.Fits.canRun_field {t : FieldDescriptor} (fits : x.Fits)
    (parsed : FieldDescriptor.parse x.signature = .ok t) (inst : m.HasInstance d o) :
    x.CanRun m o args := by
  obtain ⟨i, object, rfl, there, -⟩ := inst
  have found : (m.instance? (some i)).isSome := by simp [Machine.instance?, there]
  obtain ⟨_, _, _, behavior⟩ := x
  cases behavior with
  | make | throws | greatest | constant => trivial
  | holds => exact found
  | add =>
    obtain ⟨-, -, noField⟩ := fits
    exact absurd parsed (noField t)

/-- A member of the class needs no instance. -/
theorem Member.Fits.canRun_static (fits : x.Fits) (isStatic : x.isStatic = true) :
    x.CanRun m o args := by
  obtain ⟨_, _, _, behavior⟩ := x
  cases behavior with
  | make | throws | greatest | constant => trivial
  | holds | add =>
    obtain ⟨notStatic, -⟩ := fits
    cases notStatic.symm.trans isStatic

/-- What has no result and is no member of the class makes an object, or throws. -/
theorem Member.Fits.makes {t : MethodDescriptor} (fits : x.Fits) (isStatic : x.isStatic = false)
    (parsed : MethodDescriptor.parse x.signature = .ok t) (void : t.result = .primitive .void) :
    x.behavior = .make ∨ x.behavior = .throws := by
  obtain ⟨_, _, _, behavior⟩ := x
  cases behavior with
  | make => exact .inl rfl
  | throws => exact .inr rfl
  | holds =>
    obtain ⟨-, yields⟩ := fits
    exact absurd void (yields t parsed)
  | add =>
    obtain ⟨-, takes, -⟩ := fits
    exact absurd void (takes t parsed).2
  | greatest | constant => cases isStatic.symm.trans fits

/-! ## Requests to bindings -/

/-- The binding is at home on a machine whose members fit, and its constructors have no result. -/
structure Settled (l : Layout) (b : Binding host) : Prop where
  home : ∃ c, Home b.declaration l c b
  makers : ∀ op ∈ b.declaration.operations, op.kind = .constructor → op.ReturnsNothing
  fits : ∀ info ∈ l, ∀ x ∈ info.2, x.Fits

/-- A look-up finds a member that fits. -/
theorem Settled.exists_member {isStatic : Bool} (settled : Settled m.layout b)
    (found : m.layout.member? isStatic c op.member op.signature = some id) :
    ∃ x, m.member? id = some x ∧ x.signature = op.signature ∧ x.isStatic = isStatic ∧ x.Fits := by
  obtain ⟨info, x, mem, has, there, same, static⟩ := Machine.exists_of_member? found
  exact ⟨x, there, same, static, settled.fits info mem x has⟩

theorem honoured_runMember (there : m.member? id = some x) (can : x.CanRun m o args) :
    Honoured ((Host.direct (H := host) (Machine.runMember o id args) >>= fun v =>
      pure (.value v)) m) :=
  honoured_direct (Machine.runMember_ne_brokenPromise_iff.mpr ⟨x, there, can⟩)
    fun _ _ => hasObject_runMember

/-- A request that comes past the checks is made to a member that can run. -/
theorem Settled.honoured_of_passes (settled : Settled m.layout b)
    (passes : Passes b.declaration m ask) : Honoured (b.answer ask m) := by
  obtain ⟨c, home⟩ := settled.home
  cases passes with
  | @call trusted name o args op declared takes inst =>
    obtain ⟨id, t, -, found, comes⟩ : ∃ id t, _ ∧ _ ∧
        Same _ (b.answer (.call trusted name o args) m) _ := home.comes_call declared takes inst
    obtain ⟨x, there, same, -, fits⟩ := settled.exists_member found
    obtain ⟨t, parsed, length, -⟩ := takes
    rw [← same] at parsed
    have can := fits.canRun_method parsed length inst
    exact (honoured_runMember there can).of_sameHeap comes
  | @callStatic name args op declared takes =>
    obtain ⟨id, t, -, found, comes⟩ := home.comes_callStatic declared takes
    obtain ⟨x, there, -, static, fits⟩ := settled.exists_member found
    have can : x.CanRun m none args := fits.canRun_static static
    exact (honoured_runMember there can).of_sameHeap comes
  | @create name args op declared takes =>
    obtain ⟨id, t, -, found, comes⟩ := home.comes_create declared takes
    obtain ⟨x, there, same, static, fits⟩ := settled.exists_member found
    have mem := (Declaration.mem_of_operation? declared.named).1
    obtain ⟨t, parsed, void⟩ := settled.makers op mem declared.kind
    rw [← same] at parsed
    have unbroken : (Machine.make id args m).1 ≠ .error .brokenPromise :=
      Machine.make_ne_brokenPromise there (fits.makes static parsed void)
    exact (honoured_direct unbroken fun _ _ => hasObject_make).of_sameHeap comes
  | read declared inst =>
    obtain ⟨id, t, parsed, found, comes⟩ := home.comes_read declared inst
    obtain ⟨x, there, same, -, fits⟩ := settled.exists_member found
    rw [← same] at parsed
    exact (honoured_runMember there (fits.canRun_field parsed inst)).of_sameHeap comes
  | readStatic declared =>
    obtain ⟨id, t, -, found, comes⟩ := home.comes_readStatic declared
    obtain ⟨x, there, -, static, fits⟩ := settled.exists_member found
    have can : x.CanRun m none [] := fits.canRun_static static
    exact (honoured_runMember there can).of_sameHeap comes
  | acquire =>
    refine Honoured.of_sameHeap ⟨fun fault stopped => ?_, fun reply answered => ?_⟩
      home.comes_acquire
    · cases stopped
    · cases answered
      exact nofun

/-- A program may make this request of a binding: the instance, if there is one, is an object of the
machine, and if it is trusted to be of the class then it is. -/
def Machine.Permits (m : Machine) (b : Binding host) : Ask host → Prop
  | .call false _ o _ | .read false _ o => m.HasObject o
  | .call true _ o _ | .read true _ o => o = none ∨ m.HasInstance b.declaration o
  | .callStatic .. | .create .. | .readStatic _ | .acquire => True

/-- A request that tests its instance either comes past all checks or is refused. -/
theorem Settled.honoured_untrusted (settled : Settled m.layout b) (untrusted : ask.isTrusted = false)
    (known : m.Knows ask) : Honoured (b.answer ask m) := by
  obtain ⟨c, home⟩ := settled.home
  by_cases passes : Passes b.declaration m ask
  · exact settled.honoured_of_passes passes
  · rw [home.passes_iff untrusted known] at passes
    exact honoured_of_refused passes

theorem Machine.HasInstance.hasObject (inst : m.HasInstance d o) : m.HasObject o := by
  obtain ⟨i, x, rfl, there, -⟩ := inst
  rintro j ⟨⟩
  exact (List.getElem?_eq_some_iff.mp there).1

theorem hasObject_of_null_or_instance (known : o = none ∨ m.HasInstance d o) : m.HasObject o := by
  rcases known with rfl | inst
  · exact nofun
  · exact inst.hasObject

/-- A request that trusts its instance comes to the same as one that tests it. -/
theorem Settled.honoured (settled : Settled m.layout b) (permitted : m.Permits b ask) :
    Honoured (b.answer ask m) := by
  obtain ⟨c, home⟩ := settled.home
  match ask, permitted with
  | .call false .., known | .read false .., known => exact settled.honoured_untrusted rfl known
  | .call true name o args, known =>
    have tested : Honoured (b.answer (.call false name o args) m) :=
      settled.honoured_untrusted rfl (hasObject_of_null_or_instance known)
    have even : Same Machine.Even (b.answer (.call false name o args) m)
        (b.answer (.call true name o args) m) := (home.even_call known).reply
    exact tested.of_eq even.answer.symm even.state.objects.symm
  | .read true name o, known =>
    have tested : Honoured (b.answer (.read false name o) m) :=
      settled.honoured_untrusted rfl (hasObject_of_null_or_instance known)
    have even : Same Machine.Even (b.answer (.read false name o) m)
        (b.answer (.read true name o) m) := (home.even_read known).reply
    exact tested.of_eq even.answer.symm even.state.objects.symm
  | .callStatic .., _ | .create .., _ | .readStatic _, _ | .acquire, _ =>
    exact settled.honoured_untrusted rfl trivial

end

/-! ## Resolutions -/

/-- What is wrong with a declaration is found before the machine is asked for anything. -/
theorem cause?_of_firstDefect {className : String} {earlier ops : List Operation}
    {fault : Fault host.Failure} (h : FirstDefect className earlier ops fault) :
    fault.cause? = none := by
  induction h with
  | here defect =>
    cases defect with
    | duplicate => rfl
    | unfit _ unfit => cases unfit <;> rfl
  | later _ _ ih => exact ih

section

variable {l : Layout} {c : Nat}

/-- The request leaves the layout as it was, and no promise is found broken in it. -/
abbrev Keeping {α : Type} (l : Layout) (x : host.Request α) : Prop :=
  Meets (·.layout = l) x (fun _ m => m.layout = l)
    fun fault _ => fault.cause? ≠ some Failure.brokenPromise

theorem keeping_pure {α : Type} (v : α) : Keeping l (pure v) := .pure fun _ held => held

/-- A failure of the machine is told as the cause of a fault. -/
theorem keeping_told {α : Type} {x : Machine.Step α} {told : Failure → Fault host.Failure}
    {F : α → Machine → Prop} (cause : ∀ e, (told e).cause? = some e)
    (h : Meets (·.layout = l) x F fun e _ => e ≠ .brokenPromise) :
    Meets (·.layout = l) (Action.mapError told x) F
      fun fault _ => fault.cause? ≠ some Failure.brokenPromise := by
  refine Meets.mapError_told (h.conseq (fun _ held => held) (fun _ _ held => held) ?_)
  intro e _ other same
  exact other (Option.some.inj ((cause e).symm.trans same))

/-- Members are looked up in classes that are there. -/
theorem meets_findMember_there (there : c < l.length) (missing : Failure)
    (other : missing ≠ .brokenPromise) (isStatic : Bool) (name signature : String) :
    Meets (·.layout = l) (Machine.findMember missing isStatic c name signature)
      (fun _ m => m.layout = l) fun e _ => e ≠ .brokenPromise := by
  rintro m rfl
  obtain ⟨info, found⟩ : ∃ info, m.classes[c]? = some info :=
    ⟨_, List.getElem?_eq_getElem (by simpa [Machine.layout] using there)⟩
  unfold Machine.findMember
  simp only [found]
  cases info.members.findIdx? _ with
  | none => exact other
  | some i => rfl

theorem keeping_lookupOperation (there : c < l.length) (className : String) (op : Operation)
    (plan : Plan) : Keeping l (Host.lookupOperation (H := host) c className op plan) := by
  have methods (isStatic : Bool) :=
    meets_findMember_there there (.noMethod op.member op.signature) nofun isStatic
      op.member op.signature
  have fields (isStatic : Bool) :=
    meets_findMember_there there (.noField op.member op.signature) nofun isStatic
      op.member op.signature
  cases plan with
  | constructor d | method d =>
    exact (keeping_told (fun _ => rfl) (methods false)).bind fun _ => keeping_pure _
  | staticMethod d => exact (keeping_told (fun _ => rfl) (methods true)).bind fun _ => keeping_pure _
  | field d => exact (keeping_told (fun _ => rfl) (fields false)).bind fun _ => keeping_pure _
  | staticField d => exact (keeping_told (fun _ => rfl) (fields true)).bind fun _ => keeping_pure _

theorem keeping_lookupOperations (there : c < l.length) (className : String)
    (plans : List (Operation × Plan)) :
    Keeping l (Host.lookupOperations (H := host) c className plans) := by
  induction plans with
  | nil => exact keeping_pure _
  | cons row rest ih =>
    refine (keeping_lookupOperation there className row.1 row.2).bind fun _ => ?_
    exact ih.bind fun _ => keeping_pure _

theorem keeping_retain (d : Declaration) : Keeping l (Host.retain (H := host) c d) := by
  unfold Host.retain
  cases d.retention with
  | drop => exact keeping_pure _
  | weak =>
    have kept : Meets (·.layout = l) (host.weaken c) (fun _ m => m.layout = l)
        fun e _ => e ≠ Failure.brokenPromise := fun m held => held
    exact (keeping_told (fun _ => rfl) kept).bind fun _ => keeping_pure _
  | global =>
    have pinned : Meets (·.layout = l) (Machine.pin c) (fun _ m => m.layout = l)
        fun e _ => e ≠ .brokenPromise := by
      intro m held
      unfold Machine.pin
      by_cases full : m.pinsFail = true
      · rw [if_pos full]
        exact nofun
      · rw [if_neg full]
        exact held
    exact (keeping_told (fun _ => rfl) pinned).bind fun _ => keeping_pure _

/-- A class that was found is there. -/
theorem meets_findClass_there (name : String) :
    Meets (·.layout = l) (Machine.findClass name) (fun c m => m.layout = l ∧ c < l.length)
      fun e _ => e ≠ .brokenPromise := by
  rintro m rfl
  cases found : m.layout.class? name with
  | none =>
    rw [Machine.findClass_of_none found]
    exact nofun
  | some c =>
    rw [Machine.findClass_of_class? found]
    exact ⟨rfl, (List.findIdx?_eq_some_iff_getElem.mp found).1⟩

/-- A declaration that there are plans for breaks no promise, whatever is missing. -/
theorem keeping_resolve {d : Declaration} {plans : List (Operation × Plan)}
    (planned : d.plans (ε := host.Failure) = .ok plans) : Keeping l (Binding.resolve host d) := by
  have found : Meets (·.layout = l) (Host.classNamed (H := host) d.className)
      (fun (c : Nat) m => m.layout = l ∧ c < l.length) _ :=
    keeping_told (fun _ => rfl) (meets_findClass_there d.className)
  unfold Binding.resolve
  rw [planned]
  refine Meets.bind (F := fun _ m => m.layout = l) ?_ fun plans => ?_
  · exact fun _ held => held
  apply Meets.bind (F := fun _ m => m.layout = l)
  · refine found.bracket fun c => ?_
    rintro m ⟨held, there⟩
    apply meets_tell (K := (·.layout = l)) (fun _ held => held) _ m held
    refine Meets.bind (keeping_lookupOperations there d.className plans) fun rows => ?_
    exact Meets.bind (keeping_retain d) fun _ => keeping_pure _
  · exact fun _ => meets_tell (fun _ held => held) (keeping_pure _)

/-- A resolution breaks no promise. -/
theorem unbroken_resolve (d : Declaration) (m : Machine) :
    Unbroken (Binding.resolve host d m) := by
  intro fault stopped
  cases planned : d.plans (ε := host.Failure) with
  | error e =>
    have invalid := Progress.resolve_of_invalid (H := host) (h := m) planned
    cases (congrArg Prod.fst invalid).symm.trans stopped
    have none := cause?_of_firstDefect (Declaration.plans_eq_error_iff.mp planned)
    exact fun same => nomatch none.symm.trans same
  | ok plans =>
    have met : Keeping m.layout (Binding.resolve host d) := keeping_resolve planned
    exact met.stopped rfl (Prod.ext stopped rfl)

end

/-! ## Runs -/

/-- What programs can do on a machine, with the bindings that were made in the course of it: they
resolve whatever declarations, make requests that are permitted of the bindings they have, drop
bindings, begin sessions, and have classes unloaded and pinning fail. -/
inductive Run : Machine → List (Binding host) → Prop where
  | start : Run {} []
  /-- A binding is made. -/
  | bind {m m' : Machine} {bs : List (Binding host)} {d : Declaration} {b : Binding host}
      (run : Run m bs) (resolved : Binding.resolve host d m = (.ok b, m')) : Run m' (b :: bs)
  /-- Anything happens, with or without success. -/
  | next {m : Machine} {bs : List (Binding host)} (run : Run m bs) (h : Happening)
      (permitted : ∀ b ask, h = .ask b ask → b ∈ bs ∧ m.Permits b ask) : Run (m.afterOne h) bs

section

variable {m m' : Machine} {bs : List (Binding host)} {b : Binding host} {d : Declaration}

/-- A binding that was resolved on a machine whose members fit. -/
theorem settled_of_resolve (resolved : Binding.resolve host d m = (.ok b, m'))
    (fits : ∀ info ∈ m.layout, ∀ x ∈ info.2, x.Fits) : Settled m'.layout b := by
  obtain ⟨stays, c, home⟩ := home_of_resolve resolved
  rw [stays]
  cases Progress.succeeds_of_resolve resolved with
  | intro planned => exact ⟨⟨c, home⟩, Operation.returnsNothing_of_plans planned, fits⟩

/-- The members of the machine are those of every machine, and all bindings are settled. -/
theorem Run.settled (run : Run m bs) :
    m.layout = ({} : Machine).layout ∧ ∀ b ∈ bs, Settled m.layout b := by
  have fits : ∀ info ∈ ({} : Machine).layout, ∀ x ∈ info.2, x.Fits := by
    intro info mem
    obtain ⟨i, standard, rfl⟩ := List.mem_map.mp mem
    exact fits_standard i standard
  induction run with
  | start => exact ⟨rfl, nofun⟩
  | bind run resolved ih =>
    obtain ⟨layout, settled⟩ := ih
    obtain ⟨stays, -⟩ := home_of_resolve resolved
    refine ⟨stays.trans layout, List.forall_mem_cons.mpr ⟨?_, ?_⟩⟩
    · exact settled_of_resolve resolved (layout ▸ fits)
    · rwa [stays]
  | next run h permitted ih => rwa [layout_afterOne]

/-- However a machine was used until now, neither a resolution nor a request that is permitted finds
a promise broken: no class, member or object is missing, no member runs without the instance or the
argument that it needs, and what is run as a constructor makes an object or throws. Objects that are
handed out are there from then on. -/
theorem promises_kept (run : Run m bs) :
    (∀ d, Unbroken (Binding.resolve host d m)) ∧
    (∀ b ∈ bs, ∀ ask, m.Permits b ask → Honoured (b.answer ask m)) ∧
    ∀ h : Happening, m.objects.length ≤ (m.afterOne h).objects.length := by
  obtain ⟨-, settled⟩ := run.settled
  refine ⟨fun d => unbroken_resolve d m, fun b mem ask permitted => ?_, objects_afterOne m⟩
  exact (settled b mem).honoured permitted

/-- A counter was made, and its class was unloaded. To add to it, without a test of its class, breaks
no promise and yields the sum. -/
theorem promises_kept_unloadedCounter : ∃ m b, Run m [b] ∧
    let trusted : Ask host := .call true "add" (some 0 : ObjectNumber) [(2 : Int32)]
    m.Permits b trusted ∧ (b.answer trusted m).1 = .ok (.value (.int 42)) ∧
      Honoured (b.answer trusted m) := by
  have resolved : Binding.resolve host { counter with retention := .weak } {} = (.ok _, _) :=
    (Progress.resolve_of_found (plans_counter .weak) rfl).trans rfl
  have made := (Run.start.bind resolved).next (.ask _ (madeWith 40)) fun b ask same => by
    cases same
    exact ⟨List.mem_singleton.mpr rfl, trivial⟩
  have unloaded := made.next (.feature (.unload "test/Counter")) nofun
  obtain ⟨-, kept, -⟩ := promises_kept unloaded
  refine ⟨_, _, unloaded, ?permitted, rfl, kept _ (List.mem_singleton.mpr rfl) _ ?permitted⟩
  exact .inr ⟨0, ⟨0, 40⟩, rfl, rfl, rfl⟩

end

end HandleCache.Counting

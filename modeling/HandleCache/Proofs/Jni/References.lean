import HandleCache.Jni.Happening
import HandleCache.Proofs.Requests.Discipline
import HandleCache.Proofs.World.Growth

/-!
# References stay what they are

A reference is to the class or object that it was made for, whatever is called and whatever happens
to the classes, and classes, members and objects stay as well. So what is known of a reference when
it is made can be relied on ever after.

## Contents

- `Machine.Refers`: a reference was made, of a kind and to a target, deleted or not
- `Machine.Grows`: what was made before is as it was
- `Machine.Called`: one call of a function, with what all calls have in common
- `Machine.Calls`: what is true of every call so far
- `Stable`: what no call changes, unless it makes a reference that lasts
- `Machine.Later`: what was there before is still there, in the world as well

## Main statements

- `Stable.routine`: what no call changes, no request to a binding does
- `discipline_later`: no request of the host takes anything away
- `Machine.later_after`: nothing that happens does
-/

namespace HandleCache.Jni

open HandleCache.Action

namespace Machine

/-- The reference was made, of this kind and to this target. It may have been deleted since, however
often. -/
def Refers (m : Machine) (r : Reference) (kind : ReferenceKind) (target : Target) : Prop :=
  ∃ n, m.references.info? r = some ⟨kind, target, n⟩

/-- What was made in `m` is still in `m'`, as it was. -/
def Grows (m m' : Machine) : Prop :=
  ∀ r kind target, m.Refers r kind target → m'.Refers r kind target

theorem Refers.ne_none {m : Machine} {r : Reference} {kind : ReferenceKind} {target : Target}
    (h : m.Refers r kind target) : r ≠ none := by
  rintro rfl
  obtain ⟨n, made⟩ := h
  cases made

theorem Grows.refl (m : Machine) : m.Grows m := fun _ _ _ made => made

theorem Grows.trans {m m' m'' : Machine} (h : m.Grows m') (h' : m'.Grows m'') : m.Grows m'' :=
  fun r kind target made => h' r kind target (h r kind target made)

theorem Grows.of_eq {m m' : Machine} (h : m'.references = m.references) : m.Grows m' := by
  intro r kind target made
  unfold Refers at made ⊢
  rwa [h]

/-! ## Making and deleting -/

theorem refers_refer (m : Machine) (kind : ReferenceKind) (target : Target) :
    (m.refer kind target).2.Refers (m.refer kind target).1 kind target := by
  refine ⟨0, ?_⟩
  simp [refer, ReferenceTable.make, ReferenceTable.info?]

theorem grows_refer (m : Machine) (kind : ReferenceKind) (target : Target) :
    m.Grows (m.refer kind target).2 := by
  rintro (_ | i) _ _ ⟨n, made⟩
  · cases made
  · refine ⟨n, ?_⟩
    have old : i < m.references.length := by
      apply Decidable.byContradiction
      intro new
      simp [ReferenceTable.info?, List.getElem?_eq_none (Nat.le_of_not_lt new)] at made
    simp only [refer, ReferenceTable.make, ReferenceTable.info?, Option.bind_some] at made ⊢
    rw [List.getElem?_append_left old]
    exact made

/-- A deletion is counted, and nothing else changes. -/
theorem grows_delete (m : Machine) (r : Reference) :
    m.Grows { m with references := m.references.delete r } := by
  rintro (_ | j) kind target ⟨n, made⟩
  · cases made
  · cases r with
    | none => exact ⟨n, made⟩
    | some i =>
      simp only [ReferenceTable.info?, Option.bind_some] at made
      -- The entry that is deleted keeps its kind and its target too.
      by_cases same : i = j
      · refine ⟨n + 1, ?_⟩
        simp [ReferenceTable.info?, ReferenceTable.delete, List.getElem?_modify, same, made]
      · refine ⟨n, ?_⟩
        simp [ReferenceTable.info?, ReferenceTable.delete, List.getElem?_modify, same, made]

/-! ## Calls -/

end Machine

/-- Whether a function runs a member, which can do anything to objects. -/
def Function.runs : Function → Bool
  | callMethod _ | callStaticMethod _ | newObject | getField _ | getStaticField _ => true
  | _ => false

namespace Machine

/-- A function was called: the call stands in the trace, what was queued for it was taken off, no
reference was taken away, and the world is as it was unless a member was run, and has grown then. -/
structure Called (f : Function) (operands : List Operand) (m m' : Machine) : Prop where
  traced : m'.trace = m.trace ++ [⟨f, operands, m.exception.isSome⟩]
  queue : m'.queue = (next f.name m.queue).2
  grows : m.Grows m'
  world : f.runs = false → m'.world = m.world
  worldGrows : m.world.Grows m'.world

variable {f : Function} {operands : List Operand} {m m' : Machine}

theorem called_enter (f : Function) (operands : List Operand) (m : Machine) :
    Called f operands m (m.enter f operands).2 := by
  unfold enter strike
  dsimp only
  split <;> exact ⟨rfl, rfl, Grows.of_eq rfl, fun _ => rfl, .refl _⟩

/-- A call that has been entered, whether or not it goes wrong. -/
theorem called_of_enter {struck : Bool} (h : m.enter f operands = (struck, m')) :
    Called f operands m m' := by
  have entered := called_enter f operands m
  rw [h] at entered
  exact entered

theorem Called.raise (h : Called f operands m m') (x : String) :
    Called f operands m (m'.raise x) :=
  { h with grows := h.grows.trans (Grows.of_eq rfl) }

theorem Called.refer (h : Called f operands m m') (kind : ReferenceKind) (target : Target) :
    Called f operands m (m'.refer kind target).2 :=
  { h with grows := h.grows.trans (grows_refer m' kind target) }

theorem Called.referObject (h : Called f operands m m') (o : ObjectId) :
    Called f operands m (m'.referObject o).2 := by
  cases o with
  | none => exact h
  | some i => exact h.refer .local (.object i)

/-- A function that runs a member may leave a later world. -/
theorem Called.inWorld (h : Called f operands m m') (runs : f.runs = true) {w : World}
    (later : m'.world.Grows w) : Called f operands m { m' with world := w } :=
  { h with
    grows := h.grows.trans (Grows.of_eq rfl)
    world := fun still => nomatch runs.symm.trans still
    worldGrows := h.worldGrows.trans later }

/-- What a member yields is lifted in the world that it leaves. -/
theorem Called.runMember (h : Called f operands m m') (runs : f.runs = true) (o : ObjectId)
    (id : MemberId) (args : List (Value Reference)) (k : Kind) :
    Called f operands m (m'.runMember o id args k).2 := by
  have later := m'.world.grows_run id o (args.map m'.lower) k
  unfold Machine.runMember
  split
  · next v w ran =>
    rw [ran] at later
    unfold lift
    split
    · exact (h.inWorld runs later).referObject _
    · exact h.inWorld runs later
  · next x w ran =>
    rw [ran] at later
    exact (h.inWorld runs later).raise x

theorem called_findClass (name : String) (m : Machine) :
    Called .findClass [.text name] m (m.findClass name).2 := by
  unfold findClass
  split
  · next h => exact called_of_enter h
  · next h =>
    split
    · exact (called_of_enter h).refer _ _
    · exact (called_of_enter h).raise _

theorem called_getMember (f : Function) (isStatic : Bool) (missing : String) (r : Reference)
    (name signature : String) (m : Machine) :
    Called f [.reference r, .text name, .text signature] m
      (m.getMember f isStatic missing r name signature).2 := by
  unfold getMember
  split
  · next h => exact called_of_enter h
  · next h =>
    split
    · exact called_of_enter h
    · exact (called_of_enter h).raise _

theorem called_callMethod (o : Reference) (id : MemberId) (k : Kind)
    (args : List (Value Reference)) (m : Machine) :
    Called (.callMethod k) [.reference o, .member id, .arguments args] m
      (m.callMethod o id k args).2 := by
  unfold callMethod
  split
  · next h => exact called_of_enter h
  · next h => exact (called_of_enter h).runMember rfl _ id args k

theorem called_callStatic (c : Reference) (id : MemberId) (k : Kind)
    (args : List (Value Reference)) (m : Machine) :
    Called (.callStaticMethod k) [.reference c, .member id, .arguments args] m
      (m.callStatic c id k args).2 := by
  unfold callStatic
  split
  · next h => exact called_of_enter h
  · next h => exact (called_of_enter h).runMember rfl none id args k

theorem called_newObject (c : Reference) (id : MemberId) (args : List (Value Reference))
    (m : Machine) :
    Called .newObject [.reference c, .member id, .arguments args] m (m.newObject c id args).2 := by
  unfold newObject
  split
  · next h => exact called_of_enter h
  · next m' h =>
    have later := m'.world.grows_make ((m'.class? c).getD id.owner) id (args.map m'.lower)
    split
    · next made =>
      rw [made] at later
      exact ((called_of_enter h).inWorld rfl later).referObject _
    · next threw =>
      rw [threw] at later
      exact ((called_of_enter h).inWorld rfl later).raise _

theorem called_getField (o : Reference) (id : MemberId) (k : Kind) (m : Machine) :
    Called (.getField k) [.reference o, .member id] m (m.getField o id k).2 := by
  unfold getField
  split
  · next h => exact called_of_enter h
  · next h => exact (called_of_enter h).runMember rfl _ id [] k

theorem called_getStaticField (c : Reference) (id : MemberId) (k : Kind) (m : Machine) :
    Called (.getStaticField k) [.reference c, .member id] m (m.getStaticField c id k).2 := by
  unfold getStaticField
  split
  · next h => exact called_of_enter h
  · next h => exact (called_of_enter h).runMember rfl none id [] k

theorem called_newReference (kind : ReferenceKind) (r : Reference) (m : Machine) :
    Called (maker kind) [.reference r] m (m.newReference kind r).2 := by
  unfold newReference
  split
  · next h => exact called_of_enter h
  · next h =>
    split
    · exact (called_of_enter h).refer kind _
    · exact (called_of_enter h).refer kind _
    · exact called_of_enter h

theorem called_deleteReference (kind : ReferenceKind) (r : Reference) (m : Machine) :
    Called (deleter kind) [.reference r] m (m.deleteReference kind r) := by
  have entered := called_enter (deleter kind) [.reference r] m
  exact { entered with grows := entered.grows.trans (grows_delete _ r) }

theorem called_isInstanceOf (o c : Reference) (m : Machine) :
    Called .isInstanceOf [.reference o, .reference c] m (m.isInstanceOf o c).2 := by
  unfold isInstanceOf
  split
  · next h => exact called_of_enter h
  · next h => split <;> exact called_of_enter h

theorem called_exceptionClear (m : Machine) :
    Called .exceptionClear [] m m.exceptionClear := by
  have entered := called_enter .exceptionClear [] m
  exact { entered with grows := entered.grows.trans (Grows.of_eq rfl) }

/-! ## What was called -/

/-- Of every call since `m` it is true that `P`. -/
def Calls (m : Machine) (P : Entry → Prop) (m' : Machine) : Prop :=
  ∃ es, m'.trace = m.trace ++ es ∧ ∀ e ∈ es, P e

theorem Calls.refl (m : Machine) (P : Entry → Prop) : m.Calls P m := ⟨[], by simp, by simp⟩

theorem Calls.called {m₀ : Machine} {P : Entry → Prop} (h : m₀.Calls P m)
    (call : m.Called f operands m') (last : P ⟨f, operands, m.exception.isSome⟩) :
    m₀.Calls P m' := by
  obtain ⟨es, traced, known⟩ := h
  refine ⟨es ++ [⟨f, operands, m.exception.isSome⟩], ?_, fun e he => ?_⟩
  · rw [call.traced, traced, List.append_assoc]
  · rcases List.mem_append.mp he with he | he
    · exact known e he
    · rwa [List.mem_singleton.mp he]

end Machine

/-! ## Requests -/

section

variable {α : Type} {K : Machine → Prop} {F : α → Machine → Prop} {S T : Machine → Prop}

/-- An answer is lost to an exception that is pending after the call, and to nothing else. -/
theorem meets_checked_cases {f : Machine → α × Machine} {E : Failure → Machine → Prop}
    (answers : ∀ m, K m → (f m).2.exception = none → F (f m).1 (f m).2)
    (stops : ∀ m x, K m → (f m).2.exception = some x → E .exceptionThrown (f m).2) :
    Meets K (checked f) F E := by
  intro m known
  cases pending : (f m).2.exception with
  | some x =>
    have lost : checked f m = (.error .exceptionThrown, (f m).2) := by simp [checked, pending]
    rw [lost]
    exact stops m x known pending
  | none =>
    have kept : checked f m = (.ok (f m).1, (f m).2) := by simp [checked, pending]
    rw [kept]
    exact answers m known pending

theorem meets_checked {f : Machine → α × Machine} (answers : ∀ m, K m → F (f m).1 (f m).2)
    (stops : ∀ m, K m → S (f m).2) : Meets K (checked f) F fun _ => S :=
  meets_checked_cases (fun m known _ => answers m known) fun m _ known _ => stops m known

/-- Null is answered with a failure, and so is an exception that is pending. -/
theorem meets_nonNull_cases {f : Machine → Option α × Machine} {failure : Failure}
    {E : Failure → Machine → Prop}
    (answers : ∀ m v, K m → (f m).2.exception = none → (f m).1 = some v → F v (f m).2)
    (nulls : ∀ m, K m → (f m).2.exception = none → (f m).1 = none → E failure (f m).2)
    (stops : ∀ m x, K m → (f m).2.exception = some x → E .exceptionThrown (f m).2) :
    Meets K (nonNull failure f) F E := by
  refine Meets.bind (F := fun v m => (∀ a, v = some a → F a m) ∧ (v = none → E failure m))
    (meets_checked_cases (fun m known clear => ⟨fun v => answers m v known clear,
      nulls m known clear⟩) stops) fun v => ?_
  cases v with
  | none => exact .fail fun _ known => known.2 rfl
  | some a => exact .pure fun _ known => known.1 a rfl

theorem meets_nonNull {f : Machine → Option α × Machine} {failure : Failure}
    (answers : ∀ m v, K m → (f m).1 = some v → F v (f m).2) (stops : ∀ m, K m → S (f m).2) :
    Meets K (nonNull failure f) F fun _ => S :=
  meets_nonNull_cases (fun m v known _ => answers m v known) (fun m known _ _ => stops m known)
    fun m _ known _ => stops m known

/-- A look-up that fails takes the pending exception away. -/
theorem meets_lookup {x : Step α} {name signature : String} (h : Meets K x F fun _ => T)
    (stops : ∀ m told, T m → S { m with journal := m.journal ++ [told] }.exceptionClear) :
    Meets K (lookup name signature x) F fun _ => S := by
  intro m known
  have held := h m known
  unfold lookup
  cases hx : x m with
  | mk a m' =>
    rw [hx] at held
    cases a with
    | ok v => exact held
    | error e => exact stops m' _ held

/-- A read is taken as it is, or is lost to an exception that is pending. -/
theorem meets_readAs {k : Kind} {f : Machine → Value Reference × Machine}
    (reads : ∀ m, K m → S (f m).2) : Meets K (readAs k f) (fun _ => S) fun _ => S := by
  cases k with
  | reference => exact meets_checked reads reads
  | primitive p => exact .query reads

/-- Asking for the virtual machine is no call, but takes off what is queued for it. -/
theorem hasVirtualMachine_eq (m : Machine) :
    m.hasVirtualMachine.2 =
      { m with queue := (Machine.next Function.getVirtualMachine.name m.queue).2 } := by
  unfold Machine.hasVirtualMachine Machine.strike
  dsimp only
  split <;> rfl

theorem keeps_requireVirtualMachine
    (asked : ∀ m, K m →
      K { m with queue := (Machine.next Function.getVirtualMachine.name m.queue).2 }) :
    Keeps K requireVirtualMachine := by
  refine Meets.bind (F := fun _ => K) (.query fun m known => ?_) fun had => ?_
  · rw [hasVirtualMachine_eq]
    exact asked m known
  · cases had with
    | true => exact .pure fun _ known => known
    | false => exact .fail fun _ known => known

end

/-! ## What calls keep -/

/-- Whether a function makes a reference that lasts. -/
def Function.lasting : Function → Bool
  | newGlobalRef | newWeakGlobalRef => true
  | _ => false

/-- No call changes that `K` holds, unless it makes a reference that lasts. -/
structure Stable (K : Machine → Prop) : Prop where
  called {f : Function} {operands : List Operand} {m m' : Machine} :
    K m → m.Called f operands m' → f.lasting = false → K m'
  note {m : Machine} (e : LogEntry) : K m → K { m with journal := m.journal ++ [e] }
  /-- The virtual machine was asked for. -/
  asked {m : Machine} : K m →
    K { m with queue := (Machine.next Function.getVirtualMachine.name m.queue).2 }

namespace Stable

variable {α : Type} {K : Machine → Prop} {f : Function} {operands : List Operand}

theorem keeps_checked {g : Machine → α × Machine} (S : Stable K)
    (call : ∀ m : Machine, m.Called f operands (g m).2) (passing : f.lasting = false) :
    Keeps K (checked g) :=
  meets_checked (fun m known => S.called known (call m) passing)
    fun m known => S.called known (call m) passing

theorem keeps_nonNull {failure : Failure} {g : Machine → Option α × Machine} (S : Stable K)
    (call : ∀ m : Machine, m.Called f operands (g m).2) (passing : f.lasting = false) :
    Keeps K (nonNull failure g) :=
  meets_nonNull (fun m _ known _ => S.called known (call m) passing)
    fun m known => S.called known (call m) passing

theorem keeps_lookup {name signature : String} {failure : Failure}
    {g : Machine → Option α × Machine} (S : Stable K)
    (call : ∀ m : Machine, m.Called f operands (g m).2)
    (passing : f.lasting = false) : Keeps K (lookup name signature (nonNull failure g)) :=
  meets_lookup (S.keeps_nonNull call passing) fun _ told known =>
    S.called (S.note told known) (Machine.called_exceptionClear _) rfl

theorem keeps_findClass (S : Stable K) (name : String) : Keeps K (findClass name) :=
  S.keeps_lookup (Machine.called_findClass name) rfl

theorem keeps_findMethod (S : Stable K) (isStatic : Bool) (c : Reference)
    (name signature : String) : Keeps K (findMethod isStatic c name signature) :=
  S.keeps_lookup (Machine.called_getMember _ _ _ _ _ _) (by cases isStatic <;> rfl)

theorem keeps_findField (S : Stable K) (isStatic : Bool) (c : Reference) (name signature : String) :
    Keeps K (findField isStatic c name signature) :=
  S.keeps_lookup (Machine.called_getMember _ _ _ _ _ _) (by cases isStatic <;> rfl)

theorem keeps_machine (S : Stable K) : Keeps K requireVirtualMachine :=
  keeps_requireVirtualMachine fun _ known => S.asked known

/-- What no call changes, no request to a binding does. -/
theorem routine (S : Stable K) : host.Routine fun _ => K where
  findClass := S.keeps_findClass
  classOfPin p := .query fun m known => S.called known (m.called_newReference .local p) rfl
  classOfWeak w := .query fun m known => S.called known (m.called_newReference .local w) rfl
  releaseClass c m known := S.called known (m.called_deleteReference .local c) rfl
  isInstance o c := .query fun m known => S.called known (m.called_isInstanceOf o c) rfl
  callStatic c id _ args := S.keeps_checked (Machine.called_callStatic c id _ args) rfl
  newObject c id _ args := S.keeps_nonNull (Machine.called_newObject c id args) rfl
  readStatic c id _ := meets_readAs fun m known =>
    S.called known (m.called_getStaticField c id _) rfl
  callMethod o id _ args := S.keeps_checked (Machine.called_callMethod o id _ args) rfl
  readField o id _ := meets_readAs fun m known => S.called known (m.called_getField o id _) rfl
  isNull _ _ known := known
  accepts _ _ _ known := known
  note e _ _ known := S.note e known

theorem keeps_lookupOperations (S : Stable K) (c : Reference) (className : String)
    (plans : List (Operation × Plan)) :
    Keeps K (Host.lookupOperations (H := host) c className plans) :=
  Host.keeps_lookupOperations (H := host) c className (S.keeps_findMethod false c)
    (S.keeps_findMethod true c) (S.keeps_findField false c) (S.keeps_findField true c) plans

end Stable

/-! ## What no request takes away -/

namespace Machine

variable {m₀ : Machine}

/-- Whatever was in `m` is still in `m'`: its references are what they were, and its world has
grown. -/
structure Later (m m' : Machine) : Prop where
  references : m.Grows m'
  world : m.world.Grows m'.world

theorem Later.refl (m : Machine) : m.Later m := ⟨Grows.refl m, .refl m.world⟩

theorem Later.trans {m m' m'' : Machine} (h : m.Later m') (h' : m'.Later m'') : m.Later m'' :=
  ⟨h.references.trans h'.references, h.world.trans h'.world⟩

/-- Whatever else is changed. -/
theorem Later.of_eq {m m' : Machine} (references : m'.references = m.references)
    (world : m'.world = m.world) : m.Later m' :=
  ⟨Grows.of_eq references, world ▸ .refl m.world⟩

theorem Called.later {f : Function} {operands : List Operand} {m m' : Machine}
    (h : m.Called f operands m') : m.Later m' :=
  ⟨h.grows, h.worldGrows⟩

theorem stable_later (m₀ : Machine) : Stable m₀.Later where
  called known call _ := known.trans call.later
  note _ known := known.trans (Later.of_eq rfl rfl)
  asked known := known.trans (Later.of_eq rfl rfl)

theorem keeps_later_makeGlobal (r : Reference) : Keeps m₀.Later (makeGlobal r) :=
  (stable_later m₀).keeps_machine.bind fun _ =>
    .query fun m known => known.trans (called_newReference .global r m).later

theorem keeps_later_makeWeak (r : Reference) : Keeps m₀.Later (makeWeak r) := by
  refine (stable_later m₀).keeps_machine.bind fun _ => ?_
  cases r with
  | none => exact .fail fun _ known => known
  | some i =>
    have made : ∀ m, m₀.Later m → m₀.Later (m.newReference .weak (some i)).2 :=
      fun m known => known.trans (called_newReference .weak (some i) m).later
    exact meets_nonNull (fun m _ known _ => made m known) made

/-- No request of the host takes anything away. -/
theorem discipline_later (m₀ : Machine) : host.Discipline fun _ => m₀.Later where
  toRoutine := (stable_later m₀).routine
  findMethod := (stable_later m₀).keeps_findMethod false
  findStaticMethod := (stable_later m₀).keeps_findMethod true
  findField := (stable_later m₀).keeps_findField false
  findStaticField := (stable_later m₀).keeps_findField true
  pin := keeps_later_makeGlobal
  weaken := keeps_later_makeWeak

/-! ## What nothing takes away -/

theorem keeps_later_holdGlobally (o : Reference) : Keeps m₀.Later (holdGlobally o) :=
  .mapError (keeps_later_makeGlobal o)

theorem keeps_later_wrap (b : Binding host) (o : Reference) : Keeps m₀.Later (wrap b o) := by
  unfold wrap
  split
  · exact .fail fun _ known => known
  · have tested := ((discipline_later m₀).service b).requireInstance o
    exact tested.bind fun _ => keeps_later_holdGlobally o

theorem keeps_later_wrapNew (b : Binding host) (name : String) (args : List (Value Reference)) :
    Keeps m₀.Later (wrapNew b name args) := by
  have dropped : ∀ (o : Reference) (m : Machine), m₀.Later m → m₀.Later (dropLocal o m) :=
    fun o m known => known.trans (called_deleteReference .local o m).later
  refine (((discipline_later m₀).service b).create name args).bracket fun o => ?_
  exact (keeps_later_holdGlobally o).conseq (fun _ known => known) (fun _ => dropped o)
    fun _ => dropped o

theorem later_afterOne (m : Machine) (h : Happening) : m.Later (m.afterOne h) := by
  cases h with
  | resolve d => exact ((discipline_later m).resolve d).state (Later.refl m)
  | ask b ask => exact ((discipline_later m).answer b ask).state (Later.refl m)
  | wrap b o => exact (keeps_later_wrap b o).state (Later.refl m)
  | wrapNew b name args => exact (keeps_later_wrapNew b name args).state (Later.refl m)
  | release b =>
    show m.Later (b.release m)
    unfold Binding.release
    cases b.retained with
    | nothing => exact Later.refl m
    | weakly w => exact (called_deleteReference .weak w m).later
    | pinned p => exact (called_deleteReference .global p m).later
  | delete kind r => exact (called_deleteReference kind r m).later
  | change c => exact ⟨Grows.of_eq rfl, m.world.grows_apply c⟩
  | rig f fate => exact Later.of_eq rfl rfl
  | clear => exact Later.of_eq rfl rfl

/-- Whatever happens, nothing that was there is taken away. -/
theorem later_after (m : Machine) (run : List Happening) : m.Later (m.after run) := by
  induction run generalizing m with
  | nil => exact Later.refl m
  | cons first rest ih => exact (later_afterOne m first).trans (ih _)

/-- Every reference stays what it was made for. -/
theorem grows_after (m : Machine) (run : List Happening) : m.Grows (m.after run) :=
  (m.later_after run).references

end Machine

end HandleCache.Jni

import HandleCache.Proofs.Counting.Happening
import HandleCache.Proofs.Requests.Discipline
import HandleCache.Proofs.Requests.Table

/-!
# Where the handles of a binding lie

The counting machine looks classes and members up by their names, and nothing that happens changes
the names. So a binding that was resolved on a machine holds, at any time later, what a look-up on
the machine would find then: this is its home.

## Contents

- `Layout`, `Machine.layout`: the names of all classes and members
- `Located`: a handle is what a look-up of its operation finds
- `Home`: a binding holds what look-ups find

## Main statements

- `layout_after`: whatever happens, all names stay
- `home_resolve`: a binding that was resolved is at home
-/

namespace HandleCache.Counting

open HandleCache.Action

/-! ## Layouts -/

/-- The classes of a machine, each with its name and its members. -/
abbrev Layout : Type := List (String × List Member)

namespace Layout

/-- The class of this name. -/
def class? (l : Layout) (name : String) : Option Nat := l.findIdx? (·.1 == name)

/-- The member of this name, signature and staticness in a class. -/
def member? (l : Layout) (isStatic : Bool) (c : Nat) (name signature : String) :
    Option MemberId :=
  l[c]?.bind fun info =>
    (info.2.findIdx? fun x =>
      x.name == name && x.signature == signature && x.isStatic == isStatic).map (⟨c, ·⟩)

end Layout

namespace Machine

/-- The names that a machine looks up by. -/
def layout (m : Machine) : Layout := m.classes.map fun c => (c.name, c.members)

variable {m : Machine} {l : Layout} {name signature : String} {isStatic : Bool} {c : Nat}

theorem class?_layout (m : Machine) (name : String) :
    m.layout.class? name = m.classes.findIdx? (·.name == name) := by
  simp [layout, Layout.class?, List.findIdx?_map, Function.comp_def]

theorem member?_layout (m : Machine) (isStatic : Bool) (c : Nat) (name signature : String) :
    m.layout.member? isStatic c name signature =
      m.classes[c]?.bind fun info =>
        (info.members.findIdx? fun x =>
          x.name == name && x.signature == signature && x.isStatic == isStatic).map (⟨c, ·⟩) := by
  simp only [layout, Layout.member?, List.getElem?_map, Option.bind_map]
  rfl

/-- A class look-up finds what the layout has. -/
theorem findClass_of_class? (h : m.layout.class? name = some c) :
    findClass name m = (.ok c,
      { m with classLookups := m.classLookups + 1, liveClasses := m.liveClasses + 1 }) := by
  rw [class?_layout] at h
  simp [findClass, h, handOut]

theorem findClass_of_none (h : m.layout.class? name = none) :
    findClass name m = (.error (.noClass name), { m with classLookups := m.classLookups + 1 }) := by
  rw [class?_layout] at h
  simp only [findClass, h]

/-- A member look-up finds what the layout has. -/
theorem findMember_of_member? {missing : Failure} {id : MemberId}
    (h : m.layout.member? isStatic c name signature = some id) :
    findMember missing isStatic c name signature m =
      (.ok id, { m with memberLookups := m.memberLookups + 1 }) := by
  rw [member?_layout] at h
  obtain ⟨info, there, found⟩ := Option.bind_eq_some_iff.mp h
  obtain ⟨i, place, rfl⟩ := Option.map_eq_some_iff.mp found
  simp only [findMember, there, place]

/-- A weak reference to an unloaded class yields none. -/
theorem strengthen_of_unloaded {info : ClassInfo} (there : m.classes[c]? = some info)
    (gone : info.unloaded = true) : strengthen c m = (.ok none, m) := by
  simp [strengthen, there, gone]

theorem strengthen_of_loaded {info : ClassInfo} (there : m.classes[c]? = some info)
    (loaded : ¬info.unloaded = true) :
    strengthen c m = (.ok (some c), { m with liveClasses := m.liveClasses + 1 }) := by
  simp [strengthen, there, loaded]

end Machine

/-! ## Calls -/

/-- What an action answers depends on the classes and the objects alone, and all that it changes are
the objects and the count of calls, which it is one of. -/
def IsCall {α : Type} (x : Machine.Step α) : Prop :=
  ∀ m m' : Machine, m'.classes = m.classes → m'.objects = m.objects →
    x m' = ((x m).1, { m' with objects := (x m).2.objects, calls := m'.calls + 1 })

theorem isCall_runMember (o : ObjectNumber) (id : MemberId) (args : List Int32) :
    IsCall (Machine.runMember o id args) := by
  rintro ⟨classes, objects⟩ ⟨classes', objects'⟩ same same'
  cases same
  cases same'
  simp only [Machine.runMember, Machine.member?, Machine.instance?]
  generalize classes[id.owner]?.bind (·.members[id.index]?) = member
  generalize (o.bind fun i => objects[i]?.map (i, ·)) = found
  cases member with
  | none => rfl
  | some member =>
    dsimp only
    cases member.behavior with
    | make | throws | constant => rfl
    | holds => cases found <;> rfl
    | add =>
      cases found with
      | none => rfl
      | some found => cases args <;> rfl
    | greatest => cases args <;> rfl

/-- A constructor that yields no object was called all the same. -/
theorem isCall_make (id : MemberId) (args : List Int32) : IsCall (Machine.make id args) := by
  intro m m' classes objects
  have same := isCall_runMember none id args m m' classes objects
  unfold Machine.make
  cases run : Machine.runMember none id args m with
  | mk answer after =>
    rw [run] at same
    rw [same]
    cases answer with
    | error e => rfl
    | ok v => cases v <;> rfl

/-! ## What stays -/

section

variable {K : Machine → Prop} {α : Type}

/-- What depends on the classes of a machine alone. -/
def OfClasses (K : Machine → Prop) : Prop := ∀ m m' : Machine, m'.classes = m.classes → K m → K m'

theorem ofClasses_layout (l : Layout) : OfClasses (·.layout = l) := by
  rintro m m' same rfl
  simp only [Machine.layout, same]

/-- An action leaves the classes of a machine as they are. -/
def LeavesClasses (x : Machine.Step α) : Prop := ∀ m, (x m).2.classes = m.classes

theorem LeavesClasses.keeps {x : Machine.Step α} (leaves : LeavesClasses x) (stays : OfClasses K) :
    Keeps K x := by
  intro m held
  have after := stays m (x m).2 (leaves m) held
  cases hx : x m with
  | mk answer t =>
    rw [hx] at after
    cases answer with
    | ok v => exact after
    | error e => exact after

theorem IsCall.leavesClasses {x : Machine.Step α} (call : IsCall x) : LeavesClasses x :=
  fun m => by rw [call m m rfl rfl]

theorem leavesClasses_findClass (name : String) : LeavesClasses (Machine.findClass name) := by
  intro m
  cases found : m.layout.class? name with
  | some c => rw [Machine.findClass_of_class? found]
  | none => rw [Machine.findClass_of_none found]

theorem leavesClasses_findMember (missing : Failure) (isStatic : Bool) (c : Nat)
    (name signature : String) :
    LeavesClasses (Machine.findMember missing isStatic c name signature) := by
  intro m
  unfold Machine.findMember
  dsimp only
  split
  · rfl
  · split <;> rfl

theorem leavesClasses_strengthen (c : Nat) : LeavesClasses (Machine.strengthen c) := by
  intro m
  cases there : m.classes[c]? with
  | none => simp [Machine.strengthen, there]
  | some info =>
    by_cases gone : info.unloaded = true
    · rw [Machine.strengthen_of_unloaded there gone]
    · rw [Machine.strengthen_of_loaded there gone]

theorem leavesClasses_pin (c : Nat) : LeavesClasses (Machine.pin c) := by
  intro m
  unfold Machine.pin
  split <;> rfl

theorem leavesClasses_isInstance (o : ObjectNumber) (c : Nat) :
    LeavesClasses (Machine.isInstance o c) := by
  intro m
  unfold Machine.isInstance
  split
  · rfl
  · split <;> rfl

/-- No request of the cache changes a class. -/
theorem discipline_classes (stays : OfClasses K) : host.Discipline fun _ => K where
  findClass name := (leavesClasses_findClass name).keeps stays
  classOfPin _ m held := stays m _ rfl held
  classOfWeak c := (leavesClasses_strengthen c).keeps stays
  releaseClass _ m held := stays m _ rfl held
  findMethod c n s := (leavesClasses_findMember (.noMethod n s) false c n s).keeps stays
  findStaticMethod c n s := (leavesClasses_findMember (.noMethod n s) true c n s).keeps stays
  findField c n s := (leavesClasses_findMember (.noField n s) false c n s).keeps stays
  findStaticField c n s := (leavesClasses_findMember (.noField n s) true c n s).keeps stays
  pin c := (leavesClasses_pin c).keeps stays
  weaken _ _ held := held
  isInstance o c := (leavesClasses_isInstance o c).keeps stays
  callStatic _ id _ args := (isCall_runMember none id args).leavesClasses.keeps stays
  newObject _ id _ args := (isCall_make id args).leavesClasses.keeps stays
  readStatic _ id _ := (isCall_runMember none id []).leavesClasses.keeps stays
  callMethod o id _ args := (isCall_runMember o id args).leavesClasses.keeps stays
  readField o id _ := (isCall_runMember o id []).leavesClasses.keeps stays
  isNull _ _ held := held
  accepts _ _ _ held := held
  note _ _ m held := stays m _ rfl held

end

section

variable {l : Layout}

theorem meets_findClass (l : Layout) (name : String) :
    Meets (·.layout = l) (Machine.findClass name)
      (fun c m => m.layout = l ∧ l.class? name = some c) fun _ m => m.layout = l := by
  rintro m rfl
  cases found : m.layout.class? name with
  | some c =>
    rw [Machine.findClass_of_class? found]
    exact ⟨rfl, rfl⟩
  | none =>
    rw [Machine.findClass_of_none found]
    rfl

theorem meets_findMember (l : Layout) (missing : Failure) (isStatic : Bool) (c : Nat)
    (name signature : String) :
    Meets (·.layout = l) (Machine.findMember missing isStatic c name signature)
      (fun id m => m.layout = l ∧ l.member? isStatic c name signature = some id)
      fun _ m => m.layout = l := by
  rintro m rfl
  rw [Machine.member?_layout]
  unfold Machine.findMember
  dsimp only
  cases m.classes[c]? with
  | none => rfl
  | some info =>
    dsimp only
    cases found : info.members.findIdx? fun x =>
        x.name == name && x.signature == signature && x.isStatic == isStatic with
    | none => rfl
    | some i => exact ⟨rfl, by simp [found]⟩

/-- No request of the cache changes a name. -/
theorem discipline_layout (l : Layout) : host.Discipline fun _ m => m.layout = l :=
  discipline_classes (ofClasses_layout l)

/-- A binding that gives back what it keeps changes no class. -/
theorem classes_release (b : Binding host) (m : Machine) :
    (Machine.classes (b.release m)) = m.classes := by
  unfold Binding.release
  cases b.retained with
  | nothing => rfl
  | weakly c => rfl
  | pinned c => rfl

theorem layout_afterOne (m : Machine) (h : Happening) : (m.afterOne h).layout = m.layout := by
  cases h with
  | resolve d => exact ((discipline_layout m.layout).resolve d).state rfl
  | ask b ask => exact ((discipline_layout m.layout).answer b ask).state rfl
  | release b => exact ofClasses_layout m.layout m _ (classes_release b m) rfl
  | feature f =>
    cases f with
    | unload name =>
      show (m.unload name).layout = m.layout
      simp only [Machine.unload, Machine.layout, List.map_map]
      apply List.map_congr_left
      intro c _
      show _ = (c.name, c.members)
      dsimp only [Function.comp_apply]
      split <;> rfl
    | failPins on => rfl
    | session => rfl

/-- Whatever happens, all names stay. -/
theorem layout_after (m : Machine) (run : List Happening) : (m.after run).layout = m.layout := by
  induction run generalizing m with
  | nil => rfl
  | cons first rest ih => exact (ih _).trans (layout_afterOne m first)

end

/-! ## Bindings at home -/

/-- The handle is what a look-up of the operation finds in the class `c`, and its descriptor is what
the signature spells. -/
inductive Located (l : Layout) (c : Nat) (op : Operation) : Handle host → Prop where
  | constructor {id : MemberId} {d : MethodDescriptor} : op.kind = .constructor →
      MethodDescriptor.parse op.signature = .ok d →
      l.member? false c op.member op.signature = some id → Located l c op (.constructor id d)
  | method {id : MemberId} {d : MethodDescriptor} : op.kind = .method →
      MethodDescriptor.parse op.signature = .ok d →
      l.member? false c op.member op.signature = some id → Located l c op (.method id d)
  | staticMethod {id : MemberId} {d : MethodDescriptor} : op.kind = .staticMethod →
      MethodDescriptor.parse op.signature = .ok d →
      l.member? true c op.member op.signature = some id → Located l c op (.staticMethod id d)
  | field {id : MemberId} {d : FieldDescriptor} : op.kind = .field →
      FieldDescriptor.parse op.signature = .ok d →
      l.member? false c op.member op.signature = some id → Located l c op (.field id d)
  | staticField {id : MemberId} {d : FieldDescriptor} : op.kind = .staticField →
      FieldDescriptor.parse op.signature = .ok d →
      l.member? true c op.member op.signature = some id → Located l c op (.staticField id d)

/-- What is kept of the class `c` is what the retention asks for. -/
inductive Kept (c : Nat) : Retention → Retained host → Prop where
  | nothing : Kept c .drop .nothing
  | weakly : Kept c .weak (.weakly c)
  | pinned : Kept c .global (.pinned c)

/-- The binding holds what look-ups of the declaration find: its class, each operation in order, and
what is to be kept of the class. -/
structure Home (d : Declaration) (l : Layout) (c : Nat) (b : Binding host) : Prop where
  declaration : b.declaration = d
  class? : l.class? d.className = some c
  operations : b.operations = d.operations
  distinct : (d.operations.map (·.name)).Nodup
  located : ∀ r ∈ b.resolved, Located l c r.operation r.handle
  kept : Kept c d.retention b.retained

section

variable {l : Layout} {c : Nat} {op : Operation} {plan : Plan}

theorem meets_located {y : Machine.Step MemberId} {told : Failure → Fault Failure}
    {kept : MemberId → Handle host} {isStatic : Bool}
    (found : Meets (·.layout = l) y
      (fun id m => m.layout = l ∧ l.member? isStatic c op.member op.signature = some id)
      fun _ m => m.layout = l)
    (located : ∀ id, l.member? isStatic c op.member op.signature = some id →
      Located l c op (kept id)) :
    Meets (·.layout = l) (do let id ← Action.mapError told y; pure (kept id))
      (fun handle m => m.layout = l ∧ Located l c op handle) fun _ m => m.layout = l := by
  apply found.mapError.bind
  intro id
  apply Meets.pure
  exact fun m known => ⟨known.1, located id known.2⟩

/-- An operation that is looked up is located. -/
theorem meets_lookupOperation (className : String) (fits : plan.Fits op) :
    Meets (·.layout = l) (Host.lookupOperation (H := host) c className op plan)
      (fun handle m => m.layout = l ∧ Located l c op handle) fun _ m => m.layout = l := by
  cases fits with
  | constructor kind parsed =>
    exact meets_located (meets_findMember l _ false c _ _) fun id => .constructor kind parsed
  | method kind parsed =>
    exact meets_located (meets_findMember l _ false c _ _) fun id => .method kind parsed
  | staticMethod kind parsed =>
    exact meets_located (meets_findMember l _ true c _ _) fun id => .staticMethod kind parsed
  | field kind parsed =>
    exact meets_located (meets_findMember l _ false c _ _) fun id => .field kind parsed
  | staticField kind parsed =>
    exact meets_located (meets_findMember l _ true c _ _) fun id => .staticField kind parsed

theorem meets_lookupOperations (className : String) {plans : List (Operation × Plan)}
    (fits : ∀ p ∈ plans, p.2.Fits p.1) :
    Meets (·.layout = l) (Host.lookupOperations (H := host) c className plans)
      (fun rows m => m.layout = l ∧ rows.map (·.operation) = plans.map (·.1) ∧
        ∀ r ∈ rows, Located l c r.operation r.handle) fun _ m => m.layout = l := by
  induction plans with
  | nil => exact .pure fun m held => ⟨held, rfl, by simp⟩
  | cons first rest ih =>
    obtain ⟨op, plan⟩ := first
    obtain ⟨here, others⟩ := List.forall_mem_cons.mp fits
    apply (meets_lookupOperation className here).bind
    rintro handle m ⟨held, located⟩
    -- The handle is known by now, whatever is found of the others.
    refine Meets.bind (ih others) (fun rows => .pure ?_) m held
    rintro t ⟨held, names, all⟩
    exact ⟨held, by rw [List.map_cons, names]; rfl, List.forall_mem_cons.mpr ⟨located, all⟩⟩

theorem meets_retain (d : Declaration) :
    Meets (·.layout = l) (Host.retain (H := host) c d)
      (fun kept m => m.layout = l ∧ Kept c d.retention kept) fun _ m => m.layout = l := by
  unfold Host.retain
  cases d.retention with
  | drop => exact .pure fun m held => ⟨held, .nothing⟩
  | weak => exact fun m held => ⟨held, .weakly⟩
  | global =>
    have pinned : Meets (·.layout = l) (Machine.pin c) (fun p m => m.layout = l ∧ p = c)
        fun _ m => m.layout = l := by
      intro m held
      unfold Machine.pin
      by_cases full : m.pinsFail = true
      · rw [if_pos full]
        exact held
      · rw [if_neg full]
        exact ⟨held, rfl⟩
    apply pinned.mapError.bind
    rintro p m ⟨held, rfl⟩
    exact ⟨held, .pinned⟩

theorem meets_tell {β : Type} {K : Machine → Prop} {entry : LogEntry}
    {f : Unit → host.Request β} {G : β → Machine → Prop} {E : Fault host.Failure → Machine → Prop}
    (stays : ∀ m, K m → K (host.note entry m)) (h : Meets K (f ()) G E) :
    Meets K (Host.tell (H := host) entry >>= f) G E :=
  .modify_bind stays h

/-- A binding that was resolved is at home. -/
theorem home_resolve (l : Layout) (d : Declaration) :
    Meets (·.layout = l) (Binding.resolve host d)
      (fun b m => m.layout = l ∧ ∃ c, Home d l c b) fun _ m => m.layout = l := by
  unfold Binding.resolve
  refine .ofExcept_bind (fun plans checked => ?_) fun _ _ _ held => held
  obtain ⟨same, fits⟩ := fits_of_plans checked
  apply Meets.bind (F := fun found m => m.layout = l ∧ ∃ c, Home d l c (.ofRows d found.1 found.2))
  · refine (Meets.mapError (meets_findClass l d.className)).bracket fun c => ?_
    rintro m ⟨held, named⟩
    apply meets_tell (K := (·.layout = l)) (fun _ held => held) _ m held
    apply (meets_lookupOperations d.className fits).bind
    rintro rows t ⟨held, names, located⟩
    apply (meets_retain d).bind _ t held
    rintro kept u ⟨held, kept⟩
    exact ⟨held, c, rfl, named, names.trans same, Declaration.nodup_of_plans checked, located, kept⟩
  · intro found
    apply meets_tell
    · exact fun m known => known
    · exact .pure fun m known => known

end

end HandleCache.Counting

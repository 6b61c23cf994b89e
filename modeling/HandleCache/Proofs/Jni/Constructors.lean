import HandleCache.Proofs.Jni.Nulls
import HandleCache.Proofs.Requests.Defect
import HandleCache.Proofs.Requests.Resolved
import HandleCache.Vm.Plain

/-!
# Which member makes an object

A constructor has no result and is called `<init>`. That it has no result is checked of every
operation that is declared as a constructor, before the host is asked for anything. Its name is not:
the member is looked up under whatever name the declaration has for it, and what was found makes the
objects. So an object is made by a constructor exactly as far as the declaration names one.

## Contents

- `Declaration.Makes`: a handle is that of an operation declared as a constructor
- `World.Has`: a member is the one that an operation names

## Main statements

- `exists_fault_of_result`: a constructor with a result is refused before the host hears of it
- `Jni.backed_of_resolve`: the member behind a handle is the one that its operation names
- `makers_as_declared`: objects are made by the members that are declared as constructors
- `helper_makes_object`: such a member need not be called `<init>`
-/

namespace HandleCache

open HandleCache.Action

variable {H : Host}

/-! ## Declarations -/

/-- A declaration in which a constructor has a result, or no method signature at all, is refused
before the host hears of it. -/
theorem exists_fault_of_result {d : Declaration} {op : Operation} (declared : op ∈ d.operations)
    (kind : op.kind = .constructor) (other : ¬op.ReturnsNothing) (s : H.State) :
    ∃ fault, Binding.resolve H d s = (.error fault, s) := by
  cases planned : d.plans (ε := H.Failure) with
  | error fault => exact ⟨fault, Progress.resolve_of_invalid planned s⟩
  | ok all => exact absurd (Operation.returnsNothing_of_plans planned op declared kind) other

/-! ## Requests -/

/-- The operation of this name is declared as a constructor, and the host answered with this handle
when it was looked up, under the member name and the signature that the declaration has for it. -/
def Declaration.Makes (d : Declaration) (rs : List (Event H)) (name : String) (id : H.MethodId) :
    Prop :=
  ∃ op, d.operation? name = some op ∧ op.kind = .constructor ∧ op.ReturnsNothing ∧
    ∃ c, Event.findMethod c op.member op.signature (.ok id) ∈ rs

/-- Whatever a binding is asked for, objects are made with the handle of the constructor that was
asked for. -/
theorem Issued.makes_answer {d : Declaration} {rs : List (Event H)} {b : Binding H.recorded}
    (issued : Issued d rs b)
    (proper : ∀ op ∈ d.operations, op.kind = .constructor → op.ReturnsNothing)
    (ask : Ask H.recorded) :
    Trail (b.answer ask) fun es _ => ∀ c id t args a, Event.newObject c id t args a ∈ es →
      ∃ name, ask.name? = some name ∧ d.Makes rs name id := by
  refine (issued.through_answer ask).imp fun es a through c id t args answer mem => ?_
  obtain ⟨name, handle, asks, stands, called⟩ := through _ mem rfl
  cases called
  obtain ⟨i, op, c, e, -, named, -, asked, looked⟩ := stands
  cases looked with
  | constructor kind _ =>
    have declared := (Declaration.mem_of_operation? named).1
    exact ⟨name, asks, op, named, kind, proper op declared kind, c, List.mem_of_getElem? asked⟩

/-! ## Members -/

/-- The member behind a handle is the one that the operation names. -/
def World.Has (w : World) (op : Operation) (id : MemberId) : Prop :=
  ∃ x, w.member? id = some x ∧ x.name = op.member ∧ x.signature = op.signature

theorem World.Has.grows {w w' : World} {op : Operation} {id : MemberId} (h : w.Has op id)
    (grows : w.Grows w') : w'.Has op id := by
  obtain ⟨x, there, named⟩ := h
  exact ⟨x, grows.member?_eq there, named⟩

/-- A member that is found is of the name and signature that it was looked up under. -/
theorem World.member?_of_findMember {w : World} {isStatic : Bool} {c : Nat}
    {name signature : String} {id : MemberId}
    (found : w.findMember isStatic c name signature = some id) :
    ∃ x, w.member? id = some x ∧ x.name = name ∧ x.signature = signature := by
  obtain ⟨c', -, own⟩ := List.exists_of_findSome?_eq_some found
  unfold World.ownMember? at own
  obtain ⟨info, at_c, own⟩ := Option.bind_eq_some_iff.mp own
  obtain ⟨i, at_i, own⟩ := Option.bind_eq_some_iff.mp own
  cases own
  obtain ⟨inside, matches_, -⟩ := List.findIdx?_eq_some_iff_getElem.mp at_i
  refine ⟨info.members[i], ?_, ?_⟩
  · simp [World.member?, at_c, inside]
  · simp only [Bool.and_eq_true, beq_iff_eq] at matches_
    exact matches_.1

namespace Jni

/-! ## Tables -/

/-- The member behind a handle. -/
def memberOf : Handle host → MemberId
  | .constructor id _ | .method id _ | .staticMethod id _ => id
  | .field id _ | .staticField id _ => id

/-- The handle of a row is of the kind of its operation, and the member behind it is the one that
the operation names. -/
structure Backed (w : World) (r : ResolvedOperation host) : Prop where
  kind : r.handle.kind = r.operation.kind
  member : w.Has r.operation (memberOf r.handle)

theorem Backed.grows {w w' : World} {r : ResolvedOperation host} (h : Backed w r)
    (grows : w.Grows w') : Backed w' r :=
  ⟨h.kind, h.member.grows grows⟩

namespace Machine

/-- What is true of a machine stays so if it stays true of every later one and the action takes
nothing away. -/
theorem Later.keeps {α : Type} {x : host.Request α} {K : Machine → Prop}
    (endures : ∀ m : Machine, Keeps m.Later x) (stays : ∀ m m', m.Later m' → K m → K m') :
    Keeps K x :=
  .of_state fun m known => stays m _ ((endures m).state (.refl m)) known

theorem member?_of_getMember {f : Function} {isStatic : Bool} {missing name signature : String}
    {r : Reference} {m : Machine} {id : MemberId}
    (found : (m.getMember f isStatic missing r name signature).1 = some id) :
    ∃ x, (m.getMember f isStatic missing r name signature).2.world.member? id = some x ∧
      x.name = name ∧ x.signature = signature := by
  unfold getMember at found ⊢
  split at found
  · cases found
  · next m' entered =>
    cases looked : (m'.class? r).bind fun c => m'.world.findMember isStatic c name signature with
    | none => simp [looked] at found
    | some id' =>
      simp only [looked, Option.some.injEq] at found ⊢
      obtain ⟨c, -, own⟩ := Option.bind_eq_some_iff.mp looked
      exact found ▸ World.member?_of_findMember own

end Machine

/-- A member that was looked up is of the name and signature of its operation. -/
theorem meets_getMember_has {f : Function} {isStatic : Bool} {missing : String} {r : Reference}
    {op : Operation} {failure : Failure} {g : Failure → Fault Failure} {mk : MemberId → Handle host}
    (kind : ∀ id, (mk id).kind = op.kind) (member : ∀ id, memberOf (mk id) = id) :
    Meets (fun _ => True)
      (do
        let id ← Action.mapError g (lookup op.member op.signature (nonNull failure
          (Machine.getMember f isStatic missing r op.member op.signature)))
        pure (mk id))
      (fun handle s => Backed s.world ⟨op, handle⟩) fun _ _ => True := by
  refine Meets.bind (F := fun id s => s.world.Has op id) (.mapError
    (meets_lookup (T := fun _ => True) (meets_nonNull ?_ fun _ _ => trivial) fun _ _ _ => trivial))
    fun id => .pure fun s has => ?_
  · exact fun s id _ found => Machine.member?_of_getMember found
  · exact ⟨kind id, (member id).symm ▸ has⟩

theorem meets_lookupOperation_has {c : Reference} {className : String} {op : Operation}
    {plan : Plan} (fits : plan.Fits op) :
    Meets (fun _ => True) (Host.lookupOperation (H := host) c className op plan)
      (fun handle s => Backed s.world ⟨op, handle⟩) fun _ _ => True := by
  cases fits with
  | constructor kind => exact meets_getMember_has (fun _ => kind.symm) fun _ => rfl
  | method kind => exact meets_getMember_has (fun _ => kind.symm) fun _ => rfl
  | staticMethod kind => exact meets_getMember_has (fun _ => kind.symm) fun _ => rfl
  | field kind => exact meets_getMember_has (fun _ => kind.symm) fun _ => rfl
  | staticField kind => exact meets_getMember_has (fun _ => kind.symm) fun _ => rfl

/-- Each row that is looked up is for its operation, and stays so while the others are. -/
theorem meets_lookupOperations_has {c : Reference} {className : String}
    {plans : List (Operation × Plan)} (fits : ∀ p ∈ plans, p.2.Fits p.1) :
    Meets (fun _ => True) (Host.lookupOperations (H := host) c className plans)
      (fun rows s => rows.map (·.operation) = plans.map (·.1) ∧
        ∀ r ∈ rows, Backed s.world r) fun _ _ => True := by
  induction plans with
  | nil => exact .pure fun _ _ => ⟨rfl, by simp⟩
  | cons first rest ih =>
    obtain ⟨op, plan⟩ := first
    obtain ⟨here, others⟩ := List.forall_mem_cons.mp fits
    refine (meets_lookupOperation_has here).bind fun handle => ?_
    have kept : Keeps (fun s : Machine => Backed s.world ⟨op, handle⟩)
        (Host.lookupOperations (H := host) c className rest) :=
      Machine.Later.keeps (fun m => (Machine.discipline_later m).lookupOperations c className rest)
        fun m m' later backed => backed.grows later.world
    refine (((ih others).and kept).conseq (fun _ known => ⟨trivial, known⟩) (fun _ _ h => h)
      fun _ _ _ => trivial).bind fun rows => .pure fun s known => ?_
    obtain ⟨⟨same, behind⟩, first⟩ := known
    exact ⟨by rw [List.map_cons, same]; rfl, List.forall_mem_cons.mpr ⟨first, behind⟩⟩

/-- The table of a resolution is for the operations of its declaration, and the members behind its
handles are those that they name. -/
theorem backed_of_resolve {d : Declaration} {m₀ m₁ : Machine} {b : Binding host}
    (resolved : Binding.resolve host d m₀ = (.ok b, m₁)) :
    b.operations = d.operations ∧ ∀ r ∈ b.resolved, Backed m₁.world r := by
  cases Progress.succeeds_of_resolve resolved with
  | @intro plans c found looked kept rows retained planned _ looks retains =>
    obtain ⟨same, fits⟩ := fits_of_plans planned
    obtain ⟨names, backed⟩ := (meets_lookupOperations_has fits).answered trivial looks
    refine ⟨names.trans same, fun r mem => (backed r mem).grows ?_⟩
    have retained : looked.Later kept := by
      have held := (((Machine.discipline_later looked).retain c d)).state (.refl looked)
      rwa [retains] at held
    exact (retained.trans (Machine.called_deleteReference .local c kept).later).world

/-! ## Wrapped objects -/

section

variable {m : Machine} {P : Entry → Prop} {b : Binding host}

/-- Looking a class up calls functions that run no member. -/
theorem keeps_calls_findClass (aside : ∀ e : Entry, e.function.runs = false → P e) (name : String) :
    Keeps (m.Calls P) (findClass name) := by
  have found : ∀ s, m.Calls P s → m.Calls P (s.findClass name).2 := fun s known =>
    known.called (s.called_findClass name) (aside _ rfl)
  refine meets_lookup (T := m.Calls P) (meets_nonNull (fun s _ known _ => found s known) found) ?_
  intro s told known
  have noted : m.Calls P { s with journal := s.journal ++ [told] } := known
  exact noted.called (Machine.called_exceptionClear _) (aside _ rfl)

theorem keeps_calls_obtainClass (aside : ∀ e : Entry, e.function.runs = false → P e) :
    Meets (m.Calls P) b.obtainClass (fun _ => m.Calls P) fun _ => m.Calls P := by
  have made : ∀ (r : Reference) s, m.Calls P s → m.Calls P (s.newReference .local r).2 :=
    fun r s known => known.called (s.called_newReference .local r) (aside _ rfl)
  apply b.meets_obtainClass
  · exact fun _ => keeps_calls_findClass aside b.className
  · exact fun p _ => .query (made p)
  · exact fun w _ => .query fun s known => ⟨fun _ _ => made w s known, fun _ => made w s known⟩
  · exact fun s known => known
  · exact fun e s known => known

theorem keeps_calls_holdGlobally (aside : ∀ e : Entry, e.function.runs = false → P e)
    (o : Reference) : Keeps (m.Calls P) (holdGlobally o) :=
  .mapError ((keeps_requireVirtualMachine fun _ known => known).bind fun _ => .query fun s known =>
    known.called (s.called_newReference .global o) (aside _ rfl))

/-- The call makes an object with this handle, if it makes one at all. -/
def Entry.MakesWith (id : MemberId) (e : Entry) : Prop :=
  e.function = .newObject → ∃ r args, e.operands = [.reference r, .member id, .arguments args]

/-- If an object is made to be wrapped, it is with the handle of the constructor. -/
theorem calls_wrapNew {name : String} {args : List (Value Reference)} {op : Operation}
    {id : MemberId} {t : MethodDescriptor} (named : b.constructorNamed name = .ok (op, id, t)) :
    m.Calls (Entry.MakesWith id) (wrapNew b name args m).2 := by
  have aside : ∀ e : Entry, e.function.runs = false → e.MakesWith id := by
    intro e runs makes
    rw [makes] at runs
    cases runs
  have dropped : ∀ (r : Reference) s, m.Calls (Entry.MakesWith id) s →
      m.Calls (Entry.MakesWith id) (dropLocal r s) := fun r s known =>
    known.called (s.called_deleteReference .local r) (aside _ rfl)
  have made : ∀ (c : Reference) s, m.Calls (Entry.MakesWith id) s →
      m.Calls (Entry.MakesWith id) (s.newObject c id args).2 := fun c s known =>
    known.called (s.called_newObject c id args) fun _ => ⟨c, args, rfl⟩
  have creates : Keeps (m.Calls (Entry.MakesWith id)) (b.create name args) := by
    unfold Binding.create
    rw [named]
    refine (b.keeps_requireArguments op t args fun _ _ _ known => known).bind fun _ => ?_
    refine (keeps_calls_obtainClass aside).bracket fun c => .mapError ?_
    exact meets_nonNull (fun s _ known _ => dropped c _ (made c s known)) fun s known =>
      dropped c _ (made c s known)
  have wraps : Keeps (m.Calls (Entry.MakesWith id)) (wrapNew b name args) :=
    creates.bracket fun o => (keeps_calls_holdGlobally aside o).conseq (fun _ known => known)
      (fun _ => dropped o) fun _ => dropped o
  exact wraps.state (Machine.Calls.refl m _)

/-- A constructor that is not to be had makes nothing. -/
theorem wrapNew_of_error {name : String} {args : List (Value Reference)} {fault : Fault Failure}
    (refused : b.constructorNamed name = .error fault) : (wrapNew b name args m).2 = m := by
  have stopped : b.create name args m = (.error fault, m) := by
    unfold Binding.create
    rw [refused]
    rfl
  exact congrArg Prod.snd (Action.bracket_of_error stopped)

end

/-- The handle that a constructor is had by is that of its row. -/
theorem find?_of_constructorNamed {b : Binding host} {name : String} {op : Operation}
    {id : MemberId} {t : MethodDescriptor} (named : b.constructorNamed name = .ok (op, id, t)) :
    b.find? name = some ⟨op, .constructor id t⟩ := by
  unfold Binding.constructorNamed Binding.operation at named
  cases found : b.find? name with
  | none =>
    rw [found] at named
    cases named
  | some r =>
    obtain ⟨op', handle⟩ := r
    rw [found] at named
    cases handle <;> cases named
    rfl

/-- A constructor that a binding has is a declared one, and the member behind its handle is the one
that the declaration names. -/
theorem declared_of_constructorNamed {d : Declaration} {m₀ m₁ : Machine} {b : Binding host}
    (resolved : Binding.resolve host d m₀ = (.ok b, m₁)) {name : String} {op : Operation}
    {id : MemberId} {t : MethodDescriptor} (named : b.constructorNamed name = .ok (op, id, t)) :
    d.operation? name = some op ∧ op.kind = .constructor ∧ op.ReturnsNothing ∧
      m₁.world.Has op id := by
  obtain ⟨same, backed⟩ := backed_of_resolve resolved
  have row := find?_of_constructorNamed named
  have behind := backed _ (Binding.mem_of_find? row).1
  have kind : op.kind = .constructor := behind.kind.symm
  cases Progress.succeeds_of_resolve resolved with
  | intro planned =>
    have declared : d.operation? name = some op := by
      rw [← Binding.map_find? same (Declaration.nodup_of_plans planned), row]
      rfl
    have mem := (Declaration.mem_of_operation? declared).1
    have void := Operation.returnsNothing_of_plans planned op mem kind
    exact ⟨declared, kind, void, behind.member⟩

end Jni

/-- A declaration in which an operation is declared as a constructor that has a result, or no method
signature at all, is refused before the host hears of it. On every host a binding makes objects with
the handle that was answered when the constructor was looked up, under the name that the declaration
has for it: `<init>` if that is what it says there, and else another member. Objects that are made
to be wrapped are made so too, and whatever has happened until then, the member behind the handle is
of that name. -/
theorem makers_as_declared (d : Declaration) :
    (∀ op ∈ d.operations, op.kind = .constructor → ¬op.ReturnsNothing →
      ∀ (H : Host) (s : H.State), ∃ fault, Binding.resolve H d s = (.error fault, s)) ∧
    (∀ (H : Host) (r₀ r₁ : Host.Record H) (b : Binding H.recorded),
      Binding.resolve H.recorded d r₀ = (.ok b, r₁) →
        ∃ rs, r₁.events = r₀.events ++ rs ∧ ∀ ask, Trail (b.answer ask) fun es _ =>
          ∀ c id t args a, Event.newObject c id t args a ∈ es →
            ∃ name, ask.name? = some name ∧ d.Makes rs name id) ∧
    ∀ (m₀ m₁ : Jni.Machine) (b : Binding Jni.host), Binding.resolve Jni.host d m₀ = (.ok b, m₁) →
      ∀ run name args, (m₁.after run).Calls
        (fun e => e.function = .newObject → ∃ r id as op,
          e.operands = [.reference r, .member id, .arguments as] ∧
            d.operation? name = some op ∧ op.kind = .constructor ∧ op.ReturnsNothing ∧
              (m₁.after run).world.Has op id)
        (Jni.wrapNew b name args (m₁.after run)).2 := by
  refine ⟨fun op mem kind other H s => exists_fault_of_result mem kind other s, ?_, ?_⟩
  · intro H r₀ r₁ b resolved
    obtain ⟨rs, events, issued⟩ := issued_resolve resolved
    refine ⟨rs, events, issued.makes_answer ?_⟩
    cases Progress.succeeds_of_resolve resolved with
    | intro planned => exact Operation.returnsNothing_of_plans planned
  · intro m₀ m₁ b resolved run name args
    cases named : b.constructorNamed name with
    | error fault =>
      rw [Jni.wrapNew_of_error named]
      exact Jni.Machine.Calls.refl _ _
    | ok found =>
      obtain ⟨op, id, t⟩ := found
      obtain ⟨declared, kind, void, member⟩ := Jni.declared_of_constructorNamed resolved named
      obtain ⟨es, traced, made⟩ : (m₁.after run).Calls (Jni.Entry.MakesWith id)
        (Jni.wrapNew b name args (m₁.after run)).2 := Jni.calls_wrapNew named
      refine ⟨es, traced, fun e mem makes => ?_⟩
      obtain ⟨r, as, operands⟩ := made e mem makes
      have later := (m₁.later_after run).world
      exact ⟨r, id, as, op, operands, declared, kind, void, member.grows later⟩

/-- A world with one class, which has a constructor and a method that returns nothing either. -/
def workshop : World where
  classes := [{
    name := "a/A"
    parent := none
    members := [⟨"<init>", "()V", false, .nothing⟩, ⟨"helper", "()V", false, .nothing⟩] }]

/-- A constructor under its own name, and what could be declared in its place. -/
def makes (member signature : String) : Declaration :=
  ⟨"a/A", [⟨"make", member, signature, .constructor⟩], .drop⟩

theorem plans_makes (ε : Type) :
    (makes "<init>" "()V").plans (ε := ε) =
      .ok [(⟨"make", "<init>", "()V", .constructor⟩, .constructor ⟨[], .primitive .void⟩)] ∧
    (makes "helper" "()V").plans (ε := ε) =
      .ok [(⟨"make", "helper", "()V", .constructor⟩, .constructor ⟨[], .primitive .void⟩)] := by
  constructor <;> cbv

/-- An object is made to be wrapped, by the constructor of its class. -/
theorem makers_as_declared_workshop : ∃ b m₁,
    Binding.resolve Jni.host (makes "<init>" "()V") { world := workshop } = (.ok b, m₁) ∧
    (Jni.wrapNew b "make" [] m₁).1 = .ok (some 3) ∧
    m₁.Calls
      (fun e => e.function = .newObject → ∃ r id as op,
        e.operands = [.reference r, .member id, .arguments as] ∧
          (makes "<init>" "()V").operation? "make" = some op ∧ op.kind = .constructor ∧
            op.ReturnsNothing ∧ m₁.world.Has op id)
      (Jni.wrapNew b "make" [] m₁).2 := by
  have resolved : Binding.resolve Jni.host (makes "<init>" "()V") { world := workshop } =
      (.ok _, _) :=
    (Progress.resolve_of_found (plans_makes _).1 rfl).trans rfl
  obtain ⟨-, -, calls⟩ := makers_as_declared (makes "<init>" "()V")
  exact ⟨_, _, resolved, rfl, calls _ _ _ resolved [] "make" []⟩

/-- A method that is declared as a constructor is resolved, and an object is made with its
handle. -/
theorem helper_makes_object : ∃ b r₁,
    Binding.resolve Plain.host.recorded (makes "helper" "()V") ⟨{ world := workshop }, []⟩ =
      (.ok b, r₁) ∧
    (∃ op ∈ (makes "helper" "()V").operations, op.kind = .constructor ∧
      op.member ≠ Operation.constructorMember) ∧
    r₁.events = [.findClass "a/A" (.ok (0 : Nat)),
      .findMethod (0 : Nat) "helper" "()V" (.ok (⟨0, 1⟩ : MemberId)), .releaseClass (0 : Nat)] ∧
    (b.answer (.create "make" []) r₁).1 = .ok (.object (some 0 : ObjectId)) ∧
    (b.answer (.create "make" []) r₁).2.events = r₁.events ++
      [.findClass "a/A" (.ok (0 : Nat)),
        .newObject (0 : Nat) (⟨0, 1⟩ : MemberId) ⟨[], .primitive .void⟩ []
          (.ok (some 0 : ObjectId)),
        .releaseClass (0 : Nat)] := by
  have resolved : Binding.resolve Plain.host.recorded (makes "helper" "()V")
      ⟨{ world := workshop }, []⟩ = (.ok _, _) :=
    (Progress.resolve_of_found (plans_makes _).2 rfl).trans rfl
  exact ⟨_, _, resolved, ⟨_, List.mem_singleton_self _, rfl, by decide⟩, rfl, rfl, rfl⟩

end HandleCache

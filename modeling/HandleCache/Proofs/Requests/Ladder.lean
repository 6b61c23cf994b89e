import HandleCache.Binding.Progress
import HandleCache.Proofs.Requests.License

/-!
# The ladder of checks

What a request to a binding comes to is decided check by check. The checks stand in a fixed order
for each kind of request, the first that does not hold decides, and each is told apart by its fault
and by what it asks the machine. Only behind the last of them is the class had, where a call needs
it, and the call made.

## Contents

- `Obtains`: how a class reference is come by
- `Rung`, `Rung.Comes`: a check, what it asks and what comes of it
- `Ask.rungs`: the checks of a request, in order
- `Climb`: what comes of checks in order, and of what stands behind them
- `Calls`: what stands behind the checks of a request

## Main statements

- `Climb.harmless`: a request that is refused as misuse calls nothing
- `answers_in_order`: what every binding that a resolution answers with does when it is asked
-/

namespace HandleCache

variable {H : Host} {α β : Type}

/-! ## The class -/

/-- A reference to the class is had with these requests, or is not to be had: from the pin, from the
weak reference, or by name if nothing is kept or the weak reference was cleared. -/
inductive Obtains (b : Binding H.recorded) :
    List (Event H) → Except (Fault H.Failure) H.ClassRef → Prop where
  /-- A reference is made from the pin, unless that fails. -/
  | pinned {p : H.Pin} {a : Except H.Failure H.ClassRef} :
      b.retained = .pinned p → Obtains b [.classOfPin p a] (a.mapError .host)
  /-- The class of a weak reference is still there. -/
  | upgraded {w : H.Weak} {c : H.ClassRef} :
      b.retained = .weakly w → Obtains b [.classOfWeak w (.ok (some c))] (.ok c)
  | notUpgraded {w : H.Weak} {cause : H.Failure} :
      b.retained = .weakly w → Obtains b [.classOfWeak w (.error cause)] (.error (.host cause))
  /-- The class of a weak reference is gone, and is looked up again. -/
  | cleared {w : H.Weak} {a : Except H.Failure H.ClassRef} :
      b.retained = .weakly w →
      Obtains b [.classOfWeak w (.ok none), .findClass b.className a]
        (a.mapError (.classNotFound b.className))
  | named {a : Except H.Failure H.ClassRef} :
      b.retained = .nothing →
      Obtains b [.findClass b.className a] (a.mapError (.classNotFound b.className))

/-! ## Rungs -/

/-- A check of a request. -/
inductive Rung (H : Host) where
  /-- The operation is declared. -/
  | known (name : String)
  | kind (name : String) (kind : OperationKind)
  /-- The instance is there. -/
  | present (name : String) (o : H.Object)
  /-- There are as many arguments as parameters. -/
  | count (name : String) (args : List H.Argument)
  /-- Each argument fits its parameter. -/
  | types (name : String) (args : List H.Argument)
  /-- The instance is of the bound class. -/
  | ofClass (o : H.Object)

/-- The check of the instance's class, which a trusted instance is spared. -/
def Rung.classOf (o : H.Object) : (trusted : Bool) → List (Rung H)
  | true => []
  | false => [.ofClass o]

/-- The checks of a request, in order. -/
def Ask.rungs : Ask H → List (Rung H)
  | call trusted name o args =>
    .known name :: .kind name .method :: .present name o :: .count name args ::
      .types name args :: Rung.classOf o trusted
  | callStatic name args =>
    [.known name, .kind name .staticMethod, .count name args, .types name args]
  | create name args =>
    [.known name, .kind name .constructor, .count name args, .types name args]
  | read trusted name o =>
    .known name :: .kind name .field :: .present name o :: Rung.classOf o trusted
  | readStatic name => [.known name, .kind name .staticField]
  | acquire => []

/-- The descriptor that the declaration has for an operation. -/
def Declaration.Spells (d : Declaration) (name : String) (t : MethodDescriptor) : Prop :=
  ∃ op, d.operation? name = some op ∧ MethodDescriptor.parse op.signature = .ok t

/-- Arguments that were asked about, and said to fit, one after the other. -/
def accepted (ts : List TypeDescriptor) (args : List H.Argument) : List (Event H) :=
  List.zipWith (fun t a => .accepts t a true) ts args

/-- What a check asks and what comes of it, for a binding to a declaration. -/
inductive Rung.Comes (d : Declaration) (b : Binding H.recorded) :
    Rung H.recorded → List (Event H) → Except (Fault H.Failure) Unit → Prop where
  | known {name : String} {op : Operation} :
      d.operation? name = some op → Comes d b (.known name) [] (.ok ())
  | unknown {name : String} :
      d.operation? name = none →
      Comes d b (.known name) [] (.error (.unknownOperation d.className name))
  | kind {name : String} {op : Operation} :
      d.operation? name = some op → Comes d b (.kind name op.kind) [] (.ok ())
  /-- The fault tells both kinds, the one that was asked for first. -/
  | otherKind {name : String} {kind : OperationKind} {op : Operation} :
      d.operation? name = some op → op.kind ≠ kind →
      Comes d b (.kind name kind) [] (.error (.wrongKind d.className name kind op.kind))
  | present {name : String} {o : H.Object} :
      Comes d b (.present name o) [.isNull o false] (.ok ())
  | missing {name : String} {o : H.Object} :
      Comes d b (.present name o) [.isNull o true] (.error (.nullInstance d.className name))
  | count {name : String} {args : List H.Argument} {t : MethodDescriptor} :
      d.Spells name t → t.parameters.length = args.length → Comes d b (.count name args) [] (.ok ())
  | otherCount {name : String} {args : List H.Argument} {t : MethodDescriptor} :
      d.Spells name t → t.parameters.length ≠ args.length →
      Comes d b (.count name args) []
        (.error (.argumentCount d.className name t.parameters.length args.length))
  /-- Every argument was asked about, and said to fit. -/
  | fit {name : String} {args : List H.Argument} {t : MethodDescriptor} :
      d.Spells name t → Comes d b (.types name args) (accepted t.parameters args) (.ok ())
  /-- The arguments in front of this one were said to fit, and those behind it not asked about. -/
  | misfit {name : String} {args : List H.Argument} {t : MethodDescriptor} {i : Nat}
      {p : TypeDescriptor} {a : H.Argument} :
      d.Spells name t → t.parameters[i]? = some p → args[i]? = some a →
      Comes d b (.types name args)
        (accepted (t.parameters.take i) (args.take i) ++ [.accepts p a false])
        (.error (.argumentType d.className name i p.render))
  | unobtained {o : H.Object} {es : List (Event H)} {fault : Fault H.Failure} :
      Obtains b es (.error fault) → Comes d b (.ofClass o) es (.error fault)
  /-- The test itself fails; the reference is given back all the same. -/
  | untested {o : H.Object} {c : H.ClassRef} {es : List (Event H)} {cause : H.Failure} :
      Obtains b es (.ok c) →
      Comes d b (.ofClass o) (es ++ [.isInstance o c (.error cause)] ++ [.releaseClass c])
        (.error (.host cause))
  /-- The instance is of another class. -/
  | stranger {o : H.Object} {c : H.ClassRef} {es : List (Event H)} :
      Obtains b es (.ok c) →
      Comes d b (.ofClass o) (es ++ [.isInstance o c (.ok false)] ++ [.releaseClass c])
        (.error (.wrongClass d.className))
  | ofClass {o : H.Object} {c : H.ClassRef} {es : List (Event H)} :
      Obtains b es (.ok c) →
      Comes d b (.ofClass o) (es ++ [.isInstance o c (.ok true)] ++ [.releaseClass c]) (.ok ())

/-- What comes of checks in order: the first that does not hold stops the climb, and behind the last
stands what `top` says. -/
inductive Climb (d : Declaration) (b : Binding H.recorded)
    (top : List (Event H) → Except (Fault H.Failure) α → Prop) :
    List (Rung H.recorded) → List (Event H) → Except (Fault H.Failure) α → Prop where
  | top {es : List (Event H)} {a : Except (Fault H.Failure) α} : top es a → Climb d b top [] es a
  /-- A check that does not hold decides; nothing behind it is asked. -/
  | stop {rung : Rung H.recorded} {rest : List (Rung H.recorded)} {es : List (Event H)}
      {fault : Fault H.Failure} :
      rung.Comes d b es (.error fault) → Climb d b top (rung :: rest) es (.error fault)
  | next {rung : Rung H.recorded} {rest : List (Rung H.recorded)} {es fs : List (Event H)}
      {a : Except (Fault H.Failure) α} :
      rung.Comes d b es (.ok ()) → Climb d b top rest fs a →
      Climb d b top (rung :: rest) (es ++ fs) a

/-! ## Behind the checks -/

/-- Whether a request has a reference to the class when it is made. -/
def Ask.isScoped : Ask H → Bool
  | callStatic .. | create .. | readStatic _ | acquire => true
  | call .. | read .. => false

/-- The call that is asked for, with the reference to the class if it needs one: through the handle
that the resolution with the requests `rs` had for the operation. Its answer is the reply, and its
failure the fault. -/
inductive Use (d : Declaration) (rs : List (Event H)) :
    Ask H.recorded → Option H.ClassRef → List (Event H) →
      Except (Fault H.Failure) (Reply H.recorded) → Prop where
  | call {trusted : Bool} {name : String} {o : H.Object} {args : List H.Argument} {id : H.MethodId}
      {t : MethodDescriptor} {a : Except H.Failure H.Value} :
      Stands d rs name (.method id t) →
      Use d rs (.call trusted name o args) none [.callMethod o id t args a]
        ((a.mapError .host).map .value)
  | read {trusted : Bool} {name : String} {o : H.Object} {id : H.FieldId} {t : FieldDescriptor}
      {a : Except H.Failure H.Value} :
      Stands d rs name (.field id t) →
      Use d rs (.read trusted name o) none [.readField o id t a] ((a.mapError .host).map .value)
  | callStatic {name : String} {args : List H.Argument} {id : H.StaticMethodId}
      {t : MethodDescriptor} {c : H.ClassRef} {a : Except H.Failure H.Value} :
      Stands d rs name (.staticMethod id t) →
      Use d rs (.callStatic name args) (some c) [.callStatic c id t args a]
        ((a.mapError .host).map .value)
  | create {name : String} {args : List H.Argument} {id : H.MethodId} {t : MethodDescriptor}
      {c : H.ClassRef} {a : Except H.Failure H.Object} :
      Stands d rs name (.constructor id t) →
      Use d rs (.create name args) (some c) [.newObject c id t args a]
        ((a.mapError .host).map .object)
  | readStatic {name : String} {id : H.StaticFieldId} {t : FieldDescriptor} {c : H.ClassRef}
      {a : Except H.Failure H.Value} :
      Stands d rs name (.staticField id t) →
      Use d rs (.readStatic name) (some c) [.readStatic c id t a] ((a.mapError .host).map .value)
  /-- To have the class is all that was asked for. -/
  | acquire {c : H.ClassRef} : Use d rs .acquire (some c) [] (.ok .nothing)

/-- What stands behind the checks of a request: the class is had, if the request needs it, the call
is made, and the class is given back. -/
inductive Summit (d : Declaration) (rs : List (Event H)) (b : Binding H.recorded)
    (ask : Ask H.recorded) :
    List (Event H) → Except (Fault H.Failure) (Reply H.recorded) → Prop where
  /-- The call is on an instance, and needs no reference to the class. -/
  | direct {es : List (Event H)} {a : Except (Fault H.Failure) (Reply H.recorded)} :
      Use d rs ask none es a → Summit d rs b ask es a
  /-- The class is given back after the call, whatever came of it. -/
  | under {c : H.ClassRef} {es fs : List (Event H)}
      {a : Except (Fault H.Failure) (Reply H.recorded)} :
      Obtains b es (.ok c) → Use d rs ask (some c) fs a →
      Summit d rs b ask (es ++ fs ++ [.releaseClass c]) a
  | unobtained {es : List (Event H)} {fault : Fault H.Failure} :
      ask.isScoped = true → Obtains b es (.error fault) → Summit d rs b ask es (.error fault)

/-! ## Misuse -/

/-- Whether a request asks about an operand and has no effect. -/
def Event.isQuestion : Event H → Bool
  | .isNull .. | .accepts .. => true
  | _ => false

/-- Nothing was called; and unless the instance was found not to be of the class, nothing was asked
but whether operands are there and fit. -/
def Harmless (fault : Fault H.Failure) (es : List (Event H)) : Prop :=
  Quiet Event.isCall es ∧
    ((∃ className, fault = .wrongClass className) ∨ ∀ e ∈ es, e.isQuestion = true)

theorem Obtains.quiet {b : Binding H.recorded} {es : List (Event H)}
    {a : Except (Fault H.Failure) H.ClassRef} (h : Obtains b es a) : Quiet Event.isCall es := by
  cases h <;> simp [Quiet, Event.isCall]

/-- A class that is not to be had is no misuse. -/
theorem Obtains.not_isMisuse {b : Binding H.recorded} {es : List (Event H)}
    {fault : Fault H.Failure} (h : Obtains b es (.error fault)) : fault.isMisuse = false := by
  generalize answer : (Except.error fault : Except (Fault H.Failure) H.ClassRef) = a at h
  cases h with
  | upgraded => cases answer
  | notUpgraded =>
    cases answer
    rfl
  | pinned | cleared | named =>
    obtain ⟨cause, -, rfl⟩ := exists_of_mapError_eq_error answer.symm
    rfl

theorem isQuestion_of_mem_accepted {ts : List TypeDescriptor} {args : List H.Argument}
    {e : Event H} (h : e ∈ accepted ts args) : e.isQuestion = true := by
  induction ts generalizing args with
  | nil => simp [accepted] at h
  | cons t ts ih =>
    cases args with
    | nil => simp [accepted] at h
    | cons arg rest =>
      rcases List.mem_cons.mp h with rfl | h
      · rfl
      · exact ih h

theorem Event.isCall_of_isQuestion {e : Event H} (h : e.isQuestion = true) : e.isCall = false := by
  cases e <;> simp_all [isQuestion, isCall]

namespace Rung

/-- Whether a check has to do with the operands alone. -/
def isLocal : Rung H → Bool
  | ofClass _ => false
  | _ => true

variable {d : Declaration} {b : Binding H.recorded} {rung : Rung H.recorded}
  {es : List (Event H)} {a : Except (Fault H.Failure) Unit}

theorem Comes.isQuestion (h : rung.Comes d b es a) (here : rung.isLocal = true) :
    ∀ e ∈ es, e.isQuestion = true := by
  cases h with
  | fit => exact fun e => isQuestion_of_mem_accepted
  | misfit =>
    intro e mem
    rcases List.mem_append.mp mem with mem | mem
    · exact isQuestion_of_mem_accepted mem
    · rw [List.mem_singleton.mp mem]
      rfl
  | unobtained | untested | stranger | ofClass => cases here
  | _ => simp [Event.isQuestion]

/-- No check is a call. -/
theorem Comes.quiet (h : rung.Comes d b es a) : Quiet Event.isCall es := by
  cases here : rung.isLocal with
  | true => exact fun e mem => Event.isCall_of_isQuestion (h.isQuestion here e mem)
  | false =>
    cases h with
    | unobtained obtained => exact obtained.quiet
    | untested obtained | stranger obtained | ofClass obtained =>
      exact (obtained.quiet.concat rfl).concat rfl
    | _ => cases here

/-- A check that has to do with more than the operands is misuse only of a wrong class. -/
theorem Comes.wrongClass {fault : Fault H.Failure} (h : rung.Comes d b es (.error fault))
    (there : rung.isLocal = false) (misuse : fault.isMisuse = true) :
    ∃ className, fault = .wrongClass className := by
  cases h with
  | stranger => exact ⟨_, rfl⟩
  | untested => cases misuse
  | unobtained obtained =>
    rw [obtained.not_isMisuse] at misuse
    cases misuse
  | _ => cases there

end Rung

theorem Use.not_isMisuse {d : Declaration} {rs es : List (Event H)} {ask : Ask H.recorded}
    {c : Option H.ClassRef} {a : Except (Fault H.Failure) (Reply H.recorded)}
    {fault : Fault H.Failure} (h : Use d rs ask c es a) (answer : a = .error fault) :
    fault.isMisuse = false := by
  cases h with
  | acquire => cases answer
  | _ =>
    obtain ⟨cause, -, rfl⟩ := exists_of_mapError_eq_error (eq_error_of_map answer)
    rfl

/-- What is behind the checks is no misuse, whatever comes of it. -/
theorem Summit.not_isMisuse {d : Declaration} {rs es : List (Event H)} {b : Binding H.recorded}
    {ask : Ask H.recorded} {fault : Fault H.Failure} (h : Summit d rs b ask es (.error fault)) :
    fault.isMisuse = false := by
  generalize answer : (Except.error fault : Except (Fault H.Failure) (Reply H.recorded)) = a at h
  cases h with
  | direct used => exact used.not_isMisuse answer.symm
  | under _ used => exact used.not_isMisuse answer.symm
  | unobtained _ obtained =>
    cases answer
    exact obtained.not_isMisuse

/-- A request that is refused as misuse is harmless, if its checks but for the last have to do with
the operands alone and what is behind them is no misuse. -/
theorem Climb.harmless {d : Declaration} {b : Binding H.recorded}
    {top : List (Event H) → Except (Fault H.Failure) α → Prop} {rungs : List (Rung H.recorded)}
    {es : List (Event H)} {a : Except (Fault H.Failure) α} {fault : Fault H.Failure}
    (h : Climb d b top rungs es a) (answer : a = .error fault)
    (front : ∀ rung ∈ rungs.dropLast, rung.isLocal = true)
    (behind : ∀ es fault, top es (.error fault) → fault.isMisuse = false)
    (misuse : fault.isMisuse = true) : Harmless fault es := by
  -- By induction on the climb: only the last check may have to do with more than the operands, and a
  -- climb that goes on behind it is at the top.
  induction h with
  | top held =>
    subst answer
    rw [behind _ _ held] at misuse
    cases misuse
  | @stop rung rest es _ comes =>
    cases answer
    refine ⟨comes.quiet, ?_⟩
    cases here : rung.isLocal with
    | true => exact .inr (comes.isQuestion here)
    | false => exact .inl (comes.wrongClass here misuse)
  | @next rung rest es fs _ comes climbs ih =>
    cases rest with
    | nil =>
      cases climbs with
      | top held =>
        subst answer
        rw [behind _ _ held] at misuse
        cases misuse
    | cons second others =>
      rw [List.dropLast_cons_of_ne_nil (List.cons_ne_nil second others)] at front
      obtain ⟨here, front⟩ := List.forall_mem_cons.mp front
      obtain ⟨quiet, asked⟩ := ih answer front
      refine ⟨List.forall_mem_append.mpr ⟨comes.quiet, quiet⟩, asked.imp_right fun asked => ?_⟩
      exact List.forall_mem_append.mpr ⟨comes.isQuestion here, asked⟩

/-- An answer that is told in other words. -/
theorem Climb.map {d : Declaration} {b : Binding H.recorded}
    {top : List (Event H) → Except (Fault H.Failure) β → Prop} {g : α → β}
    {rungs : List (Rung H.recorded)} {es : List (Event H)} {a : Except (Fault H.Failure) α}
    (h : Climb d b (fun es a => top es (a.map g)) rungs es a) :
    Climb d b top rungs es (a.map g) := by
  induction h with
  | top held => exact .top held
  | stop comes => exact .stop comes
  | next comes _ ih => exact .next comes ih

theorem Climb.reply {d : Declaration} {b : Binding H.recorded}
    {top : List (Event H) → Except (Fault H.Failure) β → Prop} {g : α → β}
    {rungs : List (Rung H.recorded)} {x : Action (Host.Record H) (Fault H.Failure) α}
    (h : Trail x (Climb d b (fun es a => top es (a.map g)) rungs)) :
    Trail (x >>= fun v => pure (g v)) (Climb d b top rungs) :=
  .reply (h.imp fun _ _ => .map)

/-- A check that asks nothing, and holds. -/
theorem Climb.pass {d : Declaration} {b : Binding H.recorded}
    {top : List (Event H) → Except (Fault H.Failure) α → Prop} {rung : Rung H.recorded}
    {rest : List (Rung H.recorded)} {x : Action (Host.Record H) (Fault H.Failure) α}
    (here : rung.Comes d b [] (.ok ())) (climbs : Trail x (Climb d b top rest)) :
    Trail x (Climb d b top (rung :: rest)) :=
  climbs.imp fun _ _ => .next here

/-- A check comes in front of those behind it. -/
theorem Climb.check {d : Declaration} {b : Binding H.recorded}
    {top : List (Event H) → Except (Fault H.Failure) α → Prop} {rung : Rung H.recorded}
    {rest : List (Rung H.recorded)} {x : Action (Host.Record H) (Fault H.Failure) Unit}
    {f : Unit → Action (Host.Record H) (Fault H.Failure) α}
    (comes : Trail x (rung.Comes d b)) (climbs : Trail (f ()) (Climb d b top rest)) :
    Trail (x >>= f) (Climb d b top (rung :: rest)) :=
  comes.bind (fun _ _ here => climbs.imp fun _ _ => .next here) fun _ _ => .stop

theorem Ask.isLocal_of_mem_dropLast_rungs {ask : Ask H} :
    ∀ rung ∈ ask.rungs.dropLast, rung.isLocal = true := by
  cases ask with
  | call trusted => cases trusted <;> simp [rungs, Rung.classOf, Rung.isLocal]
  | read trusted => cases trusted <;> simp [rungs, Rung.classOf, Rung.isLocal]
  | _ => simp [rungs, Rung.isLocal]

/-! ## Bindings -/

theorem Handle.Looked.kind_eq {c : H.ClassRef} {op : Operation} {handle : Handle H.recorded}
    {e : Event H} (h : handle.Looked c op e) : handle.kind = op.kind := by
  cases h with
  | constructor kind | method kind | staticMethod kind | field kind | staticField kind =>
    exact kind.symm

/-- The method descriptor of a handle, if it is for a member that is called. -/
def Handle.methodDescriptor? : Handle H → Option MethodDescriptor
  | constructor _ t | method _ t | staticMethod _ t => some t
  | field .. | staticField .. => none

theorem Stands.spells {d : Declaration} {rs : List (Event H)} {name : String}
    {handle : Handle H.recorded} {t : MethodDescriptor} (h : Stands d rs name handle)
    (called : handle.methodDescriptor? = some t) : d.Spells name t := by
  obtain ⟨_, op, _, _, -, named, -, -, looked⟩ := h
  cases looked with
  | constructor _ parsed | method _ parsed | staticMethod _ parsed =>
    cases called
    exact ⟨op, named, parsed⟩
  | field | staticField => cases called

/-- The binding is to the declaration, and its table comes from the requests of a resolution. -/
structure Issued (d : Declaration) (rs : List (Event H)) (b : Binding H.recorded) : Prop
    extends Established d b rs where
  declaration : b.declaration = d

namespace Issued

variable {d : Declaration} {rs : List (Event H)} {b : Binding H.recorded} {name : String}
  (issued : Issued d rs b)
include issued

theorem className : b.className = d.className := by
  rw [Binding.className, issued.declaration]

/-- The rows of the table are found as the operations of the declaration are. -/
theorem operation?_eq (name : String) : d.operation? name = (b.find? name).map (·.operation) :=
  (Binding.map_find? issued.declared issued.distinct name).symm

theorem operation?_of_find? {r : ResolvedOperation H.recorded} (found : b.find? name = some r) :
    d.operation? name = some r.operation := by
  rw [issued.operation?_eq, found, Option.map_some]

/-- The handle in a row is of the kind of its operation. -/
theorem kind_of_find? {r : ResolvedOperation H.recorded} (found : b.find? name = some r) :
    r.handle.kind = r.operation.kind := by
  obtain ⟨_, op, _, _, -, named, -, -, looked⟩ := issued.stands found
  obtain rfl : r.operation = op :=
    Option.some.inj ((issued.operation?_of_find? found).symm.trans named)
  exact looked.kind_eq

/-- The first two checks of a request read the row of its operation. The climb goes on with what
`pick` answers from a row of the kind that is asked for. -/
theorem climb_row {kind : OperationKind} (handle : β → Handle H.recorded)
    {pick : ResolvedOperation H.recorded → Except (Fault H.Failure) (Operation × β)}
    {f : Operation × β → Action (Host.Record H) (Fault H.Failure) α}
    {rest : List (Rung H.recorded)} {top : List (Event H) → Except (Fault H.Failure) α → Prop}
    (kinds : ∀ v, (handle v).kind = kind)
    (picks : ∀ r, (∃ v, r.handle = handle v ∧ pick r = .ok (r.operation, v)) ∨
      r.handle.kind ≠ kind ∧ pick r = .error (b.kindFault r kind))
    (climbs : ∀ op v, op.name = name → Stands d rs name (handle v) →
      Trail (f (op, v)) (Climb d b top rest)) :
    Trail (Action.ofExcept (b.operation name >>= pick) >>= f)
      (Climb d b top (.known name :: .kind name kind :: rest)) := by
  cases found : b.find? name with
  | none =>
    have missing : b.operation name = .error (.unknownOperation d.className name) := by
      rw [Binding.operation, found, issued.className]
    have undeclared : d.operation? name = none := by
      rw [issued.operation?_eq, found, Option.map_none]
    rw [missing]
    exact fun _ => Trail.known (.stop (.unknown undeclared))
  | some r =>
    have declared := issued.operation?_of_find? found
    have named : r.operation.name = name := (Declaration.mem_of_operation? declared).2
    have same := issued.kind_of_find? found
    have row : (b.operation name >>= pick) = pick r := by
      rw [Binding.operation, found]
      rfl
    rw [row]
    apply Climb.pass (.known declared)
    rcases picks r with ⟨v, hv, picked⟩ | ⟨other, fault⟩
    · have stands := issued.stands found
      rw [hv] at stands same
      obtain rfl : r.operation.kind = kind := same.symm.trans (kinds v)
      rw [picked]
      exact Climb.pass (.kind declared) (climbs r.operation v named stands)
    · rw [fault, Binding.kindFault, issued.className, named, same]
      rw [same] at other
      exact fun _ => Trail.known (.stop (.otherKind declared other))

section

variable {rest : List (Rung H.recorded)}
  {top : List (Event H) → Except (Fault H.Failure) α → Prop}

theorem climb_method
    {f : Operation × H.MethodId × MethodDescriptor → Action (Host.Record H) (Fault H.Failure) α}
    (climbs : ∀ op id t, op.name = name → Stands d rs name (.method id t) →
      Trail (f (op, id, t)) (Climb d b top rest)) :
    Trail (Action.ofExcept (b.methodNamed name) >>= f)
      (Climb d b top (.known name :: .kind name .method :: rest)) := by
  refine issued.climb_row (fun v => .method v.1 v.2) (fun _ => rfl) ?_ fun op v => climbs op v.1 v.2
  rintro ⟨op, handle⟩
  cases handle with
  | method id t => exact .inl ⟨(id, t), rfl, rfl⟩
  | _ => exact .inr ⟨nofun, rfl⟩

theorem climb_field
    {f : Operation × H.FieldId × FieldDescriptor → Action (Host.Record H) (Fault H.Failure) α}
    (climbs : ∀ op id t, op.name = name → Stands d rs name (.field id t) →
      Trail (f (op, id, t)) (Climb d b top rest)) :
    Trail (Action.ofExcept (b.fieldNamed name) >>= f)
      (Climb d b top (.known name :: .kind name .field :: rest)) := by
  refine issued.climb_row (fun v => .field v.1 v.2) (fun _ => rfl) ?_ fun op v => climbs op v.1 v.2
  rintro ⟨op, handle⟩
  cases handle with
  | field id t => exact .inl ⟨(id, t), rfl, rfl⟩
  | _ => exact .inr ⟨nofun, rfl⟩

theorem climb_staticMethod
    {f : Operation × H.StaticMethodId × MethodDescriptor →
      Action (Host.Record H) (Fault H.Failure) α}
    (climbs : ∀ op id t, op.name = name → Stands d rs name (.staticMethod id t) →
      Trail (f (op, id, t)) (Climb d b top rest)) :
    Trail (Action.ofExcept (b.staticMethodNamed name) >>= f)
      (Climb d b top (.known name :: .kind name .staticMethod :: rest)) := by
  refine issued.climb_row (fun v => .staticMethod v.1 v.2) (fun _ => rfl) ?_ fun op v =>
    climbs op v.1 v.2
  rintro ⟨op, handle⟩
  cases handle with
  | staticMethod id t => exact .inl ⟨(id, t), rfl, rfl⟩
  | _ => exact .inr ⟨nofun, rfl⟩

theorem climb_constructor
    {f : Operation × H.MethodId × MethodDescriptor → Action (Host.Record H) (Fault H.Failure) α}
    (climbs : ∀ op id t, op.name = name → Stands d rs name (.constructor id t) →
      Trail (f (op, id, t)) (Climb d b top rest)) :
    Trail (Action.ofExcept (b.constructorNamed name) >>= f)
      (Climb d b top (.known name :: .kind name .constructor :: rest)) := by
  refine issued.climb_row (fun v => .constructor v.1 v.2) (fun _ => rfl) ?_ fun op v =>
    climbs op v.1 v.2
  rintro ⟨op, handle⟩
  cases handle with
  | constructor id t => exact .inl ⟨(id, t), rfl, rfl⟩
  | _ => exact .inr ⟨nofun, rfl⟩

theorem climb_staticField
    {f : Operation × H.StaticFieldId × FieldDescriptor → Action (Host.Record H) (Fault H.Failure) α}
    (climbs : ∀ op id t, op.name = name → Stands d rs name (.staticField id t) →
      Trail (f (op, id, t)) (Climb d b top rest)) :
    Trail (Action.ofExcept (b.staticFieldNamed name) >>= f)
      (Climb d b top (.known name :: .kind name .staticField :: rest)) := by
  refine issued.climb_row (fun v => .staticField v.1 v.2) (fun _ => rfl) ?_ fun op v =>
    climbs op v.1 v.2
  rintro ⟨op, handle⟩
  cases handle with
  | staticField id t => exact .inl ⟨(id, t), rfl, rfl⟩
  | _ => exact .inr ⟨nofun, rfl⟩

end

/-! ### The checks of the operands -/

theorem comes_requirePresent {op : Operation} (named : op.name = name) (o : H.Object) :
    Trail (b.requirePresent op o) (Rung.Comes d b (.present name o)) := by
  refine Trail.question_bind fun missing => ?_
  cases missing with
  | true =>
    refine Trail.fail ?_
    rw [issued.className, named]
    exact .missing
  | false => exact .pure .present

/-- Arguments are asked about in order, up to the first that does not fit. -/
theorem trail_requireEach (op : Operation) (index : Nat) {ts : List TypeDescriptor}
    {args : List H.Argument} (same : ts.length = args.length) :
    Trail (b.requireEach op index ts args) fun es a =>
      (es = accepted ts args ∧ a = .ok ()) ∨
        ∃ (i : Nat) (p : TypeDescriptor) (arg : H.Argument), ts[i]? = some p ∧ args[i]? = some arg ∧
          es = accepted (ts.take i) (args.take i) ++ [.accepts p arg false] ∧
          a = .error (.argumentType d.className op.name (index + i) p.render) := by
  -- By induction on the parameters; what is found behind an argument that fits is one further on.
  induction ts generalizing index args with
  | nil =>
    cases args with
    | nil => exact .pure (.inl ⟨rfl, rfl⟩)
    | cons arg rest => cases same
  | cons t ts ih =>
    cases args with
    | nil => cases same
    | cons arg rest =>
      refine Trail.question_bind fun fits => ?_
      cases fits with
      | false =>
        refine Trail.fail (.inr ⟨0, t, arg, rfl, rfl, rfl, ?_⟩)
        rw [issued.className]
        rfl
      | true =>
        refine (ih (index + 1) (Nat.succ.inj same)).imp fun es a held => ?_
        rcases held with ⟨rfl, answer⟩ | ⟨i, p, x, hp, hx, rfl, answer⟩
        · exact .inl ⟨rfl, answer⟩
        · refine .inr ⟨i + 1, p, x, hp, hx, rfl, ?_⟩
          rw [answer, Nat.add_assoc, Nat.add_comm 1]

/-- The arguments are counted, and then asked about one by one. -/
theorem climb_requireArguments {op : Operation} {t : MethodDescriptor} {args : List H.Argument}
    {rest : List (Rung H.recorded)} {top : List (Event H) → Except (Fault H.Failure) α → Prop}
    {f : Unit → Action (Host.Record H) (Fault H.Failure) α} (named : op.name = name)
    (spells : d.Spells name t) (climbs : Trail (f ()) (Climb d b top rest)) :
    Trail (b.requireArguments op t args >>= f)
      (Climb d b top (.count name args :: .types name args :: rest)) := by
  unfold Binding.requireArguments
  split
  · next same =>
    apply Climb.pass (.count spells same)
    refine Climb.check ((issued.trail_requireEach op 0 same).imp ?_) climbs
    rintro es a (⟨rfl, rfl⟩ | ⟨i, p, arg, hp, ha, rfl, rfl⟩)
    · exact .fit spells
    · rw [named, Nat.zero_add]
      exact .misfit spells hp ha
  · next other =>
    rw [issued.className, named]
    exact fun _ => Trail.known (.stop (.otherCount spells other))

end Issued

/-! ### The class -/

section

variable {b : Binding H.recorded}

theorem trail_lookupAgain : Trail b.lookupAgain fun es a =>
    ∃ found : Except H.Failure H.ClassRef, es = [.findClass b.className found] ∧
      a = found.mapError (.classNotFound b.className) :=
  .tell_bind .asked

theorem obtains_obtainClass : Trail b.obtainClass (Obtains b) := by
  unfold Binding.obtainClass
  cases kept : b.retained with
  | nothing =>
    refine trail_lookupAgain.imp ?_
    rintro es a ⟨found, rfl, rfl⟩
    exact .named kept
  | pinned p =>
    refine Trail.asked.imp ?_
    rintro es a ⟨had, rfl, rfl⟩
    exact .pinned kept
  | weakly w =>
    refine Trail.request_bind (fun c => ?_) fun cause => .notUpgraded kept
    cases c with
    | some c => exact .pure (.upgraded kept)
    | none =>
      refine .tell_bind (trail_lookupAgain.imp ?_)
      rintro es a ⟨found, rfl, rfl⟩
      exact .cleared kept

end

/-! ### Behind the checks -/

section

variable {d : Declaration} {rs : List (Event H)} {b : Binding H.recorded} {ask : Ask H.recorded}
  {y : Action H.State H.Failure α} {g : α → Reply H.recorded}

theorem climb_direct {event : Except H.Failure α → Event H}
    (uses : ∀ a, Use d rs ask none [event a] ((a.mapError .host).map g)) :
    Trail (Action.mapError Fault.host (Host.Record.request y event))
      (Climb d b (fun es a => Summit d rs b ask es (a.map g)) []) := by
  refine Trail.asked.imp ?_
  rintro es a ⟨answer, rfl, rfl⟩
  exact .top (.direct (uses answer))

theorem climb_withClass {y : H.ClassRef → Action H.State H.Failure α}
    {event : H.ClassRef → Except H.Failure α → Event H} (needs : ask.isScoped = true)
    (uses : ∀ c a, Use d rs ask (some c) [event c a] ((a.mapError .host).map g)) :
    Trail (b.withClass fun c => Action.mapError Fault.host (Host.Record.request (y c) (event c)))
      (Climb d b (fun es a => Summit d rs b ask es (a.map g)) []) := by
  refine Trail.bracket obtains_obtainClass (fun c es obtained => ?_) fun fault es obtained => ?_
  · refine Trail.asked.imp ?_
    rintro fs a ⟨answer, rfl, rfl⟩
    exact .top (.under obtained (uses c answer))
  · exact .top (.unobtained needs obtained)

end

namespace Issued

variable {d : Declaration} {rs : List (Event H)} {b : Binding H.recorded}
  (issued : Issued d rs b)
include issued

theorem comes_requireInstance (o : H.Object) :
    Trail (b.requireInstance o) (Rung.Comes d b (.ofClass o)) := by
  -- The test and the release are made under the reference, and then the answer is judged.
  have tested : Trail (b.withClass fun c => Host.direct (H.recorded.isInstance o c)) fun es a =>
      (∃ fault, Obtains b es (.error fault) ∧ a = .error fault) ∨
        ∃ (c : H.ClassRef) (fs : List (Event H)) (told : Except H.Failure Bool),
          Obtains b fs (.ok c) ∧ es = fs ++ [.isInstance o c told] ++ [.releaseClass c] ∧
            a = told.mapError .host := by
    refine Trail.bracket obtains_obtainClass (fun c fs obtained => ?_) fun fault fs obtained => ?_
    · refine Trail.asked.imp ?_
      rintro es a ⟨told, rfl, rfl⟩
      exact .inr ⟨c, fs, told, obtained, rfl, rfl⟩
    · exact .inl ⟨fault, obtained, rfl⟩
  refine tested.bind ?_ ?_
  · rintro answer es (⟨fault, -, h⟩ | ⟨c, fs, told, obtained, rfl, h⟩)
    · cases h
    · obtain rfl : told = .ok answer := eq_ok_of_mapError h.symm
      cases answer with
      | true =>
        apply Trail.pure
        rw [List.append_nil]
        exact .ofClass obtained
      | false =>
        apply Trail.fail
        rw [List.append_nil, issued.className]
        exact .stranger obtained
  · rintro fault es (⟨_, obtained, h⟩ | ⟨c, fs, told, obtained, rfl, h⟩)
    · cases h
      exact .unobtained obtained
    · obtain ⟨cause, rfl, rfl⟩ := exists_of_mapError_eq_error h.symm
      exact .untested obtained

/-- Whatever is asked for, the checks of the request are made in their order, and what stands behind
them is reached if they hold. -/
theorem climb_answer (ask : Ask H.recorded) :
    Trail (b.answer ask) (Climb d b (Summit d rs b ask) ask.rungs) :=
  match ask with
  | .call true name o args => by
    refine Climb.reply (issued.climb_method fun op id t named stands => ?_)
    apply Climb.check (issued.comes_requirePresent named o)
    apply issued.climb_requireArguments named (stands.spells rfl)
    exact climb_direct fun a => .call stands
  | .call false name o args => by
    refine Climb.reply (issued.climb_method fun op id t named stands => ?_)
    apply Climb.check (issued.comes_requirePresent named o)
    apply issued.climb_requireArguments named (stands.spells rfl)
    apply Climb.check (issued.comes_requireInstance o)
    exact climb_direct fun a => .call stands
  | .callStatic name args => by
    refine Climb.reply (issued.climb_staticMethod fun op id t named stands => ?_)
    apply issued.climb_requireArguments named (stands.spells rfl)
    exact climb_withClass rfl fun c a => .callStatic stands
  | .create name args => by
    refine Climb.reply (issued.climb_constructor fun op id t named stands => ?_)
    apply issued.climb_requireArguments named (stands.spells rfl)
    exact climb_withClass rfl fun c a => .create stands
  | .read true name o => by
    refine Climb.reply (issued.climb_field fun op id t named stands => ?_)
    apply Climb.check (issued.comes_requirePresent named o)
    exact climb_direct fun a => .read stands
  | .read false name o => by
    refine Climb.reply (issued.climb_field fun op id t named stands => ?_)
    apply Climb.check (issued.comes_requirePresent named o)
    apply Climb.check (issued.comes_requireInstance o)
    exact climb_direct fun a => .read stands
  | .readStatic name => by
    refine Climb.reply (issued.climb_staticField fun op id t named stands => ?_)
    exact climb_withClass rfl fun c a => .readStatic stands
  | .acquire => by
    refine Trail.bracket obtains_obtainClass (fun c es obtained => ?_) fun fault es obtained => ?_
    · apply Trail.pure
      exact .top (.under obtained .acquire)
    · exact .top (.unobtained rfl obtained)

end Issued

/-- A resolution issues the binding that it answers with. -/
theorem issued_resolve {d : Declaration} {r₀ r₁ : Host.Record H} {b : Binding H.recorded}
    (resolved : Binding.resolve H.recorded d r₀ = (.ok b, r₁)) :
    ∃ rs, r₁.events = r₀.events ++ rs ∧ Issued d rs b := by
  have held := established_resolve d r₀ r₀ ⟨[], (List.append_nil _).symm, rfl⟩
  rw [resolved] at held
  obtain ⟨rs, events, established⟩ := held
  exact ⟨rs, events, established, Binding.declaration_of_resolve resolved⟩

/-- On every host: whatever a binding that a resolution answered with is asked for, the checks of
the request are made in order, and the first that does not hold is the fault. If all hold the class
is had, where the request needs it, and the call is made once, through the handle that the host gave
out for the operation; its answer is the reply. A request that is refused as misuse calls nothing,
and asks nothing but whether its operands are there and fit, unless the instance turned out not to
be of the class. -/
theorem answers_in_order (H : Host) {d : Declaration} {r₀ r₁ : Host.Record H}
    {b : Binding H.recorded} (resolved : Binding.resolve H.recorded d r₀ = (.ok b, r₁)) :
    ∃ rs, r₁.events = r₀.events ++ rs ∧
      ∀ ask : Ask H.recorded, Trail (b.answer ask) fun es a =>
        Climb d b (Summit d rs b ask) ask.rungs es a ∧
          ∀ fault : Fault H.Failure, a = .error fault → fault.isMisuse = true →
            Harmless fault es := by
  obtain ⟨rs, events, issued⟩ := issued_resolve resolved
  refine ⟨rs, events, fun ask => (issued.climb_answer ask).imp fun es a climb => ⟨climb, ?_⟩⟩
  intro fault answer misuse
  exact climb.harmless answer Ask.isLocal_of_mem_dropLast_rungs
    (fun _ _ => Summit.not_isMisuse) misuse

/-- A counter that is added to. -/
def adder : Declaration := ⟨"test/Counter", [.method "add" "add" "(I)I"], .drop⟩

theorem plans_adder : adder.plans (ε := Counting.Failure) =
    .ok [(.method "add" "add" "(I)I", .method ⟨[.primitive .int], .primitive .int⟩)] := by
  cbv

/-- A counter's method on an instance of another class: with all arguments there it is the class
that is wrong, and with one too few it is their number. -/
theorem answers_in_order_adder : ∃ b r₁ rs,
    Binding.resolve Counting.host.recorded adder ⟨{ objects := [⟨1, 7⟩] }, []⟩ = (.ok b, r₁) ∧
    (b.answer (.call false "add" (some 0 : Counting.ObjectNumber) [(1 : Int32)]) r₁).1 =
      .error (.wrongClass "test/Counter") ∧
    (b.answer (.call false "add" (some 0 : Counting.ObjectNumber) []) r₁).1 =
      .error (.argumentCount "test/Counter" "add" 1 0) ∧
    r₁.events = rs ∧
    ∀ ask : Ask Counting.host.recorded, Trail (b.answer ask) fun es a =>
      Climb adder b (Summit adder rs b ask) ask.rungs es a ∧
      ∀ fault : Fault Counting.Failure, a = .error fault → fault.isMisuse = true →
        Harmless (H := Counting.host) fault es := by
  have resolved : Binding.resolve Counting.host.recorded adder ⟨{ objects := [⟨1, 7⟩] }, []⟩ =
      (.ok _, _) :=
    (Progress.resolve_of_found plans_adder rfl).trans rfl
  obtain ⟨rs, events, climbs⟩ := answers_in_order Counting.host resolved
  exact ⟨_, _, rs, resolved, rfl, rfl, events, climbs⟩

end HandleCache

import HandleCache.Binding.Ask
import HandleCache.Proofs.Requests.Meets

/-!
# Disciplines

What the cache asks of a host follows one pattern. It obtains a class reference, by name or from
what a binding keeps, makes use of it and gives it back; it asks for members and static calls only
with a reference out, and for calls of instances with none. Whatever the requests of a host keep
within this pattern, the cache keeps.

## Contents

- `Binding.Service`: what the requests keep that a binding makes, in three phases
- `Host.Routine`: what the requests of a host keep that are made for a binding
- `Host.Discipline`: what all requests of a host keep, with a class reference out or none
- `Host.Recovers`: what a request keeps that fails for want of what it had to look up

## Main statements

- `Binding.Service.answer`, `Host.Routine.answer`: every request to a binding keeps it
- `Binding.meets_resolve`: what a resolution leads to, from what its parts do
- `Host.Discipline.resolve`: a resolution keeps it
- `Binding.recovers_answer`: requests to a binding recover whatever its look-ups keep
-/

namespace HandleCache

open HandleCache.Action

variable {H : Host} {α : Type}

/-! ## Checks -/

namespace Binding

variable (b : Binding H) (op : Operation) {K : H.State → Prop}

theorem keeps_requirePresent {o : H.Object} (asked : ∀ s, K s → K (H.isNull o s).2) :
    Keeps K (b.requirePresent op o) := by
  refine Meets.bind (F := fun _ => K) (.query asked) fun missing => ?_
  cases missing with
  | true => exact .fail fun _ h => h
  | false => exact .pure fun _ h => h

theorem meets_requireEach {E : Fault H.Failure → H.State → Prop} (index : Nat)
    (ts : List TypeDescriptor) (args : List H.Argument)
    (asked : ∀ t a s, K s → K (H.accepts t a s).2)
    (refused : ∀ index (t : TypeDescriptor) s, K s →
      E (.argumentType b.className op.name index t.render) s) :
    Meets K (b.requireEach op index ts args) (fun _ => K) E := by
  induction ts generalizing index args with
  | nil => exact .pure fun _ h => h
  | cons t ts ih =>
    cases args with
    | nil => exact .pure fun _ h => h
    | cons arg rest =>
      refine Meets.bind (F := fun _ => K) (.query (asked t arg)) fun fits => ?_
      cases fits with
      | true => exact ih (index + 1) rest
      | false => exact .fail (refused index t)

/-- Arguments are refused for their number, or else for one of them. -/
theorem meets_requireArguments {E : Fault H.Failure → H.State → Prop} (d : MethodDescriptor)
    (args : List H.Argument) (asked : ∀ t a s, K s → K (H.accepts t a s).2)
    (counted : ∀ s, K s →
      E (.argumentCount b.className op.name d.parameters.length args.length) s)
    (refused : ∀ index (t : TypeDescriptor) s, K s →
      E (.argumentType b.className op.name index t.render) s) :
    Meets K (b.requireArguments op d args) (fun _ => K) E := by
  unfold requireArguments
  split
  · exact b.meets_requireEach op 0 d.parameters args asked refused
  · exact .fail counted

theorem keeps_requireArguments (d : MethodDescriptor) (args : List H.Argument)
    (asked : ∀ t a s, K s → K (H.accepts t a s).2) : Keeps K (b.requireArguments op d args) :=
  b.meets_requireArguments op d args asked (fun _ h => h) fun _ _ _ h => h

/-- However the class is obtained: by name, from a pin, or from a weak reference that was not
cleared. A pinned class is never looked up. -/
theorem meets_obtainClass {J : H.State → Prop} {F : H.ClassRef → H.State → Prop}
    (found : (∀ p, b.retained ≠ .pinned p) → Meets J (H.findClass b.className) F fun _ => J)
    (pinned : ∀ p, b.retained = .pinned p → Meets K (H.classOfPin p) F fun _ => J)
    (kept : ∀ w, b.retained = .weakly w → Meets K (H.classOfWeak w)
      (fun c s => (∀ r, c = some r → F r s) ∧ (c = none → J s)) fun _ => J)
    (begun : ∀ s, K s → J s) (noted : ∀ e s, J s → J (H.note e s)) :
    Meets K b.obtainClass F fun _ => J := by
  have again (unpinned : ∀ p, b.retained ≠ .pinned p) : Meets J b.lookupAgain F fun _ => J :=
    .modify_bind (noted _) (.mapError (found unpinned))
  unfold Binding.obtainClass
  cases retained : b.retained with
  | nothing => exact (again (by simp [retained])).conseq begun (fun _ _ h => h) fun _ _ h => h
  | pinned p => exact .mapError (pinned p retained)
  | weakly w =>
    refine (Meets.mapError (kept w retained)).bind fun c => ?_
    cases c with
    | some r => exact .pure fun _ h => h.1 r rfl
    | none =>
      have cleared :
          Meets J (do Host.tell (.weakCleared b.className); b.lookupAgain) F fun _ => J :=
        .modify_bind (noted _) (again (by simp [retained]))
      exact cleared.conseq (fun _ h => h.2 rfl) (fun _ _ h => h) fun _ _ h => h

/-- Nothing is refused as misuse when the class is obtained. -/
theorem not_isMisuse_obtainClass (b : Binding H) :
    Meets (fun _ => True) b.obtainClass (fun _ _ => True) fun f _ => f.isMisuse = false := by
  have again : Meets (fun _ => True) b.lookupAgain (fun _ _ => True)
      fun f _ => f.isMisuse = false :=
    .modify_bind (fun _ h => h) (.told fun _ => rfl)
  unfold obtainClass
  cases b.retained with
  | nothing => exact again
  | pinned p => exact .told fun _ => rfl
  | weakly w =>
    refine Meets.bind (F := fun _ _ => True) ?_ fun c => ?_
    · exact .told fun _ => rfl
    · cases c with
      | some r => exact .pure fun _ h => h
      | none => exact .modify_bind (fun _ h => h) again

end Binding

/-- Members are looked up one after the other, by the requests of their kinds. -/
theorem Host.keeps_lookupOperations {K : H.State → Prop} (c : H.ClassRef) (className : String)
    (methods : ∀ n s, Keeps K (H.findMethod c n s))
    (staticMethods : ∀ n s, Keeps K (H.findStaticMethod c n s))
    (fields : ∀ n s, Keeps K (H.findField c n s))
    (staticFields : ∀ n s, Keeps K (H.findStaticField c n s)) (plans : List (Operation × Plan)) :
    Keeps K (Host.lookupOperations c className plans) := by
  induction plans with
  | nil => exact .pure fun _ h => h
  | cons first rest ih =>
    obtain ⟨op, plan⟩ := first
    refine Meets.bind (F := fun _ => K) ?_ fun _ => ih.bind fun _ => .pure fun _ h => h
    cases plan with
    | constructor => exact (Meets.mapError (methods _ _)).bind fun _ => .pure fun _ h => h
    | method => exact (Meets.mapError (methods _ _)).bind fun _ => .pure fun _ h => h
    | staticMethod => exact (Meets.mapError (staticMethods _ _)).bind fun _ => .pure fun _ h => h
    | field => exact (Meets.mapError (fields _ _)).bind fun _ => .pure fun _ h => h
    | staticField => exact (Meets.mapError (staticFields _ _)).bind fun _ => .pure fun _ h => h

/-- The lasting reference is made by the request that the declaration asks for. -/
theorem Host.meets_retain {K : H.State → Prop} {F : Retained H → H.State → Prop}
    {E : Fault H.Failure → H.State → Prop} (c : H.ClassRef) (d : Declaration)
    (drop : d.retention = .drop → ∀ s, K s → F .nothing s)
    (weak : d.retention = .weak → Meets K (H.weaken c) (fun w => F (.weakly w))
      fun e => E (.classNotRetained d.className e))
    (pin : d.retention = .global → Meets K (H.pin c) (fun p => F (.pinned p))
      fun e => E (.classNotRetained d.className e)) : Meets K (Host.retain c d) F E := by
  unfold Host.retain
  cases retention : d.retention with
  | drop => exact .pure (drop retention)
  | weak => exact (Meets.mapError_told (weak retention)).bind fun _ => .pure fun _ h => h
  | global => exact (Meets.mapError_told (pin retention)).bind fun _ => .pure fun _ h => h

/-- A resolution finds the class, looks the members up with the reference to it, makes the lasting
reference, and gives the class back whatever came of this. -/
theorem Binding.meets_resolve {K : H.State → Prop} {I : H.ClassRef → H.State → Prop}
    {F : Retained H → H.State → Prop} {E : Fault H.Failure → H.State → Prop} (d : Declaration)
    (malformed : ∀ fault s, K s → E fault s)
    (found : Meets K (Host.classNamed d.className) I E)
    (looked : ∀ c plans, Meets (I c) (Host.lookupOperations c d.className plans) (fun _ => I c)
      fun e s => E e (H.releaseClass c s))
    (retained : ∀ c, Meets (I c) (Host.retain c d) (fun kept s => F kept (H.releaseClass c s))
      fun e s => E e (H.releaseClass c s))
    (noted : ∀ e c s, I c s → I c (H.note e s))
    (told : ∀ e kept s, F kept s → F kept (H.note e s)) :
    Meets K (Binding.resolve H d) (fun b s => b.declaration = d ∧ F b.retained s) E := by
  unfold Binding.resolve
  refine .ofExcept_bind (fun plans _ => ?_) fun fault s _ h => malformed fault s h
  refine Meets.bind (F := fun p => F p.2) ?_ fun (rows, kept) =>
    .modify_bind (told _ kept) (.pure fun _ h => ⟨rfl, h⟩)
  refine found.bracket fun c => .modify_bind (noted _ c) ?_
  exact (looked c plans).bind fun _ => (retained c).bind fun _ => .pure fun _ h => h

/-- A binding is to the declaration that it was resolved from. -/
theorem Binding.declaration_of_resolve {d : Declaration} {s t : H.State} {b : Binding H}
    (resolved : Binding.resolve H d s = (.ok b, t)) : b.declaration = d := by
  have met : Meets (fun _ => True) (Binding.resolve H d) (fun b _ => b.declaration = d ∧ True)
      fun _ _ => True := by
    apply Binding.meets_resolve (I := fun _ _ => True) (F := fun _ _ => True)
    case malformed | noted | told => intros; trivial
    case found | looked | retained => intros; exact .always (fun _ _ => trivial) fun _ _ => trivial
  exact (met.answered trivial resolved).1

/-! ## Requests to bindings -/

namespace Binding

variable (b : Binding H) {K : H.State → Prop} {I : H.ClassRef → H.State → Prop}
  {E : Fault H.Failure → H.State → Prop}

theorem isMisuse_of_operation {name : String} {fault : Fault H.Failure}
    (h : b.operation name = .error fault) : fault.isMisuse = true := by
  unfold operation at h
  split at h
  · cases h
  · cases h
    rfl

theorem isMisuse_of_constructorNamed {name : String} {fault : Fault H.Failure}
    (h : b.constructorNamed name = .error fault) : fault.isMisuse = true := by
  unfold constructorNamed at h
  cases found : b.operation name with
  | error e =>
    rw [found] at h
    cases h
    exact b.isMisuse_of_operation found
  | ok r =>
    rw [found] at h
    obtain ⟨op, handle⟩ := r
    cases handle <;> cases h <;> rfl

/-- The class is had for the test of an instance, and given back whatever the test says. -/
theorem meets_requireInstance {F : H.State → Prop} (o : H.Object)
    (obtained : Meets K b.obtainClass I E)
    (tested : ∀ c, Meets (I c) (H.isInstance o c)
      (fun said s => if said then F (H.releaseClass c s)
        else E (.wrongClass b.className) (H.releaseClass c s))
      fun e s => E (.host e) (H.releaseClass c s)) :
    Meets K (b.requireInstance o) (fun _ => F) E := by
  refine Meets.bind (F := fun said s => if said then F s else E (.wrongClass b.className) s)
    (obtained.bracket fun c => .mapError_told (tested c)) fun said => ?_
  cases said with
  | true => exact .pure fun _ h => h
  | false => exact .fail fun _ h => h

/-- A new object is made with the class, which is given back whatever comes of it. -/
theorem meets_create {F : H.Object → H.State → Prop} (name : String) (args : List H.Argument)
    (asked : ∀ t a s, K s → K (H.accepts t a s).2)
    (misused : ∀ fault s, fault.isMisuse = true → K s → E fault s)
    (obtained : Meets K b.obtainClass I E)
    (made : ∀ c op id d, b.constructorNamed name = .ok (op, id, d) →
      Meets (I c) (H.newObject c id d args) (fun o s => F o (H.releaseClass c s))
        fun e s => E (.host e) (H.releaseClass c s)) :
    Meets K (b.create name args) F E := by
  refine .ofExcept_bind (fun (op, id, d) named => ?_) fun fault s misuse =>
    misused fault s (b.isMisuse_of_constructorNamed misuse)
  refine (b.meets_requireArguments op d args asked (fun s => misused _ s rfl)
    fun _ _ s => misused _ s rfl).bind fun _ => ?_
  exact obtained.bracket fun c => .mapError_told (made c op id d named)

end Binding

/-- What the requests keep that are made for a binding: `K` holds before anything is done, `I` with
a reference to the class out, and `J` with none. -/
structure Binding.Service (b : Binding H) (K : H.State → Prop) (I : H.ClassRef → H.State → Prop)
    (J : H.State → Prop) : Prop where
  begun (s : H.State) : K s → J s
  isNull (o : H.Object) (s : H.State) : K s → K (H.isNull o s).2
  accepts (t : TypeDescriptor) (a : H.Argument) (s : H.State) : K s → K (H.accepts t a s).2
  obtainClass : Meets K b.obtainClass I fun _ => J
  isInstance (o : H.Object) (c : H.ClassRef) : Keeps (I c) (H.isInstance o c)
  callStatic (c : H.ClassRef) (id : H.StaticMethodId) (d : MethodDescriptor)
    (args : List H.Argument) : Keeps (I c) (H.callStatic c id d args)
  newObject (c : H.ClassRef) (id : H.MethodId) (d : MethodDescriptor)
    (args : List H.Argument) : Keeps (I c) (H.newObject c id d args)
  readStatic (c : H.ClassRef) (id : H.StaticFieldId) (d : FieldDescriptor) :
    Keeps (I c) (H.readStatic c id d)
  releaseClass (c : H.ClassRef) (s : H.State) : I c s → J (H.releaseClass c s)
  callMethod (o : H.Object) (id : H.MethodId) (d : MethodDescriptor) (args : List H.Argument) :
    Keeps J (H.callMethod o id d args)
  readField (o : H.Object) (id : H.FieldId) (d : FieldDescriptor) : Keeps J (H.readField o id d)

namespace Binding.Service

variable {K J : H.State → Prop} {I : H.ClassRef → H.State → Prop} {b : Binding H}

theorem withClass (S : b.Service K I J) {use : H.ClassRef → H.Request α}
    (h : ∀ c, Keeps (I c) (use c)) : Meets K (b.withClass use) (fun _ => J) fun _ => J :=
  S.obtainClass.bracket fun c =>
    (h c).conseq (fun _ h => h) (fun _ => S.releaseClass c) fun _ => S.releaseClass c

/-- A check in front of the rest. -/
theorem check {β : Type} {x : H.Request α} {f : α → H.Request β} (S : b.Service K I J)
    (check : Keeps K x) (h : ∀ v, Meets K (f v) (fun _ => J) fun _ => J) :
    Meets K (x >>= f) (fun _ => J) fun _ => J := by
  refine Meets.bind (F := fun _ => K) ?_ h
  exact check.conseq (fun _ h => h) (fun _ _ h => h) fun _ => S.begun

theorem checkPresent {β : Type} {f : Unit → H.Request β} (S : b.Service K I J) (op : Operation)
    (o : H.Object) (h : ∀ v, Meets K (f v) (fun _ => J) fun _ => J) :
    Meets K (b.requirePresent op o >>= f) (fun _ => J) fun _ => J :=
  S.check (b.keeps_requirePresent op (S.isNull o)) h

theorem checkArguments {β : Type} {f : Unit → H.Request β} (S : b.Service K I J) (op : Operation)
    (d : MethodDescriptor) (args : List H.Argument)
    (h : ∀ v, Meets K (f v) (fun _ => J) fun _ => J) :
    Meets K (b.requireArguments op d args >>= f) (fun _ => J) fun _ => J :=
  S.check (b.keeps_requireArguments op d args S.accepts) h

/-- The test of an instance is a scope of its own, so the reference is back before the call. -/
theorem requireInstance (S : b.Service K I J) (o : H.Object) :
    Meets K (b.requireInstance o) (fun _ => J) fun _ => J := by
  refine (S.withClass fun c => .mapError (S.isInstance o c)).bind fun isInstance => ?_
  cases isInstance with
  | true => exact .pure fun _ h => h
  | false => exact .fail fun _ h => h

theorem create (S : b.Service K I J) (name : String) (args : List H.Argument) :
    Meets K (b.create name args) (fun _ => J) fun _ => J := by
  refine .ofExcept_bind (fun (op, id, d) _ => ?_) fun _ s _ => S.begun s
  exact S.checkArguments op d args fun _ => S.withClass fun c => .mapError (S.newObject c id d args)

theorem answer (S : b.Service K I J) (ask : Ask H) :
    Meets K (b.answer ask) (fun _ => J) fun _ => J := by
  match ask with
  | .call true name o args =>
    refine .ofExcept_reply (fun (op, id, d) _ => ?_) S.begun
    refine S.checkPresent op o fun _ => S.checkArguments op d args fun _ => .mapError ?_
    exact (S.callMethod o id d args).conseq S.begun (fun _ _ h => h) fun _ _ h => h
  | .call false name o args =>
    refine .ofExcept_reply (fun (op, id, d) _ => ?_) S.begun
    refine S.checkPresent op o fun _ => S.checkArguments op d args fun _ => ?_
    exact (S.requireInstance o).bind fun _ => .mapError (S.callMethod o id d args)
  | .callStatic name args =>
    refine .ofExcept_reply (fun (op, id, d) _ => ?_) S.begun
    refine S.checkArguments op d args fun _ => ?_
    exact S.withClass fun c => .mapError (S.callStatic c id d args)
  | .create name args => exact (S.create name args).bind fun _ => .pure fun _ h => h
  | .read true name o =>
    refine .ofExcept_reply (fun (op, id, d) _ => ?_) S.begun
    refine S.checkPresent op o fun _ => .mapError ?_
    exact (S.readField o id d).conseq S.begun (fun _ _ h => h) fun _ _ h => h
  | .read false name o =>
    refine .ofExcept_reply (fun (op, id, d) _ => ?_) S.begun
    refine S.checkPresent op o fun _ => ?_
    exact (S.requireInstance o).bind fun _ => .mapError (S.readField o id d)
  | .readStatic name =>
    refine .ofExcept_reply (fun (op, id, d) _ => ?_) S.begun
    exact S.withClass fun c => .mapError (S.readStatic c id d)
  | .acquire => exact S.withClass fun c => .pure fun _ h => h

end Binding.Service

/-- The requests of a host that are made for a binding, with this class reference out or with none,
keep `I`. No member is looked up for a binding, and nothing lasting is made. -/
structure Host.Routine (H : Host) (I : Option H.ClassRef → H.State → Prop) : Prop where
  findClass (name : String) :
    Meets (I none) (H.findClass name) (fun c => I (some c)) fun _ => I none
  classOfPin (p : H.Pin) : Meets (I none) (H.classOfPin p) (fun c => I (some c)) fun _ => I none
  /-- A weak reference that was cleared yields none. -/
  classOfWeak (w : H.Weak) : Meets (I none) (H.classOfWeak w) I fun _ => I none
  releaseClass (c : H.ClassRef) (s : H.State) : I (some c) s → I none (H.releaseClass c s)
  isInstance (o : H.Object) (c : H.ClassRef) : Keeps (I (some c)) (H.isInstance o c)
  callStatic (c : H.ClassRef) (id : H.StaticMethodId) (d : MethodDescriptor)
    (args : List H.Argument) : Keeps (I (some c)) (H.callStatic c id d args)
  newObject (c : H.ClassRef) (id : H.MethodId) (d : MethodDescriptor)
    (args : List H.Argument) : Keeps (I (some c)) (H.newObject c id d args)
  readStatic (c : H.ClassRef) (id : H.StaticFieldId) (d : FieldDescriptor) :
    Keeps (I (some c)) (H.readStatic c id d)
  callMethod (o : H.Object) (id : H.MethodId) (d : MethodDescriptor) (args : List H.Argument) :
    Keeps (I none) (H.callMethod o id d args)
  readField (o : H.Object) (id : H.FieldId) (d : FieldDescriptor) :
    Keeps (I none) (H.readField o id d)
  isNull (o : H.Object) (s : H.State) : I none s → I none (H.isNull o s).2
  accepts (t : TypeDescriptor) (a : H.Argument) (s : H.State) :
    I none s → I none (H.accepts t a s).2
  note (e : LogEntry) (out : Option H.ClassRef) (s : H.State) : I out s → I out (H.note e s)

namespace Host.Routine

variable {I : Option H.ClassRef → H.State → Prop}

theorem service (R : H.Routine I) (b : Binding H) :
    b.Service (I none) (fun c => I (some c)) (I none) where
  begun _ h := h
  isNull := R.isNull
  accepts := R.accepts
  obtainClass := by
    refine b.meets_obtainClass (fun _ => R.findClass _) (fun p _ => R.classOfPin p) (fun w _ => ?_)
      (fun _ h => h) fun e => R.note e none
    refine (R.classOfWeak w).conseq (fun _ h => h) (fun c s h => ?_) fun _ _ h => h
    exact ⟨fun r same => same ▸ h, fun none => none ▸ h⟩
  isInstance := R.isInstance
  callStatic := R.callStatic
  newObject := R.newObject
  readStatic := R.readStatic
  releaseClass := R.releaseClass
  callMethod := R.callMethod
  readField := R.readField

/-- Every request to a binding keeps what the requests of the host keep. -/
theorem answer (R : H.Routine I) (b : Binding H) (ask : Ask H) : Keeps (I none) (b.answer ask) :=
  (R.service b).answer ask

end Host.Routine

/-! ## Requests of a host -/

/-- All requests of a host, made with this class reference out or with none, keep `I`. -/
structure Host.Discipline (H : Host) (I : Option H.ClassRef → H.State → Prop) : Prop
    extends Host.Routine H I where
  findMethod (c : H.ClassRef) (n s : String) : Keeps (I (some c)) (H.findMethod c n s)
  findStaticMethod (c : H.ClassRef) (n s : String) : Keeps (I (some c)) (H.findStaticMethod c n s)
  findField (c : H.ClassRef) (n s : String) : Keeps (I (some c)) (H.findField c n s)
  findStaticField (c : H.ClassRef) (n s : String) : Keeps (I (some c)) (H.findStaticField c n s)
  pin (c : H.ClassRef) : Keeps (I (some c)) (H.pin c)
  weaken (c : H.ClassRef) : Keeps (I (some c)) (H.weaken c)

namespace Host.Discipline

variable {I : Option H.ClassRef → H.State → Prop}

theorem lookupOperations (D : H.Discipline I) (c : H.ClassRef) (className : String)
    (plans : List (Operation × Plan)) :
    Keeps (I (some c)) (Host.lookupOperations c className plans) :=
  Host.keeps_lookupOperations c className (D.findMethod c) (D.findStaticMethod c) (D.findField c)
    (D.findStaticField c) plans

theorem retain (D : H.Discipline I) (c : H.ClassRef) (d : Declaration) :
    Keeps (I (some c)) (Host.retain c d) :=
  Host.meets_retain c d (fun _ _ h => h) (fun _ => D.weaken c) fun _ => D.pin c

theorem resolve (D : H.Discipline I) (d : Declaration) :
    Keeps (I none) (Binding.resolve H d) := by
  refine (Binding.meets_resolve (I := fun c => I (some c)) (F := fun _ => I none)
    (E := fun _ => I none) d (fun _ _ h => h) (.mapError (D.findClass _)) (fun c plans => ?_)
    (fun c => ?_) (fun e c => D.note e (some c)) fun e _ => D.note e none).conseq (fun _ h => h)
    (fun _ _ h => h.2) fun _ _ h => h
  · exact (D.lookupOperations c d.className plans).conseq (fun _ h => h) (fun _ _ h => h)
      fun _ => D.releaseClass c
  · exact (D.retain c d).conseq (fun _ h => h) (fun _ => D.releaseClass c) fun _ => D.releaseClass c

end Host.Discipline

/-! ## Faults of resolution -/

/-- From where `K` holds, a request that fails for want of what it had to look up leaves `K`. What
else may come of it is not said. -/
abbrev Host.Recovers (K : H.State → Prop) (x : H.Request α) : Prop :=
  Meets K x (fun _ _ => True) fun f s => f.isResolution = true → K s

/-- The request never fails for want of what it had to look up. -/
abbrev Host.Unresolving (x : H.Request α) : Prop :=
  Meets (fun _ => True) x (fun _ _ => True) fun f _ => f.isResolution = false

namespace Host

variable {K : H.State → Prop} {β : Type}

/-- A host's own failure is no fault of resolution. -/
theorem unresolving_direct (x : Action H.State H.Failure α) : Unresolving (Host.direct x) :=
  .told fun _ => rfl

theorem Unresolving.meets {x : H.Request α} {before : H.State → Prop} (h : Unresolving x) :
    Meets before x (fun _ _ => True) fun f s => f.isResolution = true → K s :=
  h.conseq (fun _ _ => trivial) (fun _ _ _ => trivial) fun _ _ not resolution =>
    nomatch not.symm.trans resolution

/-- Behind what may have to look something up comes what does not. -/
theorem Recovers.before {x : H.Request α} {f : α → H.Request β} (h : Recovers K x)
    (rest : ∀ v, Unresolving (f v)) : Recovers K (x >>= f) :=
  h.bind fun v => (rest v).meets

/-- In front of it come checks, which leave everything as it was. -/
theorem Recovers.behind {x : H.Request α} {f : α → H.Request β} (check : Keeps K x)
    (h : ∀ v, Recovers K (f v)) : Recovers K (x >>= f) := by
  refine Meets.bind (F := fun _ => K) ?_ h
  exact check.conseq (fun _ held => held) (fun _ _ held => held) fun _ _ held _ => held

/-- What is known in front decides how it goes on, and the answer is told in other words. -/
theorem Recovers.reply {γ : Type} {a : Except (Fault H.Failure) α} {f : α → H.Request β}
    {g : β → γ} (h : ∀ v, Recovers K (f v)) :
    Recovers K ((Action.ofExcept a >>= f) >>= fun v => Pure.pure (g v)) :=
  (Meets.ofExcept_bind (fun v _ => h v) fun _ _ _ held _ => held).bind fun _ =>
    .pure fun _ _ => trivial

end Host

namespace Binding

open Host

variable {K : H.State → Prop} (b : Binding H)

theorem recovers_withClass {use : H.ClassRef → H.Request α}
    (obtained : Meets K b.obtainClass (fun _ _ => True) fun _ => K)
    (h : ∀ c, Unresolving (use c)) : Recovers K (b.withClass use) := by
  refine Meets.bracket (F := fun _ _ => True) ?_ fun c => ?_
  · exact obtained.conseq (fun _ held => held) (fun _ _ held => held) fun _ _ held _ => held
  · exact (h c).conseq (fun _ held => held) (fun _ _ _ => trivial) fun _ _ not resolution =>
      nomatch not.symm.trans resolution

theorem recovers_requireInstance (obtained : Meets K b.obtainClass (fun _ _ => True) fun _ => K)
    (o : H.Object) : Recovers K (b.requireInstance o) := by
  refine (b.recovers_withClass obtained fun c => unresolving_direct _).before fun isInstance => ?_
  cases isInstance with
  | true => exact .pure fun _ _ => trivial
  | false => exact .fail fun _ _ => rfl

theorem recovers_create (obtained : Meets K b.obtainClass (fun _ _ => True) fun _ => K)
    (accepted : ∀ t a s, K s → K (H.accepts t a s).2) (name : String) (args : List H.Argument) :
    Recovers K (b.create name args) := by
  refine Meets.ofExcept_bind (fun (op, id, d) _ => ?_) fun _ _ _ held _ => held
  refine Recovers.behind (b.keeps_requireArguments op d args accepted) fun _ => ?_
  exact b.recovers_withClass obtained fun c => unresolving_direct _

/-- A request to a binding that fails for want of a class has done no more than to look for it. -/
theorem recovers_answer (obtained : Meets K b.obtainClass (fun _ _ => True) fun _ => K)
    (asked : ∀ o s, K s → K (H.isNull o s).2) (accepted : ∀ t a s, K s → K (H.accepts t a s).2)
    (ask : Ask H) : Recovers K (b.answer ask) := by
  match ask with
  | .call true name o args =>
    refine .reply fun (op, id, d) => ?_
    refine Recovers.behind (b.keeps_requirePresent op (asked o)) fun _ => ?_
    refine Recovers.behind (b.keeps_requireArguments op d args accepted) fun _ => ?_
    exact (unresolving_direct _).meets
  | .call false name o args =>
    refine .reply fun (op, id, d) => ?_
    refine Recovers.behind (b.keeps_requirePresent op (asked o)) fun _ => ?_
    refine Recovers.behind (b.keeps_requireArguments op d args accepted) fun _ => ?_
    exact (b.recovers_requireInstance obtained o).before fun _ => unresolving_direct _
  | .callStatic name args =>
    refine .reply fun (op, id, d) => ?_
    refine Recovers.behind (b.keeps_requireArguments op d args accepted) fun _ => ?_
    exact b.recovers_withClass obtained fun c => unresolving_direct _
  | .create name args =>
    exact (b.recovers_create obtained accepted name args).before fun _ => .pure fun _ _ => trivial
  | .read true name o =>
    refine .reply fun (op, id, d) => ?_
    refine Recovers.behind (b.keeps_requirePresent op (asked o)) fun _ => ?_
    exact (unresolving_direct _).meets
  | .read false name o =>
    refine .reply fun (op, id, d) => ?_
    refine Recovers.behind (b.keeps_requirePresent op (asked o)) fun _ => ?_
    exact (b.recovers_requireInstance obtained o).before fun _ => unresolving_direct _
  | .readStatic name =>
    refine .reply fun (op, id, d) => ?_
    exact b.recovers_withClass obtained fun c => unresolving_direct _
  | .acquire => exact b.recovers_withClass obtained fun c => .pure fun _ _ => trivial

end Binding

end HandleCache

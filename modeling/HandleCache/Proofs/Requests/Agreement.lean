import HandleCache.Proofs.Requests.Discipline

/-!
# Actions that agree

Two actions agree if from states that are related they come to the same answer and to states that
are related again. Actions that are built alike from parts that agree do so. So if nothing that a
host answers tells two of its states apart, then nothing that the cache answers on it does.

## Contents

- `Same`: outcomes with one answer
- `Action.Agree`: actions with the same answers on related states
- `Host.Agreement`: a relation of states that the requests of a host do not tell apart
- `Binding.SameTable`: bindings that differ at most in what they keep of the class

## Main statements

- `Host.Agreement.resolve`: a resolution does not tell them apart
- `Host.Agreement.answer`: nor does a request to a binding, or to another one with the same table
  that obtains the class as well
-/

namespace HandleCache

variable {σ τ ε ε' α β : Type}

/-- One answer, in states that are related. -/
structure Same (R : σ → τ → Prop) (p : Except ε α × σ) (q : Except ε α × τ) : Prop where
  answer : p.1 = q.1
  state : R p.2 q.2

/-! ## Actions -/

/-- From related states the actions come to the same answer, in related states. -/
def Action.Agree (R : σ → τ → Prop) (x : Action σ ε α) (y : Action τ ε α) : Prop :=
  ∀ s t, R s t → Same R (x s) (y t)

namespace Action.Agree

variable {R : σ → τ → Prop} {x : Action σ ε α} {y : Action τ ε α} {f : α → Action σ ε β}
  {g : α → Action τ ε β}

theorem pure {a : α} : Agree R (Pure.pure a : Action σ ε α) (Pure.pure a : Action τ ε α) :=
  fun _ _ related => ⟨rfl, related⟩

theorem fail {e : ε} : Agree R (Action.fail e : Action σ ε α) (Action.fail e : Action τ ε α) :=
  fun _ _ related => ⟨rfl, related⟩

theorem ofExcept {a : Except ε α} : Agree R (Action.ofExcept a) (Action.ofExcept a) :=
  fun _ _ related => ⟨rfl, related⟩

theorem modify {f : σ → σ} {g : τ → τ} (changes : ∀ s t, R s t → R (f s) (g t)) :
    Agree R (Action.modify f : Action σ ε Unit) (Action.modify g : Action τ ε Unit) :=
  fun s t related => ⟨rfl, changes s t related⟩

theorem query {f : σ → α × σ} {g : τ → α × τ}
    (asked : ∀ s t, R s t → (f s).1 = (g t).1 ∧ R (f s).2 (g t).2) :
    Agree R (Action.query f : Action σ ε α) (Action.query g : Action τ ε α) := by
  intro s t related
  obtain ⟨answer, state⟩ := asked s t related
  exact ⟨congrArg Except.ok answer, state⟩

theorem mapError {told : ε → ε'} (h : Agree R x y) :
    Agree R (Action.mapError told x) (Action.mapError told y) := by
  intro s t related
  obtain ⟨answer, state⟩ := h s t related
  unfold Action.mapError
  cases hx : x s with
  | mk a s' =>
    cases hy : y t with
    | mk b t' =>
      rw [hx, hy] at answer state
      cases answer
      cases a with
      | ok v => exact ⟨rfl, state⟩
      | error e => exact ⟨rfl, state⟩

theorem bind (hx : Agree R x y) (hf : ∀ a, Agree R (f a) (g a)) :
    Agree R (x >>= f) (y >>= g) := by
  intro s t related
  obtain ⟨answer, state⟩ := hx s t related
  cases hs : x s with
  | mk a s' =>
    cases ht : y t with
    | mk b t' =>
      rw [hs, ht] at answer state
      cases answer
      cases a with
      | ok v =>
        rw [bind_of_ok hs, bind_of_ok ht]
        exact hf v s' t' state
      | error e =>
        rw [bind_of_error hs, bind_of_error ht]
        exact ⟨rfl, state⟩

theorem bracket {release : α → σ → σ} {release' : α → τ → τ} (hx : Agree R x y)
    (released : ∀ a s t, R s t → R (release a s) (release' a t)) (hf : ∀ a, Agree R (f a) (g a)) :
    Agree R (Action.bracket x release f) (Action.bracket y release' g) := by
  intro s t related
  obtain ⟨answer, state⟩ := hx s t related
  cases hs : x s with
  | mk a s' =>
    cases ht : y t with
    | mk b t' =>
      rw [hs, ht] at answer state
      cases answer
      cases a with
      | ok v =>
        rw [bracket_of_ok hs, bracket_of_ok ht]
        obtain ⟨used, after⟩ := hf v s' t' state
        exact ⟨used, released v _ _ after⟩
      | error e =>
        rw [bracket_of_error hs, bracket_of_error ht]
        exact ⟨rfl, state⟩

/-- What one of the actions keeps is known of the states besides. -/
theorem and {I : σ → Prop} (h : Agree R x y) (keeps : Keeps I x) :
    Agree (fun s t => R s t ∧ I s) x y := by
  rintro s t ⟨related, held⟩
  obtain ⟨answer, state⟩ := h s t related
  exact ⟨answer, state, keeps.state held⟩

end Action.Agree

open HandleCache.Action

/-- An answer that is told in other words is still the same. -/
theorem Same.reply {R : σ → τ → Prop} {x : Action σ ε α} {y : Action τ ε α} {g : α → β} {s : σ}
    {t : τ} (h : Same R (x s) (y t)) :
    Same R ((x >>= fun v => pure (g v)) s) ((y >>= fun v => pure (g v)) t) := by
  obtain ⟨answer, state⟩ := h
  cases hs : x s with
  | mk a s' =>
    cases ht : y t with
    | mk b t' =>
      rw [hs, ht] at answer state
      cases answer
      cases a with
      | ok v =>
        rw [bind_of_ok hs, bind_of_ok ht]
        exact ⟨rfl, state⟩
      | error e =>
        rw [bind_of_error hs, bind_of_error ht]
        exact ⟨rfl, state⟩

/-- An action that answers may come first. -/
theorem Same.after {R : σ → τ → Prop} {x : Action σ ε α} {f : α → Action σ ε β} {s s' : σ} {v : α}
    {q : Except ε β × τ} (run : x s = (.ok v, s')) (h : Same R (f v s') q) :
    Same R ((x >>= f) s) q := by
  rwa [bind_of_ok run]

/-- Where two actions have their first part in common, it is enough to compare what follows it. -/
theorem Same.common {R : σ → σ → Prop} {x : Action σ ε α} {f g : α → Action σ ε β} {s : σ}
    (refl : ∀ t, R t t) (h : ∀ v t, x s = (.ok v, t) → Same R (f v t) (g v t)) :
    Same R ((x >>= f) s) ((x >>= g) s) := by
  cases run : x s with
  | mk a t =>
    cases a with
    | ok v =>
      rw [bind_of_ok run, bind_of_ok run]
      exact h v t run
    | error e =>
      rw [bind_of_error run, bind_of_error run]
      exact ⟨rfl, refl t⟩

/-! ## Hosts -/

variable {H : Host}

/-- The requests of the host do not tell related states apart. -/
structure Host.Agreement (H : Host) (R : H.State → H.State → Prop) : Prop where
  findClass (name : String) : Agree R (H.findClass name) (H.findClass name)
  findMethod (c : H.ClassRef) (n s : String) : Agree R (H.findMethod c n s) (H.findMethod c n s)
  findStaticMethod (c : H.ClassRef) (n s : String) :
    Agree R (H.findStaticMethod c n s) (H.findStaticMethod c n s)
  findField (c : H.ClassRef) (n s : String) : Agree R (H.findField c n s) (H.findField c n s)
  findStaticField (c : H.ClassRef) (n s : String) :
    Agree R (H.findStaticField c n s) (H.findStaticField c n s)
  callMethod (o : H.Object) (id : H.MethodId) (d : MethodDescriptor) (args : List H.Argument) :
    Agree R (H.callMethod o id d args) (H.callMethod o id d args)
  callStatic (c : H.ClassRef) (id : H.StaticMethodId) (d : MethodDescriptor)
    (args : List H.Argument) : Agree R (H.callStatic c id d args) (H.callStatic c id d args)
  newObject (c : H.ClassRef) (id : H.MethodId) (d : MethodDescriptor) (args : List H.Argument) :
    Agree R (H.newObject c id d args) (H.newObject c id d args)
  readField (o : H.Object) (id : H.FieldId) (d : FieldDescriptor) :
    Agree R (H.readField o id d) (H.readField o id d)
  readStatic (c : H.ClassRef) (id : H.StaticFieldId) (d : FieldDescriptor) :
    Agree R (H.readStatic c id d) (H.readStatic c id d)
  releaseClass (c : H.ClassRef) (s t : H.State) :
    R s t → R (H.releaseClass c s) (H.releaseClass c t)
  pin (c : H.ClassRef) : Agree R (H.pin c) (H.pin c)
  weaken (c : H.ClassRef) : Agree R (H.weaken c) (H.weaken c)
  classOfPin (p : H.Pin) : Agree R (H.classOfPin p) (H.classOfPin p)
  classOfWeak (w : H.Weak) : Agree R (H.classOfWeak w) (H.classOfWeak w)
  isNull (o : H.Object) (s t : H.State) :
    R s t → (H.isNull o s).1 = (H.isNull o t).1 ∧ R (H.isNull o s).2 (H.isNull o t).2
  isInstance (o : H.Object) (c : H.ClassRef) : Agree R (H.isInstance o c) (H.isInstance o c)
  accepts (p : TypeDescriptor) (a : H.Argument) (s t : H.State) :
    R s t → (H.accepts p a s).1 = (H.accepts p a t).1 ∧ R (H.accepts p a s).2 (H.accepts p a t).2
  note (e : LogEntry) (s t : H.State) : R s t → R (H.note e s) (H.note e t)

/-- What a discipline keeps is known of the states besides. -/
theorem Host.Agreement.and {R : H.State → H.State → Prop} {I : H.State → Prop}
    (A : H.Agreement R) (D : H.Discipline fun _ => I) : H.Agreement fun s t => R s t ∧ I s where
  findClass name := (A.findClass name).and (D.findClass name)
  findMethod c n s := (A.findMethod c n s).and (D.findMethod c n s)
  findStaticMethod c n s := (A.findStaticMethod c n s).and (D.findStaticMethod c n s)
  findField c n s := (A.findField c n s).and (D.findField c n s)
  findStaticField c n s := (A.findStaticField c n s).and (D.findStaticField c n s)
  callMethod o id d args := (A.callMethod o id d args).and (D.callMethod o id d args)
  callStatic c id d args := (A.callStatic c id d args).and (D.callStatic c id d args)
  newObject c id d args := (A.newObject c id d args).and (D.newObject c id d args)
  readField o id d := (A.readField o id d).and (D.readField o id d)
  readStatic c id d := (A.readStatic c id d).and (D.readStatic c id d)
  releaseClass c s t known := ⟨A.releaseClass c s t known.1, D.releaseClass c s known.2⟩
  pin c := (A.pin c).and (D.pin c)
  weaken c := (A.weaken c).and (D.weaken c)
  classOfPin p := (A.classOfPin p).and (D.classOfPin p)
  classOfWeak w := (A.classOfWeak w).and (D.classOfWeak w)
  isNull o s t known :=
    ⟨(A.isNull o s t known.1).1, (A.isNull o s t known.1).2, D.isNull o s known.2⟩
  isInstance o c := (A.isInstance o c).and (D.isInstance o c)
  accepts p a s t known :=
    ⟨(A.accepts p a s t known.1).1, (A.accepts p a s t known.1).2, D.accepts p a s known.2⟩
  note e s t known := ⟨A.note e s t known.1, D.note e none s known.2⟩

/-- Bindings with the same rows for a class of the same name. -/
structure Binding.SameTable (b b' : Binding H) : Prop where
  className : b.className = b'.className
  resolved : b.resolved = b'.resolved

namespace Binding.SameTable

variable {b b' : Binding H}

theorem refl (b : Binding H) : b.SameTable b := ⟨rfl, rfl⟩

theorem operation (same : b.SameTable b') (name : String) : b.operation name = b'.operation name := by
  have index : b.index = b'.index := by rw [b.indexed, b'.indexed, same.resolved]
  simp only [Binding.operation, Binding.find?, index, same.resolved, same.className]

theorem kindFault (same : b.SameTable b') : b.kindFault = b'.kindFault := by
  funext r expected
  simp only [Binding.kindFault, same.className]

theorem methodNamed (same : b.SameTable b') (name : String) :
    b.methodNamed name = b'.methodNamed name := by
  simp only [Binding.methodNamed, same.operation, same.kindFault]

theorem fieldNamed (same : b.SameTable b') (name : String) :
    b.fieldNamed name = b'.fieldNamed name := by
  simp only [Binding.fieldNamed, same.operation, same.kindFault]

theorem staticMethodNamed (same : b.SameTable b') (name : String) :
    b.staticMethodNamed name = b'.staticMethodNamed name := by
  simp only [Binding.staticMethodNamed, same.operation, same.kindFault]

theorem constructorNamed (same : b.SameTable b') (name : String) :
    b.constructorNamed name = b'.constructorNamed name := by
  simp only [Binding.constructorNamed, same.operation, same.kindFault]

theorem staticFieldNamed (same : b.SameTable b') (name : String) :
    b.staticFieldNamed name = b'.staticFieldNamed name := by
  simp only [Binding.staticFieldNamed, same.operation, same.kindFault]

end Binding.SameTable

namespace Host.Agreement

variable {R : H.State → H.State → Prop}

/-! ## Resolutions -/

theorem lookupOperation (A : H.Agreement R) (c : H.ClassRef) (className : String) (op : Operation)
    (plan : Plan) : Agree R (Host.lookupOperation (H := H) c className op plan)
      (Host.lookupOperation c className op plan) := by
  cases plan with
  | constructor => exact (A.findMethod c _ _).mapError.bind fun _ => .pure
  | method => exact (A.findMethod c _ _).mapError.bind fun _ => .pure
  | staticMethod => exact (A.findStaticMethod c _ _).mapError.bind fun _ => .pure
  | field => exact (A.findField c _ _).mapError.bind fun _ => .pure
  | staticField => exact (A.findStaticField c _ _).mapError.bind fun _ => .pure

theorem lookupOperations (A : H.Agreement R) (c : H.ClassRef) (className : String)
    (plans : List (Operation × Plan)) :
    Agree R (Host.lookupOperations (H := H) c className plans)
      (Host.lookupOperations c className plans) := by
  induction plans with
  | nil => exact .pure
  | cons first rest ih =>
    obtain ⟨op, plan⟩ := first
    exact (A.lookupOperation c className op plan).bind fun _ => ih.bind fun _ => .pure

theorem retain (A : H.Agreement R) (c : H.ClassRef) (d : Declaration) :
    Agree R (Host.retain (H := H) c d) (Host.retain c d) := by
  unfold Host.retain
  cases d.retention with
  | drop => exact .pure
  | weak => exact (A.weaken c).mapError.bind fun _ => .pure
  | global => exact (A.pin c).mapError.bind fun _ => .pure

theorem tell (A : H.Agreement R) (e : LogEntry) :
    Agree R (Host.tell (H := H) e) (Host.tell e) :=
  .modify (A.note e)

/-- A resolution answers alike on states that the host does not tell apart. -/
theorem resolve (A : H.Agreement R) (d : Declaration) :
    Agree R (Binding.resolve H d) (Binding.resolve H d) := by
  apply Agree.ofExcept.bind
  intro plans
  apply Agree.bind
  · apply (A.findClass d.className).mapError.bracket A.releaseClass
    intro c
    apply (A.tell _).bind
    intro _
    exact (A.lookupOperations c d.className plans).bind fun _ =>
      (A.retain c d).bind fun _ => .pure
  · exact fun found => (A.tell _).bind fun _ => .pure

/-! ## Requests to bindings -/

variable {b b' : Binding H}

theorem obtainClass (A : H.Agreement R) (b : Binding H) :
    Agree R b.obtainClass b.obtainClass := by
  have again : Agree R b.lookupAgain b.lookupAgain :=
    (A.tell _).bind fun _ => (A.findClass b.className).mapError
  unfold Binding.obtainClass
  cases b.retained with
  | nothing => exact again
  | pinned p => exact (A.classOfPin p).mapError
  | weakly w =>
    apply (A.classOfWeak w).mapError.bind
    intro c
    cases c with
    | some c => exact .pure
    | none => exact (A.tell _).bind fun _ => again

theorem withClass (A : H.Agreement R) (obtains : Agree R b.obtainClass b'.obtainClass)
    {use : H.ClassRef → H.Request α} (h : ∀ c, Agree R (use c) (use c)) :
    Agree R (b.withClass use) (b'.withClass use) :=
  obtains.bracket A.releaseClass h

theorem requirePresent (A : H.Agreement R) (same : b.SameTable b') (op : Operation)
    (o : H.Object) : Agree R (b.requirePresent op o) (b'.requirePresent op o) := by
  unfold Binding.requirePresent
  rw [same.className]
  apply (Agree.query (A.isNull o)).bind
  intro missing
  cases missing with
  | true => exact .fail
  | false => exact .pure

theorem requireEach (A : H.Agreement R) (same : b.SameTable b') (op : Operation) (index : Nat)
    (ts : List TypeDescriptor) (args : List H.Argument) :
    Agree R (b.requireEach op index ts args) (b'.requireEach op index ts args) := by
  induction ts generalizing index args with
  | nil => exact .pure
  | cons t ts ih =>
    cases args with
    | nil => exact .pure
    | cons arg rest =>
      unfold Binding.requireEach
      rw [same.className]
      apply (Agree.query (A.accepts t arg)).bind
      intro fits
      cases fits with
      | true => exact ih (index + 1) rest
      | false => exact .fail

theorem requireArguments (A : H.Agreement R) (same : b.SameTable b') (op : Operation)
    (d : MethodDescriptor) (args : List H.Argument) :
    Agree R (b.requireArguments op d args) (b'.requireArguments op d args) := by
  unfold Binding.requireArguments
  rw [same.className]
  split
  · exact A.requireEach same op 0 d.parameters args
  · exact .fail

theorem requireInstance (A : H.Agreement R) (same : b.SameTable b')
    (obtains : Agree R b.obtainClass b'.obtainClass) (o : H.Object) :
    Agree R (b.requireInstance o) (b'.requireInstance o) := by
  unfold Binding.requireInstance
  rw [same.className]
  apply (A.withClass obtains fun c => (A.isInstance o c).mapError).bind
  intro isInstance
  cases isInstance with
  | true => exact .pure
  | false => exact .fail

/-- Bindings with one table that obtain the class alike answer alike. -/
theorem answer (A : H.Agreement R) (same : b.SameTable b')
    (obtains : Agree R b.obtainClass b'.obtainClass) (ask : Ask H) :
    Agree R (b.answer ask) (b'.answer ask) := by
  match ask with
  | .call true name o args =>
    refine Agree.bind ?_ fun _ => .pure
    unfold Binding.callTrusted
    rw [same.methodNamed]
    refine Agree.ofExcept.bind fun v => (A.requirePresent same _ o).bind fun _ => ?_
    exact (A.requireArguments same _ _ args).bind fun _ => (A.callMethod o _ _ args).mapError
  | .call false name o args =>
    refine Agree.bind ?_ fun _ => .pure
    unfold Binding.call
    rw [same.methodNamed]
    refine Agree.ofExcept.bind fun v => (A.requirePresent same _ o).bind fun _ => ?_
    refine (A.requireArguments same _ _ args).bind fun _ => ?_
    exact (A.requireInstance same obtains o).bind fun _ => (A.callMethod o _ _ args).mapError
  | .callStatic name args =>
    refine Agree.bind ?_ fun _ => .pure
    unfold Binding.callStatic
    rw [same.staticMethodNamed]
    refine Agree.ofExcept.bind fun v => (A.requireArguments same _ _ args).bind fun _ => ?_
    exact A.withClass obtains fun c => (A.callStatic c _ _ args).mapError
  | .create name args =>
    refine Agree.bind ?_ fun _ => .pure
    unfold Binding.create
    rw [same.constructorNamed]
    refine Agree.ofExcept.bind fun v => (A.requireArguments same _ _ args).bind fun _ => ?_
    exact A.withClass obtains fun c => (A.newObject c _ _ args).mapError
  | .read true name o =>
    refine Agree.bind ?_ fun _ => .pure
    unfold Binding.readTrusted
    rw [same.fieldNamed]
    refine Agree.ofExcept.bind fun v => (A.requirePresent same _ o).bind fun _ => ?_
    exact (A.readField o _ _).mapError
  | .read false name o =>
    refine Agree.bind ?_ fun _ => .pure
    unfold Binding.read
    rw [same.fieldNamed]
    refine Agree.ofExcept.bind fun v => (A.requirePresent same _ o).bind fun _ => ?_
    exact (A.requireInstance same obtains o).bind fun _ => (A.readField o _ _).mapError
  | .readStatic name =>
    refine Agree.bind ?_ fun _ => .pure
    unfold Binding.readStatic
    rw [same.staticFieldNamed]
    refine Agree.ofExcept.bind fun v => ?_
    exact A.withClass obtains fun c => (A.readStatic c _ _).mapError
  | .acquire => exact A.withClass obtains fun _ => .pure

end Host.Agreement

end HandleCache

import HandleCache.Binding.Ask

/-!
# References under other names

What a host hands out is known to the cache by name only. If on two states of a host the same is
there under different names, and its requests on the one answer what they answer on the other with
the names changed, then so do the requests of the cache.

## Contents

- `Action.Mirrors`: an action answers what another one does, renamed
- `Host.Renaming`: other names for all that a host hands out
- `Host.Mirrored`: a host whose requests mirror each other on related states

## Main statements

- `Host.Mirrored.resolve`: so do resolutions
- `Host.Mirrored.answer`: and requests to bindings
-/

namespace HandleCache

variable {σ τ ε ε' α α' β β' : Type}

/-! ## Actions -/

/-- From related states the first action answers what the second does, renamed, or stops with the
same error, and the states that they leave are related. -/
def Action.Mirrors (R : σ → τ → Prop) (f : β → α) (x : Action σ ε α) (y : Action τ ε β) : Prop :=
  ∀ s t, R s t → (x s).1 = (y t).1.map f ∧ R (x s).2 (y t).2

namespace Action.Mirrors

variable {R : σ → τ → Prop} {f : β → α} {g : β' → α'} {x : Action σ ε α} {y : Action τ ε β}
  {k : α → Action σ ε α'} {l : β → Action τ ε β'}

theorem pure {b : β} : Mirrors R f (Pure.pure (f b) : Action σ ε α) (Pure.pure b : Action τ ε β) :=
  fun _ _ related => ⟨rfl, related⟩

theorem fail {e : ε} : Mirrors R f (Action.fail e : Action σ ε α) (Action.fail e : Action τ ε β) :=
  fun _ _ related => ⟨rfl, related⟩

theorem modify {c : σ → σ} {d : τ → τ} (changes : ∀ s t, R s t → R (c s) (d t)) :
    Mirrors R id (Action.modify c : Action σ ε Unit) (Action.modify d : Action τ ε Unit) :=
  fun s t related => ⟨rfl, changes s t related⟩

theorem query {c : σ → α × σ} {d : τ → β × τ}
    (asked : ∀ s t, R s t → (c s).1 = f (d t).1 ∧ R (c s).2 (d t).2) :
    Mirrors R f (Action.query c : Action σ ε α) (Action.query d : Action τ ε β) := by
  intro s t related
  obtain ⟨answer, state⟩ := asked s t related
  exact ⟨congrArg Except.ok answer, state⟩

theorem mapError {told : ε → ε'} (h : Mirrors R f x y) :
    Mirrors R f (Action.mapError told x) (Action.mapError told y) := by
  intro s t related
  obtain ⟨answer, state⟩ := h s t related
  unfold Action.mapError
  cases hx : x s with
  | mk a s' =>
    cases hy : y t with
    | mk b t' =>
      rw [hx, hy] at answer state
      dsimp only at answer
      subst answer
      cases b with
      | ok v => exact ⟨rfl, state⟩
      | error e => exact ⟨rfl, state⟩

theorem bind (hx : Mirrors R f x y) (hk : ∀ b, Mirrors R g (k (f b)) (l b)) :
    Mirrors R g (x >>= k) (y >>= l) := by
  intro s t related
  obtain ⟨answer, state⟩ := hx s t related
  cases hs : x s with
  | mk a s' =>
    cases ht : y t with
    | mk b t' =>
      rw [hs, ht] at answer state
      dsimp only at answer
      subst answer
      cases b with
      | ok v =>
        rw [bind_of_ok hs, bind_of_ok ht]
        exact hk v s' t' state
      | error e =>
        rw [bind_of_error hs, bind_of_error ht]
        exact ⟨rfl, state⟩

/-- What is known in front has no names in it. -/
theorem ofExcept_bind {γ : Type} {a : Except ε γ} {k : γ → Action σ ε α'} {l : γ → Action τ ε β'}
    (h : ∀ v, Mirrors R g (k v) (l v)) :
    Mirrors R g (Action.ofExcept a >>= k) (Action.ofExcept a >>= l) := by
  cases a with
  | ok v => exact h v
  | error e => exact .fail

theorem bracket {release : α → σ → σ} {release' : β → τ → τ} (hx : Mirrors R f x y)
    (released : ∀ b s t, R s t → R (release (f b) s) (release' b t))
    (hk : ∀ b, Mirrors R g (k (f b)) (l b)) :
    Mirrors R g (Action.bracket x release k) (Action.bracket y release' l) := by
  intro s t related
  obtain ⟨answer, state⟩ := hx s t related
  cases hs : x s with
  | mk a s' =>
    cases ht : y t with
    | mk b t' =>
      rw [hs, ht] at answer state
      dsimp only at answer
      subst answer
      cases b with
      | ok v =>
        obtain ⟨used, after⟩ := hk v s' t' state
        exact (bracket_of_ok hs).symm ▸ (bracket_of_ok ht).symm ▸ ⟨used, released v _ _ after⟩
      | error e =>
        rw [bracket_of_error hs, bracket_of_error ht]
        exact ⟨rfl, state⟩

end Action.Mirrors

open HandleCache.Action

/-! ## Renaming -/

variable {H : Host}

/-- Other names for all that a host hands out and that a program may hand back. Handles of members
stay as they are. -/
structure Host.Renaming (H : Host) where
  classRef : H.ClassRef → H.ClassRef
  object : H.Object → H.Object
  argument : H.Argument → H.Argument
  value : H.Value → H.Value
  pin : H.Pin → H.Pin
  weak : H.Weak → H.Weak

/-- What a binding keeps, renamed. -/
def Retained.rename (N : H.Renaming) : Retained H → Retained H
  | .nothing => .nothing
  | .weakly w => .weakly (N.weak w)
  | .pinned p => .pinned (N.pin p)

/-- The binding with what it keeps renamed. -/
def Binding.rename (N : H.Renaming) (b : Binding H) : Binding H :=
  { b with retained := b.retained.rename N }

/-- What is asked for, renamed. -/
def Ask.rename (N : H.Renaming) : Ask H → Ask H
  | .call trusted name o args => .call trusted name (N.object o) (args.map N.argument)
  | .callStatic name args => .callStatic name (args.map N.argument)
  | .create name args => .create name (args.map N.argument)
  | .read trusted name o => .read trusted name (N.object o)
  | .readStatic name => .readStatic name
  | .acquire => .acquire

/-- What is answered, renamed. -/
def Reply.rename (N : H.Renaming) : Reply H → Reply H
  | .value v => .value (N.value v)
  | .object o => .object (N.object o)
  | .nothing => .nothing

/-- On related states the requests of the host mirror each other. -/
structure Host.Mirrored (H : Host) (N : H.Renaming) (R : H.State → H.State → Prop) : Prop where
  findClass (name : String) : Mirrors R N.classRef (H.findClass name) (H.findClass name)
  findMethod (c : H.ClassRef) (n s : String) :
    Mirrors R id (H.findMethod (N.classRef c) n s) (H.findMethod c n s)
  findStaticMethod (c : H.ClassRef) (n s : String) :
    Mirrors R id (H.findStaticMethod (N.classRef c) n s) (H.findStaticMethod c n s)
  findField (c : H.ClassRef) (n s : String) :
    Mirrors R id (H.findField (N.classRef c) n s) (H.findField c n s)
  findStaticField (c : H.ClassRef) (n s : String) :
    Mirrors R id (H.findStaticField (N.classRef c) n s) (H.findStaticField c n s)
  callMethod (o : H.Object) (id : H.MethodId) (d : MethodDescriptor) (args : List H.Argument) :
    Mirrors R N.value (H.callMethod (N.object o) id d (args.map N.argument))
      (H.callMethod o id d args)
  callStatic (c : H.ClassRef) (id : H.StaticMethodId) (d : MethodDescriptor)
    (args : List H.Argument) :
    Mirrors R N.value (H.callStatic (N.classRef c) id d (args.map N.argument))
      (H.callStatic c id d args)
  newObject (c : H.ClassRef) (id : H.MethodId) (d : MethodDescriptor) (args : List H.Argument) :
    Mirrors R N.object (H.newObject (N.classRef c) id d (args.map N.argument))
      (H.newObject c id d args)
  readField (o : H.Object) (id : H.FieldId) (d : FieldDescriptor) :
    Mirrors R N.value (H.readField (N.object o) id d) (H.readField o id d)
  readStatic (c : H.ClassRef) (id : H.StaticFieldId) (d : FieldDescriptor) :
    Mirrors R N.value (H.readStatic (N.classRef c) id d) (H.readStatic c id d)
  releaseClass (c : H.ClassRef) (s t : H.State) :
    R s t → R (H.releaseClass (N.classRef c) s) (H.releaseClass c t)
  pin (c : H.ClassRef) : Mirrors R N.pin (H.pin (N.classRef c)) (H.pin c)
  weaken (c : H.ClassRef) : Mirrors R N.weak (H.weaken (N.classRef c)) (H.weaken c)
  classOfPin (p : H.Pin) : Mirrors R N.classRef (H.classOfPin (N.pin p)) (H.classOfPin p)
  classOfWeak (w : H.Weak) :
    Mirrors R (Option.map N.classRef) (H.classOfWeak (N.weak w)) (H.classOfWeak w)
  dropPin (p : H.Pin) (s t : H.State) : R s t → R (H.dropPin (N.pin p) s) (H.dropPin p t)
  dropWeak (w : H.Weak) (s t : H.State) : R s t → R (H.dropWeak (N.weak w) s) (H.dropWeak w t)
  isNull (o : H.Object) (s t : H.State) :
    R s t → (H.isNull (N.object o) s).1 = (H.isNull o t).1 ∧
      R (H.isNull (N.object o) s).2 (H.isNull o t).2
  isInstance (o : H.Object) (c : H.ClassRef) :
    Mirrors R id (H.isInstance (N.object o) (N.classRef c)) (H.isInstance o c)
  accepts (p : TypeDescriptor) (a : H.Argument) (s t : H.State) :
    R s t → (H.accepts p (N.argument a) s).1 = (H.accepts p a t).1 ∧
      R (H.accepts p (N.argument a) s).2 (H.accepts p a t).2
  note (e : LogEntry) (s t : H.State) : R s t → R (H.note e s) (H.note e t)

namespace Host.Mirrored

variable {N : H.Renaming} {R : H.State → H.State → Prop}

theorem tell (M : H.Mirrored N R) (e : LogEntry) :
    Mirrors R id (Host.tell (H := H) e) (Host.tell e) :=
  .modify (M.note e)

/-! ## Resolutions -/

theorem lookupOperation (M : H.Mirrored N R) (c : H.ClassRef) (className : String) (op : Operation)
    (plan : Plan) :
    Mirrors R id (Host.lookupOperation (H := H) (N.classRef c) className op plan)
      (Host.lookupOperation c className op plan) := by
  cases plan with
  | constructor => exact (M.findMethod c _ _).mapError.bind fun _ => .pure
  | method => exact (M.findMethod c _ _).mapError.bind fun _ => .pure
  | staticMethod => exact (M.findStaticMethod c _ _).mapError.bind fun _ => .pure
  | field => exact (M.findField c _ _).mapError.bind fun _ => .pure
  | staticField => exact (M.findStaticField c _ _).mapError.bind fun _ => .pure

theorem lookupOperations (M : H.Mirrored N R) (c : H.ClassRef) (className : String)
    (plans : List (Operation × Plan)) :
    Mirrors R id (Host.lookupOperations (H := H) (N.classRef c) className plans)
      (Host.lookupOperations c className plans) := by
  induction plans with
  | nil => exact .pure
  | cons first rest ih =>
    obtain ⟨op, plan⟩ := first
    exact (M.lookupOperation c className op plan).bind fun _ => ih.bind fun _ => .pure

theorem retain (M : H.Mirrored N R) (c : H.ClassRef) (d : Declaration) :
    Mirrors R (Retained.rename N) (Host.retain (H := H) (N.classRef c) d) (Host.retain c d) := by
  unfold Host.retain
  cases d.retention with
  | drop => exact .pure (b := Retained.nothing)
  | weak => exact (M.weaken c).mapError.bind fun w => .pure (b := Retained.weakly w)
  | global => exact (M.pin c).mapError.bind fun p => .pure (b := Retained.pinned p)

/-- A resolution makes the same binding, but for the name of what it keeps. -/
theorem resolve (M : H.Mirrored N R) (d : Declaration) :
    Mirrors R (Binding.rename N) (Binding.resolve H d) (Binding.resolve H d) := by
  refine .ofExcept_bind fun plans => ?_
  refine Mirrors.bind (f := fun found : List (ResolvedOperation H) × Retained H =>
    (found.1, found.2.rename N)) ?_ fun found => ?_
  · refine (M.findClass d.className).mapError.bracket M.releaseClass fun c => ?_
    refine (M.tell _).bind fun _ => (M.lookupOperations c d.className plans).bind fun resolved => ?_
    exact (M.retain c d).bind fun retained => .pure (b := (resolved, retained))
  · exact (M.tell _).bind fun _ => .pure (b := Binding.ofRows d found.1 found.2)

/-! ## Requests to bindings -/

section

variable (b : Binding H)

theorem lookupAgain (M : H.Mirrored N R) :
    Mirrors R N.classRef (b.rename N).lookupAgain b.lookupAgain :=
  (M.tell _).bind fun _ => (M.findClass b.className).mapError

theorem obtainClass (M : H.Mirrored N R) :
    Mirrors R N.classRef (b.rename N).obtainClass b.obtainClass := by
  have again := M.lookupAgain b
  unfold Binding.obtainClass
  cases kept : b.retained with
  | nothing =>
    simpa only [Binding.rename, kept, Retained.rename] using again
  | pinned p =>
    simp only [Binding.rename, kept, Retained.rename]
    exact (M.classOfPin p).mapError
  | weakly w =>
    simp only [Binding.rename, kept, Retained.rename] at again ⊢
    refine (M.classOfWeak w).mapError.bind fun c => ?_
    cases c with
    | some c => exact .pure (b := c)
    | none => exact (M.tell _).bind fun _ => again

theorem withClass (M : H.Mirrored N R) {f : β → α} {use : H.ClassRef → H.Request α}
    {use' : H.ClassRef → H.Request β} (h : ∀ c, Mirrors R f (use (N.classRef c)) (use' c)) :
    Mirrors R f ((b.rename N).withClass use) (b.withClass use') :=
  (M.obtainClass b).bracket M.releaseClass h

theorem requirePresent (M : H.Mirrored N R) (op : Operation) (o : H.Object) :
    Mirrors R id ((b.rename N).requirePresent op (N.object o)) (b.requirePresent op o) := by
  refine (Mirrors.query (f := id) (M.isNull o)).bind fun missing => ?_
  cases missing with
  | true => exact .fail
  | false => exact .pure (b := ())

theorem requireEach (M : H.Mirrored N R) (op : Operation) (index : Nat)
    (ts : List TypeDescriptor) (args : List H.Argument) :
    Mirrors R id ((b.rename N).requireEach op index ts (args.map N.argument))
      (b.requireEach op index ts args) := by
  induction ts generalizing index args with
  | nil => exact .pure (b := ())
  | cons t ts ih =>
    cases args with
    | nil => exact .pure (b := ())
    | cons arg rest =>
      refine (Mirrors.query (f := id) (M.accepts t arg)).bind fun fits => ?_
      cases fits with
      | true => exact ih (index + 1) rest
      | false => exact .fail

theorem requireArguments (M : H.Mirrored N R) (op : Operation) (d : MethodDescriptor)
    (args : List H.Argument) :
    Mirrors R id ((b.rename N).requireArguments op d (args.map N.argument))
      (b.requireArguments op d args) := by
  unfold Binding.requireArguments
  rw [List.length_map]
  split
  · exact M.requireEach b op 0 d.parameters args
  · exact .fail

theorem requireInstance (M : H.Mirrored N R) (o : H.Object) :
    Mirrors R id ((b.rename N).requireInstance (N.object o)) (b.requireInstance o) := by
  refine (M.withClass b fun c => (M.isInstance o c).mapError).bind fun isInstance => ?_
  cases isInstance with
  | true => exact .pure (b := ())
  | false => exact .fail

theorem create (M : H.Mirrored N R) (name : String) (args : List H.Argument) :
    Mirrors R N.object ((b.rename N).create name (args.map N.argument)) (b.create name args) := by
  refine .ofExcept_bind fun v => (M.requireArguments b _ _ args).bind fun _ => ?_
  exact M.withClass b fun c => (M.newObject c _ _ args).mapError

/-- A request to a binding is answered alike. -/
theorem answer (M : H.Mirrored N R) (ask : Ask H) :
    Mirrors R (Reply.rename N) ((b.rename N).answer (ask.rename N)) (b.answer ask) := by
  match ask with
  | .call true name o args =>
    refine Mirrors.bind (f := N.value) ?_ fun v => .pure (b := Reply.value v)
    refine .ofExcept_bind fun v => (M.requirePresent b _ o).bind fun _ => ?_
    exact (M.requireArguments b _ _ args).bind fun _ => (M.callMethod o _ _ args).mapError
  | .call false name o args =>
    refine Mirrors.bind (f := N.value) ?_ fun v => .pure (b := Reply.value v)
    refine .ofExcept_bind fun v => (M.requirePresent b _ o).bind fun _ => ?_
    refine (M.requireArguments b _ _ args).bind fun _ => ?_
    exact (M.requireInstance b o).bind fun _ => (M.callMethod o _ _ args).mapError
  | .callStatic name args =>
    refine Mirrors.bind (f := N.value) ?_ fun v => .pure (b := Reply.value v)
    refine .ofExcept_bind fun v => (M.requireArguments b _ _ args).bind fun _ => ?_
    exact M.withClass b fun c => (M.callStatic c _ _ args).mapError
  | .create name args =>
    exact (M.create b name args).bind fun o => .pure (b := Reply.object o)
  | .read true name o =>
    refine Mirrors.bind (f := N.value) ?_ fun v => .pure (b := Reply.value v)
    refine .ofExcept_bind fun v => (M.requirePresent b _ o).bind fun _ => ?_
    exact (M.readField o _ _).mapError
  | .read false name o =>
    refine Mirrors.bind (f := N.value) ?_ fun v => .pure (b := Reply.value v)
    refine .ofExcept_bind fun v => (M.requirePresent b _ o).bind fun _ => ?_
    exact (M.requireInstance b o).bind fun _ => (M.readField o _ _).mapError
  | .readStatic name =>
    refine Mirrors.bind (f := N.value) ?_ fun v => .pure (b := Reply.value v)
    refine .ofExcept_bind fun v => ?_
    exact M.withClass b fun c => (M.readStatic c _ _).mapError
  | .acquire => exact M.withClass b fun _ => .pure (b := Reply.nothing)

/-- What a binding keeps is given back alike. -/
theorem release (M : H.Mirrored N R) {s t : H.State} (related : R s t) :
    R ((b.rename N).release s) (b.release t) := by
  unfold Binding.release
  cases kept : b.retained with
  | nothing => simpa only [Binding.rename, kept, Retained.rename, id_eq] using related
  | weakly w => simpa only [Binding.rename, kept, Retained.rename] using M.dropWeak w s t related
  | pinned p => simpa only [Binding.rename, kept, Retained.rename] using M.dropPin p s t related

end

end Host.Mirrored

end HandleCache

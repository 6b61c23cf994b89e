import HandleCache.Proofs.Counting.Heap

/-!
# What the checks let through

A request to a binding is checked before a member is called. What passes the checks can be told from
the declaration and the objects of the machine; what does not is refused as misuse; and a request
that passes comes to the call of the member that its operation stands for, on the heap as it was.

## Contents

- `Declares`, `Takes`, `Machine.HasInstance`: what the checks are for
- `Passes`: a request that none of the checks refuses
- `Allowed`: an action that is not refused as misuse

## Main statements

- `Home.comes_call` and its siblings: what passes comes to a call
- `Home.passes_iff`: a request passes exactly if it is not refused
-/

namespace HandleCache.Counting

open HandleCache.Action

/-! ## Requests that pass -/

/-- The declaration has an operation of this kind under this logical name. -/
structure Declares (d : Declaration) (name : String) (kind : OperationKind) (op : Operation) :
    Prop where
  named : d.operation? name = some op
  kind : op.kind = kind

/-- The operation takes these arguments: as many as it has parameters, and all parameters are whole
numbers, which is what arguments are here. -/
def Takes (op : Operation) (args : List Int32) : Prop :=
  ∃ t, MethodDescriptor.parse op.signature = .ok t ∧ t.parameters.length = args.length ∧
    ∀ p ∈ t.parameters, p = .primitive .int

/-- The reference is to an object, and its class is the one of the declaration. -/
def Machine.HasInstance (m : Machine) (d : Declaration) (o : ObjectNumber) : Prop :=
  ∃ i x, o = some i ∧ m.objects[i]? = some x ∧ m.layout.class? d.className = some x.owner

/-- None of the checks refuses the request. -/
inductive Passes (d : Declaration) (m : Machine) : Ask host → Prop where
  | call {trusted : Bool} {name : String} {o : ObjectNumber} {args : List Int32} {op : Operation} :
      Declares d name .method op → Takes op args → m.HasInstance d o →
      Passes d m (.call trusted name o args)
  | callStatic {name : String} {args : List Int32} {op : Operation} :
      Declares d name .staticMethod op → Takes op args → Passes d m (.callStatic name args)
  | create {name : String} {args : List Int32} {op : Operation} :
      Declares d name .constructor op → Takes op args → Passes d m (.create name args)
  | read {trusted : Bool} {name : String} {o : ObjectNumber} {op : Operation} :
      Declares d name .field op → m.HasInstance d o → Passes d m (.read trusted name o)
  | readStatic {name : String} {op : Operation} :
      Declares d name .staticField op → Passes d m (.readStatic name)
  | acquire : Passes d m .acquire

section

variable {d : Declaration} {l : Layout} {b : Binding host} {c : Nat} {m : Machine} {name : String}
  {op : Operation} {args : List Int32} {o : ObjectNumber}

/-! ## The operation -/

/-- The rows of a binding at home are found as the operations of its declaration are. -/
theorem Home.map_find? (home : Home d l c b) (name : String) :
    (b.find? name).map (·.operation) = d.operation? name :=
  Binding.map_find? home.operations home.distinct name

/-- The row of a declared operation, which its handle is located for. -/
theorem Home.exists_row (home : Home d l c b) (named : d.operation? name = some op) :
    ∃ handle, b.operation name = .ok ⟨op, handle⟩ ∧ Located l c op handle := by
  obtain ⟨r, row, rfl⟩ := Option.map_eq_some_iff.mp ((home.map_find? name).trans named)
  refine ⟨r.handle, ?_, home.located r (Binding.mem_of_find? row).1⟩
  rw [Binding.operation, row]

theorem Home.methodNamed (home : Home d l c b) (declared : Declares d name .method op) :
    ∃ id t, b.methodNamed name = .ok (op, id, t) ∧ MethodDescriptor.parse op.signature = .ok t ∧
      l.member? false c op.member op.signature = some id := by
  obtain ⟨handle, row, located⟩ := home.exists_row declared.named
  cases located with
  | method kind parsed found =>
    exact ⟨_, _, by rw [Binding.methodNamed, row]; rfl, parsed, found⟩
  | _ kind => cases kind.symm.trans declared.kind

theorem Home.fieldNamed (home : Home d l c b) (declared : Declares d name .field op) :
    ∃ id t, b.fieldNamed name = .ok (op, id, t) ∧ FieldDescriptor.parse op.signature = .ok t ∧
      l.member? false c op.member op.signature = some id := by
  obtain ⟨handle, row, located⟩ := home.exists_row declared.named
  cases located with
  | field kind parsed found => exact ⟨_, _, by rw [Binding.fieldNamed, row]; rfl, parsed, found⟩
  | _ kind => cases kind.symm.trans declared.kind

theorem Home.staticMethodNamed (home : Home d l c b)
    (declared : Declares d name .staticMethod op) :
    ∃ id t, b.staticMethodNamed name = .ok (op, id, t) ∧
      MethodDescriptor.parse op.signature = .ok t ∧
      l.member? true c op.member op.signature = some id := by
  obtain ⟨handle, row, located⟩ := home.exists_row declared.named
  cases located with
  | staticMethod kind parsed found =>
    exact ⟨_, _, by rw [Binding.staticMethodNamed, row]; rfl, parsed, found⟩
  | _ kind => cases kind.symm.trans declared.kind

theorem Home.constructorNamed (home : Home d l c b)
    (declared : Declares d name .constructor op) :
    ∃ id t, b.constructorNamed name = .ok (op, id, t) ∧
      MethodDescriptor.parse op.signature = .ok t ∧
      l.member? false c op.member op.signature = some id := by
  obtain ⟨handle, row, located⟩ := home.exists_row declared.named
  cases located with
  | constructor kind parsed found =>
    exact ⟨_, _, by rw [Binding.constructorNamed, row]; rfl, parsed, found⟩
  | _ kind => cases kind.symm.trans declared.kind

theorem Home.staticFieldNamed (home : Home d l c b)
    (declared : Declares d name .staticField op) :
    ∃ id t, b.staticFieldNamed name = .ok (op, id, t) ∧
      FieldDescriptor.parse op.signature = .ok t ∧
      l.member? true c op.member op.signature = some id := by
  obtain ⟨handle, row, located⟩ := home.exists_row declared.named
  cases located with
  | staticField kind parsed found =>
    exact ⟨_, _, by rw [Binding.staticFieldNamed, row]; rfl, parsed, found⟩
  | _ kind => cases kind.symm.trans declared.kind

/-! ## The checks -/

theorem yields_ofExcept {ε α : Type} {a : Except ε α} {v : α} (h : a = .ok v) :
    Yields (Action.ofExcept a) m v :=
  ⟨h, .refl m⟩

theorem Machine.HasInstance.yields_requirePresent {m₀ : Machine} (inst : m₀.HasInstance d o) :
    Yields (b.requirePresent op o) m () := by
  obtain ⟨i, x, rfl, -⟩ := inst
  exact ⟨rfl, .refl m⟩

theorem yields_requireEach (index : Nat) {ts : List TypeDescriptor}
    (ints : ∀ p ∈ ts, p = .primitive .int) : Yields (b.requireEach op index ts args) m () := by
  induction ts generalizing index args with
  | nil => exact ⟨rfl, .refl m⟩
  | cons t ts ih =>
    cases args with
    | nil => exact ⟨rfl, .refl m⟩
    | cons arg rest =>
      obtain ⟨rfl, others⟩ := List.forall_mem_cons.mp ints
      exact ih (index + 1) others

theorem Takes.yields_requireArguments {t : MethodDescriptor} (takes : Takes op args)
    (parsed : MethodDescriptor.parse op.signature = .ok t) :
    Yields (b.requireArguments op t args) m () := by
  obtain ⟨t', parsed', length, ints⟩ := takes
  cases parsed.symm.trans parsed'
  have counted : b.requireArguments op t args = b.requireEach op 0 t.parameters args :=
    if_pos length
  rw [counted]
  exact yields_requireEach 0 ints

/-- An object is tested against the class of the binding. -/
theorem Home.yields_isInstance {i : Nat} {x : Instance} (home : Home d m.layout c b)
    (there : m.objects[i]? = some x) :
    Yields (b.withClass fun c => Host.direct (host.isInstance (some i) c)) m (x.owner == c) := by
  apply home.yields_obtainClass.same_bracket
  · exact fun m => ⟨rfl, rfl, rfl⟩
  · intro m' heap
    have found : m'.instance? (some i) = some (i, x) := by
      simp [Machine.instance?, heap.objects, there]
    have run : Machine.isInstance (some i) c m' = (.ok (x.owner == c), m') := by
      simp [Machine.isInstance, found]
    exact (Yields.of_eq run (.refl m')).mapError.same heap

theorem Home.yields_requireInstance (home : Home d m.layout c b) (inst : m.HasInstance d o) :
    Yields (b.requireInstance o) m () := by
  obtain ⟨i, x, rfl, there, owner⟩ := inst
  have ofClass : (x.owner == c) = true := by
    simpa using Option.some.inj (owner.symm.trans home.class?)
  apply (ofClass ▸ home.yields_isInstance there).same_bind
  exact fun m' heap => ⟨rfl, heap⟩

/-! ## What passes comes to a call -/

theorem Home.of_sameHeap {m' : Machine} (home : Home d m.layout c b) (heap : m'.SameHeap m) :
    Home d m'.layout c b := by
  rwa [heap.layout]

theorem Machine.HasInstance.of_sameHeap {m' : Machine} (inst : m.HasInstance d o)
    (heap : m'.SameHeap m) : m'.HasInstance d o := by
  obtain ⟨i, x, rfl, there, owner⟩ := inst
  exact ⟨i, x, rfl, by rwa [heap.objects], by rwa [heap.layout]⟩

theorem IsCall.agree_direct {α : Type} {x : Machine.Step α} (call : IsCall x) :
    Agree Machine.SameHeap (Host.direct (H := host) x) (Host.direct (H := host) x) :=
  call.agree_sameHeap.mapError

/-- What is done with the class in between does not touch the heap, and so the call in it is made on
the heap as it was. -/
theorem Home.same_withClass {α : Type} {x : host.Request α} {use : Nat → host.Request α}
    (home : Home d m.layout c b) (h : Agree Machine.SameHeap (use c) x) {m₀ : Machine}
    (heap : m.SameHeap m₀) : Same Machine.SameHeap (b.withClass use m) (x m₀) := by
  apply home.yields_obtainClass.same_bracket
  · exact fun m => ⟨rfl, rfl, rfl⟩
  · exact fun m' heap' => h m' m₀ (heap'.trans heap)

theorem Home.comes_call {trusted : Bool} (home : Home d m.layout c b)
    (declared : Declares d name .method op) (takes : Takes op args) (inst : m.HasInstance d o) :
    ∃ id t, MethodDescriptor.parse op.signature = .ok t ∧
      m.layout.member? false c op.member op.signature = some id ∧
      Same Machine.SameHeap (b.answer (.call trusted name o args) m)
        ((Host.direct (host.callMethod o id t args) >>= fun v => pure (.value v)) m) := by
  obtain ⟨id, t, row, parsed, member?⟩ := home.methodNamed declared
  have call : Agree Machine.SameHeap _ _ := (isCall_runMember o id args).agree_direct
  refine ⟨id, t, parsed, member?, ?_⟩
  cases trusted with
  | true =>
    have comes : Same Machine.SameHeap (b.callTrusted name o args m)
        (Host.direct (host.callMethod o id t args) m) := by
      apply (yields_ofExcept row).same_bind
      intro m₁ heap₁
      apply inst.yields_requirePresent.same_bind
      intro m₂ heap₂
      apply (takes.yields_requireArguments parsed).same_bind
      exact fun m₃ heap₃ => call m₃ m (heap₃.trans (heap₂.trans heap₁))
    exact comes.reply
  | false =>
    have comes : Same Machine.SameHeap (b.call name o args m)
        (Host.direct (host.callMethod o id t args) m) := by
      apply (yields_ofExcept row).same_bind
      intro m₁ heap₁
      apply inst.yields_requirePresent.same_bind
      intro m₂ heap₂
      apply (takes.yields_requireArguments parsed).same_bind
      intro m₃ heap₃
      have heap := heap₃.trans (heap₂.trans heap₁)
      apply ((home.of_sameHeap heap).yields_requireInstance (inst.of_sameHeap heap)).same_bind
      exact fun m₄ heap₄ => call m₄ m (heap₄.trans heap)
    exact comes.reply

theorem Home.comes_callStatic (home : Home d m.layout c b)
    (declared : Declares d name .staticMethod op) (takes : Takes op args) :
    ∃ id t, MethodDescriptor.parse op.signature = .ok t ∧
      m.layout.member? true c op.member op.signature = some id ∧
      Same Machine.SameHeap (b.answer (.callStatic name args) m)
        ((Host.direct (host.callStatic c id t args) >>= fun v => pure (.value v)) m) := by
  obtain ⟨id, t, row, parsed, member?⟩ := home.staticMethodNamed declared
  have call : Agree Machine.SameHeap _ _ := (isCall_runMember none id args).agree_direct
  have comes : Same Machine.SameHeap (b.callStatic name args m)
      (Host.direct (host.callStatic c id t args) m) := by
    apply (yields_ofExcept row).same_bind
    intro m₁ heap₁
    apply (takes.yields_requireArguments parsed).same_bind
    intro m₂ heap₂
    have heap := heap₂.trans heap₁
    exact (home.of_sameHeap heap).same_withClass call heap
  exact ⟨id, t, parsed, member?, comes.reply⟩

theorem Home.comes_create (home : Home d m.layout c b)
    (declared : Declares d name .constructor op) (takes : Takes op args) :
    ∃ id t, MethodDescriptor.parse op.signature = .ok t ∧
      m.layout.member? false c op.member op.signature = some id ∧
      Same Machine.SameHeap (b.answer (.create name args) m)
        ((Host.direct (host.newObject c id t args) >>= fun o => pure (.object o)) m) := by
  obtain ⟨id, t, row, parsed, member?⟩ := home.constructorNamed declared
  have call : Agree Machine.SameHeap _ _ := (isCall_make id args).agree_direct
  have comes : Same Machine.SameHeap (b.create name args m)
      (Host.direct (host.newObject c id t args) m) := by
    apply (yields_ofExcept row).same_bind
    intro m₁ heap₁
    apply (takes.yields_requireArguments parsed).same_bind
    intro m₂ heap₂
    have heap := heap₂.trans heap₁
    exact (home.of_sameHeap heap).same_withClass call heap
  exact ⟨id, t, parsed, member?, comes.reply⟩

theorem Home.comes_read {trusted : Bool} (home : Home d m.layout c b)
    (declared : Declares d name .field op) (inst : m.HasInstance d o) :
    ∃ id t, FieldDescriptor.parse op.signature = .ok t ∧
      m.layout.member? false c op.member op.signature = some id ∧
      Same Machine.SameHeap (b.answer (.read trusted name o) m)
        ((Host.direct (host.readField o id t) >>= fun v => pure (.value v)) m) := by
  obtain ⟨id, t, row, parsed, member?⟩ := home.fieldNamed declared
  have call : Agree Machine.SameHeap _ _ := (isCall_runMember o id []).agree_direct
  refine ⟨id, t, parsed, member?, ?_⟩
  cases trusted with
  | true =>
    have comes : Same Machine.SameHeap (b.readTrusted name o m)
        (Host.direct (host.readField o id t) m) := by
      apply (yields_ofExcept row).same_bind
      intro m₁ heap₁
      apply inst.yields_requirePresent.same_bind
      exact fun m₂ heap₂ => call m₂ m (heap₂.trans heap₁)
    exact comes.reply
  | false =>
    have comes : Same Machine.SameHeap (b.read name o m)
        (Host.direct (host.readField o id t) m) := by
      apply (yields_ofExcept row).same_bind
      intro m₁ heap₁
      apply inst.yields_requirePresent.same_bind
      intro m₂ heap₂
      have heap := heap₂.trans heap₁
      apply ((home.of_sameHeap heap).yields_requireInstance (inst.of_sameHeap heap)).same_bind
      exact fun m₃ heap₃ => call m₃ m (heap₃.trans heap)
    exact comes.reply

theorem Home.comes_readStatic (home : Home d m.layout c b)
    (declared : Declares d name .staticField op) :
    ∃ id t, FieldDescriptor.parse op.signature = .ok t ∧
      m.layout.member? true c op.member op.signature = some id ∧
      Same Machine.SameHeap (b.answer (.readStatic name) m)
        ((Host.direct (host.readStatic c id t) >>= fun v => pure (.value v)) m) := by
  obtain ⟨id, t, row, parsed, member?⟩ := home.staticFieldNamed declared
  have call : Agree Machine.SameHeap _ _ := (isCall_runMember none id []).agree_direct
  have comes : Same Machine.SameHeap (b.readStatic name m)
      (Host.direct (host.readStatic c id t) m) := by
    apply (yields_ofExcept row).same_bind
    intro m₁ heap₁
    exact (home.of_sameHeap heap₁).same_withClass call heap₁
  exact ⟨id, t, parsed, member?, comes.reply⟩

theorem Home.comes_acquire (home : Home d m.layout c b) :
    Same Machine.SameHeap (b.answer .acquire m) (.ok .nothing, m) := by
  have nothing : Agree Machine.SameHeap (pure .nothing : host.Request (Reply host))
      (pure .nothing) := .pure
  exact home.same_withClass nothing (.refl m)

end

/-! ## What is refused -/

/-- The action is not refused as misuse. -/
def Allowed {σ ε α : Type} (x : Action σ (Fault ε) α) (s : σ) : Prop :=
  ∀ fault, (x s).1 = .error fault → fault.isMisuse = false

section

variable {σ ε α β : Type} {x : Action σ (Fault ε) α} {f : α → Action σ (Fault ε) β} {s t : σ}
  {v : α}

/-- If a first part is refused, then the whole is. -/
theorem Allowed.first (h : Allowed (x >>= f) s) : Allowed x s := by
  intro fault stopped
  apply h fault
  rw [bind_of_error (Prod.ext stopped rfl)]

theorem Allowed.next (h : Allowed (x >>= f) s) (run : x s = (.ok v, t)) : Allowed (f v) t := by
  intro fault stopped
  apply h fault
  rwa [bind_of_ok run]

theorem Allowed.of_same {τ : Type} {R : σ → τ → Prop} {y : Action τ (Fault ε) α} {t : τ}
    (h : Allowed y t) (same : Same R (x s) (y t)) : Allowed x s :=
  fun fault stopped => h fault (same.answer ▸ stopped)

/-- The host itself refuses nothing as misuse. -/
theorem allowed_direct {H : Host} (y : Action H.State H.Failure α) (g : α → β) (s : H.State) :
    Allowed (Host.direct y >>= fun v => pure (g v)) s := by
  intro fault stopped
  cases run : y s with
  | mk answer t =>
    cases answer with
    | ok v =>
      simp only [Action.bind_apply, Host.direct, Action.mapError, run] at stopped
      cases stopped
    | error e =>
      simp only [Action.bind_apply, Host.direct, Action.mapError, run] at stopped
      cases stopped
      rfl

end

section

variable {d : Declaration} {l : Layout} {b : Binding host} {c : Nat} {m : Machine} {name : String}
  {op : Operation} {args : List Int32} {o : ObjectNumber} {ask : Ask host}

theorem Home.operation_of_none (home : Home d l c b) (named : d.operation? name = none) :
    b.operation name = .error (.unknownOperation b.className name) := by
  rw [Binding.operation, Option.map_eq_none_iff.mp ((home.map_find? name).trans named)]

/-- Only a declared operation is not refused, and then its row decides. -/
theorem Home.declared_of_allowed {γ : Type} (home : Home d l c b)
    {g : ResolvedOperation host → Except (Fault host.Failure) γ}
    (h : Allowed (Action.ofExcept (b.operation name >>= g)) m) :
    ∃ op handle, d.operation? name = some op ∧ Located l c op handle ∧
      Allowed (Action.ofExcept (g ⟨op, handle⟩)) m := by
  cases named : d.operation? name with
  | none =>
    rw [home.operation_of_none named] at h
    cases h _ rfl
  | some op =>
    obtain ⟨handle, row, located⟩ := home.exists_row named
    rw [row] at h
    exact ⟨op, handle, rfl, located, h⟩

theorem Home.declares_method (home : Home d l c b)
    (h : Allowed (Action.ofExcept (b.methodNamed name)) m) : ∃ op, Declares d name .method op := by
  obtain ⟨op, handle, named, located, allowed⟩ := home.declared_of_allowed h
  cases located with
  | method kind => exact ⟨op, named, kind⟩
  | _ => cases allowed _ rfl

theorem Home.declares_field (home : Home d l c b)
    (h : Allowed (Action.ofExcept (b.fieldNamed name)) m) : ∃ op, Declares d name .field op := by
  obtain ⟨op, handle, named, located, allowed⟩ := home.declared_of_allowed h
  cases located with
  | field kind => exact ⟨op, named, kind⟩
  | _ => cases allowed _ rfl

theorem Home.declares_staticMethod (home : Home d l c b)
    (h : Allowed (Action.ofExcept (b.staticMethodNamed name)) m) :
    ∃ op, Declares d name .staticMethod op := by
  obtain ⟨op, handle, named, located, allowed⟩ := home.declared_of_allowed h
  cases located with
  | staticMethod kind => exact ⟨op, named, kind⟩
  | _ => cases allowed _ rfl

theorem Home.declares_constructor (home : Home d l c b)
    (h : Allowed (Action.ofExcept (b.constructorNamed name)) m) :
    ∃ op, Declares d name .constructor op := by
  obtain ⟨op, handle, named, located, allowed⟩ := home.declared_of_allowed h
  cases located with
  | constructor kind => exact ⟨op, named, kind⟩
  | _ => cases allowed _ rfl

theorem Home.declares_staticField (home : Home d l c b)
    (h : Allowed (Action.ofExcept (b.staticFieldNamed name)) m) :
    ∃ op, Declares d name .staticField op := by
  obtain ⟨op, handle, named, located, allowed⟩ := home.declared_of_allowed h
  cases located with
  | staticField kind => exact ⟨op, named, kind⟩
  | _ => cases allowed _ rfl

theorem exists_of_allowed (h : Allowed (b.requirePresent op o) m) : ∃ i, o = some i := by
  cases o with
  | none => cases h _ rfl
  | some i => exact ⟨i, rfl⟩

theorem ints_of_allowed {index : Nat} {ts : List TypeDescriptor} (length : ts.length = args.length)
    (h : Allowed (b.requireEach op index ts args) m) : ∀ p ∈ ts, p = .primitive .int := by
  induction ts generalizing index args with
  | nil => simp
  | cons t ts ih =>
    cases args with
    | nil => cases length
    | cons arg rest =>
      by_cases int : t = .primitive .int
      · subst int
        exact List.forall_mem_cons.mpr ⟨rfl, ih (Nat.succ.inj length) h⟩
      · have refused : (b.requireEach op index (t :: ts) (arg :: rest) m).1 =
            .error (.argumentType b.className op.name index t.render) := by
          have test : (t == .primitive .int) = false := by simpa using int
          simp only [Binding.requireEach, host, test]
          rfl
        cases h _ refused

theorem takes_of_allowed {t : MethodDescriptor}
    (parsed : MethodDescriptor.parse op.signature = .ok t)
    (h : Allowed (b.requireArguments op t args) m) : Takes op args := by
  unfold Binding.requireArguments at h
  split at h
  · next length => exact ⟨t, parsed, length, ints_of_allowed length h⟩
  · cases h _ rfl

theorem Home.hasInstance_of_allowed {i : Nat} (home : Home d m.layout c b)
    (there : i < m.objects.length) (h : Allowed (b.requireInstance (some i)) m) :
    m.HasInstance d (some i) := by
  have found : m.objects[i]? = some m.objects[i] := List.getElem?_eq_getElem there
  obtain ⟨m', run, -⟩ := (home.yields_isInstance found).exists_eq
  have allowed := h.next run
  by_cases ofClass : m.objects[i].owner = c
  · exact ⟨i, m.objects[i], rfl, found, ofClass ▸ home.class?⟩
  · have test : (m.objects[i].owner == c) = false := by simpa using ofClass
    rw [test] at allowed
    cases allowed _ rfl

/-- The object that the request is about, if there is one, is an object of the machine. -/
def Machine.Knows (m : Machine) : Ask host → Prop
  | .call _ _ o _ | .read _ _ o => ∀ i, o = some i → i < m.objects.length
  | _ => True

theorem Home.allowed_of_passes (home : Home d m.layout c b) (passes : Passes d m ask) :
    Allowed (b.answer ask) m := by
  cases passes with
  | call declared takes inst =>
    obtain ⟨id, t, -, -, comes⟩ := home.comes_call declared takes inst
    exact (allowed_direct _ _ m).of_same comes
  | callStatic declared takes =>
    obtain ⟨id, t, -, -, comes⟩ := home.comes_callStatic declared takes
    exact (allowed_direct _ _ m).of_same comes
  | create declared takes =>
    obtain ⟨id, t, -, -, comes⟩ := home.comes_create declared takes
    exact (allowed_direct _ _ m).of_same comes
  | read declared inst =>
    obtain ⟨id, t, -, -, comes⟩ := home.comes_read declared inst
    exact (allowed_direct _ _ m).of_same comes
  | readStatic declared =>
    obtain ⟨id, t, -, -, comes⟩ := home.comes_readStatic declared
    exact (allowed_direct _ _ m).of_same comes
  | acquire =>
    intro fault stopped
    cases stopped.symm.trans home.comes_acquire.answer

/-- What is not refused comes past each check, and what it was asked there holds of the request. -/
theorem Home.passes_of_allowed (home : Home d m.layout c b) (untrusted : ask.isTrusted = false)
    (known : m.Knows ask) (h : Allowed (b.answer ask) m) : Passes d m ask := by
  cases ask with
  | call trusted name o args =>
    cases untrusted
    have call : Allowed (b.call name o args) m := h.first
    obtain ⟨op, declared⟩ := home.declares_method call.first
    obtain ⟨id, t, row, parsed, -⟩ := home.methodNamed declared
    have checks := call.next (congrArg (·, m) row)
    obtain ⟨i, rfl⟩ := exists_of_allowed checks.first
    have fits := checks.next rfl
    have takes := takes_of_allowed parsed fits.first
    obtain ⟨m₁, run, heap⟩ := (takes.yields_requireArguments parsed).exists_eq
    have tested := fits.next run
    have there : i < m₁.objects.length := heap.objects ▸ known i rfl
    have inst := (home.of_sameHeap heap).hasInstance_of_allowed there tested.first
    exact .call declared takes (inst.of_sameHeap heap.symm)
  | callStatic name args =>
    have call : Allowed (b.callStatic name args) m := h.first
    obtain ⟨op, declared⟩ := home.declares_staticMethod call.first
    obtain ⟨id, t, row, parsed, -⟩ := home.staticMethodNamed declared
    have fits := call.next (congrArg (·, m) row)
    exact .callStatic declared (takes_of_allowed parsed fits.first)
  | create name args =>
    have create : Allowed (b.create name args) m := h.first
    obtain ⟨op, declared⟩ := home.declares_constructor create.first
    obtain ⟨id, t, row, parsed, -⟩ := home.constructorNamed declared
    have fits := create.next (congrArg (·, m) row)
    exact .create declared (takes_of_allowed parsed fits.first)
  | read trusted name o =>
    cases untrusted
    have read : Allowed (b.read name o) m := h.first
    obtain ⟨op, declared⟩ := home.declares_field read.first
    obtain ⟨id, t, row, -, -⟩ := home.fieldNamed declared
    have checks := read.next (congrArg (·, m) row)
    obtain ⟨i, rfl⟩ := exists_of_allowed checks.first
    have tested := checks.next rfl
    exact .read declared (home.hasInstance_of_allowed (known i rfl) tested.first)
  | readStatic name =>
    have read : Allowed (b.readStatic name) m := h.first
    obtain ⟨op, declared⟩ := home.declares_staticField read.first
    exact .readStatic declared
  | acquire => exact .acquire

/-- A request about an object of the machine passes the checks exactly if it is not refused as
misuse, unless the object was trusted to be of the class. -/
theorem Home.passes_iff (home : Home d m.layout c b) (untrusted : ask.isTrusted = false)
    (known : m.Knows ask) : Passes d m ask ↔ Allowed (b.answer ask) m :=
  ⟨home.allowed_of_passes, home.passes_of_allowed untrusted known⟩

end

end HandleCache.Counting

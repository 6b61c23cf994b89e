import HandleCache.Binding.Uncached
import HandleCache.Proofs.Counting.Checks
import HandleCache.Proofs.Requests.Defect

/-!
# Calls with and without a table

A request that passes the checks comes to the call of a member, and so does what a program does that
keeps no table: it is the same member, called on the same heap. What lies in front of the call
differs, but nothing of it touches the heap.

## Main statements

- `same_uncachedMember`: what is done without a table
- `Home.same_uncached`: with and without a table a request has the same answer and leaves the same
  heap
-/

namespace HandleCache.Counting

open HandleCache.Action

section

variable {d : Declaration} {b : Binding host} {c : Nat} {m : Machine} {name : String}
  {op : Operation}

theorem same_withMember {α : Type} {x : host.Request α} {use : Nat → MemberId → host.Request α}
    {find : Nat → String → String → Machine.Step MemberId} {missing : Failure} {isStatic : Bool}
    {id : MemberId} (class? : m.layout.class? d.className = some c)
    (lookup : find c op.member op.signature =
      Machine.findMember missing isStatic c op.member op.signature)
    (member? : m.layout.member? isStatic c op.member op.signature = some id)
    (h : Agree Machine.SameHeap (use c id) x) {m₀ : Machine} (heap : m.SameHeap m₀) :
    Same Machine.SameHeap (d.withMember (H := host) op find use m) (x m₀) := by
  apply (yields_classNamed class?).same_bracket
  · exact fun m => ⟨rfl, rfl, rfl⟩
  · intro m₁ heap₁
    have found : Yields (find c op.member op.signature) m₁ id := by
      rw [lookup]
      have member?₁ := heap₁.layout ▸ member?
      exact .of_eq (Machine.findMember_of_member? member?₁) ⟨rfl, rfl, rfl⟩
    apply found.mapError.same_bind
    exact fun m₂ heap₂ => h m₂ m₀ (heap₂.trans (heap₁.trans heap))

theorem Declares.named_eq {ε : Type} {kind : OperationKind} (declared : Declares d name kind op) :
    d.named (ε := ε) name = .ok op := by
  rw [Declaration.named, declared.named]

/-- Without a table a request comes to what is done with the member that a look-up finds, be it a
method or a field. -/
theorem same_uncachedMember {α δ : Type} {x : host.Request α} {kind : OperationKind}
    {use : δ → Nat → MemberId → host.Request α} {t : δ}
    {describe : Operation → Except (Fault host.Failure) δ}
    {find : Nat → String → String → Machine.Step MemberId} {missing : Failure} {isStatic : Bool}
    {id : MemberId} (declared : Declares d name kind op) (described : describe op = .ok t)
    (class? : m.layout.class? d.className = some c)
    (lookup : find c op.member op.signature =
      Machine.findMember missing isStatic c op.member op.signature)
    (member? : m.layout.member? isStatic c op.member op.signature = some id)
    (h : Agree Machine.SameHeap (use t c id) x) :
    Same Machine.SameHeap ((do
      let op ← Action.ofExcept (d.named name)
      let t ← Action.ofExcept (describe op)
      d.withMember op find (use t) : host.Request α) m) (x m) := by
  apply (yields_ofExcept declared.named_eq).same_bind
  intro m₁ heap₁
  apply (yields_ofExcept described).same_bind
  intro m₂ heap₂
  have heap := heap₂.trans heap₁
  exact same_withMember (heap.layout ▸ class?) lookup (heap.layout ▸ member?) h heap

/-- With and without a table, a request that passes the checks has the same answer and leaves the
same heap. -/
theorem Home.same_uncached {ask : Ask host} (home : Home d m.layout c b) (passes : Passes d m ask) :
    Same Machine.SameHeap (b.answer ask m) (d.uncached ask m) := by
  cases passes with
  | @call _ _ o args _ declared takes inst =>
    obtain ⟨id, t, parsed, member?, cached⟩ := home.comes_call declared takes inst
    have call : Agree Machine.SameHeap _ _ := (isCall_runMember o id args).agree_direct
    apply same_join cached
    refine same_uncachedMember declared (Operation.methodDescriptor_eq_ok parsed) home.class? rfl
      member? ?_
    exact call.bind fun _ => .pure
  | @callStatic _ args _ declared takes =>
    obtain ⟨id, t, parsed, member?, cached⟩ := home.comes_callStatic declared takes
    have call : Agree Machine.SameHeap _ _ := (isCall_runMember none id args).agree_direct
    apply same_join cached
    refine same_uncachedMember declared (Operation.methodDescriptor_eq_ok parsed) home.class? rfl
      member? ?_
    exact call.bind fun _ => .pure
  | @create _ args _ declared takes =>
    obtain ⟨id, t, parsed, member?, cached⟩ := home.comes_create declared takes
    have call : Agree Machine.SameHeap _ _ := (isCall_make id args).agree_direct
    apply same_join cached
    refine same_uncachedMember declared (Operation.methodDescriptor_eq_ok parsed) home.class? rfl
      member? ?_
    exact call.bind fun _ => .pure
  | @read _ _ o _ declared inst =>
    obtain ⟨id, t, parsed, member?, cached⟩ := home.comes_read declared inst
    have call : Agree Machine.SameHeap _ _ := (isCall_runMember o id []).agree_direct
    apply same_join cached
    refine same_uncachedMember declared (Operation.fieldDescriptor_eq_ok parsed) home.class? rfl
      member? ?_
    exact call.bind fun _ => .pure
  | @readStatic _ _ declared =>
    obtain ⟨id, t, parsed, member?, cached⟩ := home.comes_readStatic declared
    have call : Agree Machine.SameHeap _ _ := (isCall_runMember none id []).agree_direct
    apply same_join cached
    refine same_uncachedMember declared (Operation.fieldDescriptor_eq_ok parsed) home.class? rfl
      member? ?_
    exact call.bind fun _ => .pure
  | acquire =>
    apply same_join home.comes_acquire
    apply (yields_classNamed home.class?).same_bracket
    · exact fun m => ⟨rfl, rfl, rfl⟩
    · exact fun m' heap => ⟨rfl, heap⟩

end

end HandleCache.Counting

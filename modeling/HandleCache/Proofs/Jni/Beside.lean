import HandleCache.Proofs.Jni.Outstanding
import HandleCache.Proofs.Requests.Renaming

/-!
# Machines on which more references were made

References are numbered as they are made, and what was made before shows in the numbers of what is
made afterwards. It shows in nothing else: two machines that differ in references that nobody has
any more go on alike, whatever happens on them, but for the numbers.

## Contents

- `shift`: the number of a reference on the machine where more were made
- `Beside`: two machines of which one has more references
- `Likewise`: outcomes that are the same but for the numbers
- `Happening.shift`, `Happening.perform`: what happens, on the other machine and with its answer

## Main statements

- `Beside.findClass` and its siblings: functions do alike
- `mirrored_beside`: so do the requests of the host
- `Beside.perform`: and whatever else happens
-/

namespace HandleCache

theorem Value.map_zero {ρ σ : Type} {f : ρ → σ} {null : ρ} {null' : σ} (same : f null = null')
    (k : Kind) : (Value.zero null k).map f = Value.zero null' k := by
  cases k with
  | primitive p => cases p <;> rfl
  | reference => exact congrArg Value.reference same

namespace Jni

open HandleCache.Action

/-! ## Numbers -/

/-- A reference by its number on the machine where `k` more were made after the first `n`. -/
def shift (n k : Nat) (r : Reference) : Reference := r.map fun i => if i < n then i else i + k

/-- References that were made before are what they were. -/
theorem shift_of_lt {n i : Nat} (k : Nat) (old : i < n) : shift n k (some i) = some i := by
  simp [shift, old]

theorem shift_of_le {n i : Nat} (k : Nat) (new : n ≤ i) : shift n k (some i) = some (i + k) := by
  simp [shift, Nat.not_lt.mpr new]

theorem shift_injective (n k : Nat) {r r' : Reference} (same : shift n k r = shift n k r') :
    r = r' := by
  cases r with
  | none => cases r' <;> simp_all [shift]
  | some i =>
    cases r' with
    | none => simp [shift] at same
    | some j =>
      simp only [shift, Option.map_some, Option.some.injEq] at same ⊢
      split at same <;> split at same <;> omega

@[simp] theorem isNone_shift (n k : Nat) (r : Reference) : (shift n k r).isNone = r.isNone := by
  cases r <;> rfl

/-- A deletion is counted at the reference that is deleted. -/
theorem ReferenceTable.info?_delete (t : ReferenceTable) (r r' : Reference) :
    (t.delete r).info? r' = if r = r' then
      (t.info? r').map fun info => { info with deletions := info.deletions + 1 }
    else t.info? r' := by
  cases r' with
  | none => cases r <;> simp [info?]
  | some i =>
    by_cases same : r = some i
    · subst same
      simp [info?, delete, List.getElem?_modify]
    · rw [if_neg same]
      exact getElem?_delete_of_ne same

/-! ## Machines -/

/-- The machines are the same, but for `k` references that were made on the first one after `n`
others. -/
structure Beside (n k : Nat) (s t : Machine) : Prop where
  world : s.world = t.world
  exception : s.exception = t.exception
  queue : s.queue = t.queue
  journal : s.journal = t.journal
  /-- The same functions were called, and whenever one was the same was pending. -/
  calls : s.trace.map (fun e => (e.function, e.pending)) =
    t.trace.map fun e => (e.function, e.pending)
  before : n ≤ t.references.length
  length : s.references.length = t.references.length + k
  entry : ∀ r, s.references.info? (shift n k r) = t.references.info? r

/-- The one machine was answered what the other was, but for the numbers, and they are still the
same otherwise. -/
structure Likewise {α β : Type} (n k : Nat) (f : β → α) (p : α × Machine) (q : β × Machine) :
    Prop where
  answer : p.1 = f q.1
  beside : Beside n k p.2 q.2

variable {n k : Nat} {s t : Machine} {α β : Type}

theorem Beside.raise (h : Beside n k s t) (x : String) : Beside n k (s.raise x) (t.raise x) :=
  { h with exception := rfl }

theorem Beside.inWorld (h : Beside n k s t) (w : World) :
    Beside n k { s with world := w } { t with world := w } :=
  { h with world := rfl }

theorem Beside.note (h : Beside n k s t) (e : LogEntry) :
    Beside n k { s with journal := s.journal ++ [e] } { t with journal := t.journal ++ [e] } :=
  { h with journal := congrArg (· ++ [e]) h.journal }

/-! ## References -/

/-- A new reference has the next number on both. -/
theorem Beside.refer (h : Beside n k s t) (kind : ReferenceKind) (target : Target) :
    Likewise n k (shift n k) (s.refer kind target) (t.refer kind target) := by
  refine ⟨?_, { h with before := ?_, length := ?_, entry := fun r => ?_ }⟩
  · exact (congrArg some h.length).trans (shift_of_le k h.before).symm
  · exact Nat.le_trans h.before (by simp [Machine.refer, ReferenceTable.make])
  · simp [Machine.refer, ReferenceTable.make, h.length, Nat.add_right_comm]
  · cases r with
    | none => rfl
    | some i =>
      have same := h.entry (some i)
      have before := h.before
      have length := h.length
      simp only [Machine.refer, ReferenceTable.make, ReferenceTable.info?, Option.bind_some]
        at same ⊢
      by_cases old : i < n
      · rw [shift_of_lt k old] at same ⊢
        rwa [Option.bind_some, List.getElem?_append_left (by omega),
          List.getElem?_append_left (by omega)]
      · rw [shift_of_le k (Nat.not_lt.mp old)] at same ⊢
        rw [Option.bind_some, List.getElem?_append, List.getElem?_append, length,
          Nat.add_sub_add_right]
        by_cases inside : i < t.references.length
        · rw [if_pos inside, if_pos (Nat.add_lt_add_right inside k)]
          exact same
        · rw [if_neg inside, if_neg (by omega)]

theorem Beside.delete (h : Beside n k s t) (r : Reference) :
    Beside n k { s with references := s.references.delete (shift n k r) }
      { t with references := t.references.delete r } := by
  refine { h with before := by simpa using h.before, length := by simpa using h.length, entry := ?_ }
  intro r'
  dsimp only
  rw [ReferenceTable.info?_delete, ReferenceTable.info?_delete, h.entry]
  by_cases same : r = r'
  · rw [if_pos same, if_pos (congrArg (shift n k) same)]
  · rw [if_neg same, if_neg fun shifted => same (shift_injective n k shifted)]

theorem Beside.target? (h : Beside n k s t) (r : Reference) :
    s.target? (shift n k r) = t.target? r := by
  simp only [Machine.target?, h.entry, h.world]

theorem Beside.class? (h : Beside n k s t) (r : Reference) :
    s.class? (shift n k r) = t.class? r := by
  simp only [Machine.class?, h.target?]

theorem Beside.object? (h : Beside n k s t) (r : Reference) :
    s.object? (shift n k r) = t.object? r := by
  simp only [Machine.object?, h.target?]

theorem Beside.lower (h : Beside n k s t) (v : Value Reference) :
    s.lower (v.map (shift n k)) = t.lower v := by
  cases v with
  | reference r => exact congrArg Value.reference (h.object? r)
  | _ => rfl

theorem Beside.lowered (h : Beside n k s t) (args : List (Value Reference)) :
    (args.map (Value.map (shift n k))).map s.lower = args.map t.lower := by
  rw [List.map_map]
  exact List.map_congr_left fun v _ => h.lower v

/-! ## Calls -/

/-- The same befalls a function on both. -/
theorem Beside.enter (h : Beside n k s t) (f : Function) (operands operands' : List Operand) :
    ∃ struck s' t', s.enter f operands = (struck, s') ∧ t.enter f operands' = (struck, t') ∧
      Beside n k s' t' := by
  have entered (q : List (String × Fate)) : Beside n k
      { s with trace := s.trace ++ [⟨f, operands, s.exception.isSome⟩], queue := q }
      { t with trace := t.trace ++ [⟨f, operands', t.exception.isSome⟩], queue := q } :=
    { h with queue := rfl, calls := by simp [h.calls, h.exception] }
  unfold Machine.enter Machine.strike
  dsimp only
  rw [h.queue]
  split
  · exact ⟨_, _, _, rfl, rfl, entered _⟩
  · exact ⟨_, _, _, rfl, rfl, entered _⟩
  · exact ⟨_, _, _, rfl, rfl, entered _⟩
  · exact ⟨_, _, _, rfl, rfl, (entered _).raise _⟩

theorem Beside.referObject (h : Beside n k s t) (o : ObjectId) :
    Likewise n k (shift n k) (s.referObject o) (t.referObject o) := by
  cases o with
  | none => exact ⟨rfl, h⟩
  | some i => exact h.refer .local (.object i)

theorem Beside.findClass (h : Beside n k s t) (name : String) :
    Likewise n k (shift n k) (s.findClass name) (t.findClass name) := by
  obtain ⟨struck, s', t', hs, ht, beside⟩ := h.enter .findClass [.text name] [.text name]
  unfold Machine.findClass
  rw [hs, ht]
  cases struck with
  | true => exact ⟨rfl, beside⟩
  | false =>
    dsimp only
    rw [beside.world]
    cases t'.world.visibleClass? name with
    | none => exact ⟨rfl, beside.raise _⟩
    | some c =>
      unfold Machine.referClass
      rw [beside.world]
      exact beside.refer .local _

theorem Beside.getMember (h : Beside n k s t) (f : Function) (isStatic : Bool) (missing : String)
    (r : Reference) (name signature : String) :
    Likewise n k id (s.getMember f isStatic missing (shift n k r) name signature)
      (t.getMember f isStatic missing r name signature) := by
  obtain ⟨struck, s', t', hs, ht, beside⟩ :=
    h.enter f [.reference (shift n k r), .text name, .text signature]
      [.reference r, .text name, .text signature]
  unfold Machine.getMember
  rw [hs, ht]
  cases struck with
  | true => exact ⟨rfl, beside⟩
  | false =>
    dsimp only
    rw [beside.class?, beside.world]
    split
    · exact ⟨rfl, beside⟩
    · exact ⟨rfl, beside.raise _⟩

theorem Beside.zero (h : Beside n k s t) (kind : Kind) :
    Likewise n k (Value.map (shift n k)) (Value.zero none kind, s) (Value.zero none kind, t) := by
  have same : shift n k none = none := rfl
  exact ⟨(Value.map_zero same kind).symm, h⟩

theorem Beside.lift (h : Beside n k s t) (v : Value ObjectId) :
    Likewise n k (Value.map (shift n k)) (s.lift v) (t.lift v) := by
  cases v with
  | reference o =>
    obtain ⟨answer, beside⟩ := h.referObject o
    exact ⟨congrArg Value.reference answer, beside⟩
  | _ => exact ⟨rfl, h⟩

theorem Beside.runMember (h : Beside n k s t) (o : ObjectId) (id : MemberId)
    (args : List (Value Reference)) (kind : Kind) :
    Likewise n k (Value.map (shift n k))
      (s.runMember o id (args.map (Value.map (shift n k))) kind)
      (t.runMember o id args kind) := by
  unfold Machine.runMember
  rw [h.world, h.lowered]
  split
  · next v w _ => exact (h.inWorld w).lift v
  · exact ((h.inWorld _).raise _).zero kind

theorem Beside.callMethod (h : Beside n k s t) (o : Reference) (id : MemberId) (kind : Kind)
    (args : List (Value Reference)) :
    Likewise n k (Value.map (shift n k))
      (s.callMethod (shift n k o) id kind (args.map (Value.map (shift n k))))
      (t.callMethod o id kind args) := by
  obtain ⟨struck, s', t', hs, ht, beside⟩ := h.enter (.callMethod kind)
    [.reference (shift n k o), .member id, .arguments (args.map (Value.map (shift n k)))]
    [.reference o, .member id, .arguments args]
  unfold Machine.callMethod
  rw [hs, ht]
  cases struck with
  | true => exact beside.zero kind
  | false =>
    dsimp only
    rw [beside.object?]
    exact beside.runMember (t'.object? o) id args kind

theorem Beside.callStatic (h : Beside n k s t) (c : Reference) (id : MemberId) (kind : Kind)
    (args : List (Value Reference)) :
    Likewise n k (Value.map (shift n k))
      (s.callStatic (shift n k c) id kind (args.map (Value.map (shift n k))))
      (t.callStatic c id kind args) := by
  obtain ⟨struck, s', t', hs, ht, beside⟩ := h.enter (.callStaticMethod kind)
    [.reference (shift n k c), .member id, .arguments (args.map (Value.map (shift n k)))]
    [.reference c, .member id, .arguments args]
  unfold Machine.callStatic
  rw [hs, ht]
  cases struck with
  | true => exact beside.zero kind
  | false => exact beside.runMember none id args kind

theorem Beside.newObject (h : Beside n k s t) (c : Reference) (id : MemberId)
    (args : List (Value Reference)) :
    Likewise n k (shift n k)
      (s.newObject (shift n k c) id (args.map (Value.map (shift n k)))) (t.newObject c id args) := by
  obtain ⟨struck, s', t', hs, ht, beside⟩ := h.enter .newObject
    [.reference (shift n k c), .member id, .arguments (args.map (Value.map (shift n k)))]
    [.reference c, .member id, .arguments args]
  unfold Machine.newObject
  rw [hs, ht]
  cases struck with
  | true => exact ⟨rfl, beside⟩
  | false =>
    dsimp only
    rw [beside.class?, beside.world, beside.lowered]
    split
    · next o w _ => exact (beside.inWorld w).referObject o
    · exact ⟨rfl, (beside.inWorld _).raise _⟩

theorem Beside.getField (h : Beside n k s t) (o : Reference) (id : MemberId) (kind : Kind) :
    Likewise n k (Value.map (shift n k)) (s.getField (shift n k o) id kind)
      (t.getField o id kind) := by
  obtain ⟨struck, s', t', hs, ht, beside⟩ := h.enter (.getField kind)
    [.reference (shift n k o), .member id] [.reference o, .member id]
  unfold Machine.getField
  rw [hs, ht]
  cases struck with
  | true => exact beside.zero kind
  | false =>
    dsimp only
    rw [beside.object?]
    exact beside.runMember (t'.object? o) id [] kind

theorem Beside.getStaticField (h : Beside n k s t) (c : Reference) (id : MemberId) (kind : Kind) :
    Likewise n k (Value.map (shift n k)) (s.getStaticField (shift n k c) id kind)
      (t.getStaticField c id kind) := by
  obtain ⟨struck, s', t', hs, ht, beside⟩ := h.enter (.getStaticField kind)
    [.reference (shift n k c), .member id] [.reference c, .member id]
  unfold Machine.getStaticField
  rw [hs, ht]
  cases struck with
  | true => exact beside.zero kind
  | false => exact beside.runMember none id [] kind

theorem Beside.newReference (h : Beside n k s t) (kind : ReferenceKind) (r : Reference) :
    Likewise n k (shift n k) (s.newReference kind (shift n k r)) (t.newReference kind r) := by
  obtain ⟨struck, s', t', hs, ht, beside⟩ :=
    h.enter (Machine.maker kind) [.reference (shift n k r)] [.reference r]
  unfold Machine.newReference
  rw [hs, ht]
  cases struck with
  | true => exact ⟨rfl, beside⟩
  | false =>
    dsimp only
    rw [beside.target?, beside.world]
    split
    · exact beside.refer kind _
    · exact beside.refer kind _
    · exact ⟨rfl, beside⟩

theorem Beside.deleteReference (h : Beside n k s t) (kind : ReferenceKind) (r : Reference) :
    Beside n k (s.deleteReference kind (shift n k r)) (t.deleteReference kind r) := by
  obtain ⟨struck, s', t', hs, ht, beside⟩ :=
    h.enter (Machine.deleter kind) [.reference (shift n k r)] [.reference r]
  unfold Machine.deleteReference
  rw [hs, ht]
  exact beside.delete r

theorem Beside.isInstanceOf (h : Beside n k s t) (o c : Reference) :
    Likewise n k id (s.isInstanceOf (shift n k o) (shift n k c)) (t.isInstanceOf o c) := by
  obtain ⟨struck, s', t', hs, ht, beside⟩ := h.enter .isInstanceOf
    [.reference (shift n k o), .reference (shift n k c)] [.reference o, .reference c]
  unfold Machine.isInstanceOf
  rw [hs, ht]
  cases struck with
  | true => exact ⟨rfl, beside⟩
  | false =>
    dsimp only
    rw [beside.class?, beside.object?, beside.world]
    split
    · exact ⟨rfl, beside⟩
    · exact ⟨rfl, beside⟩

theorem Beside.exceptionClear (h : Beside n k s t) :
    Beside n k s.exceptionClear t.exceptionClear := by
  obtain ⟨struck, s', t', hs, ht, beside⟩ := h.enter .exceptionClear [] []
  unfold Machine.exceptionClear
  rw [hs, ht]
  exact { beside with exception := rfl }

theorem Beside.hasVirtualMachine (h : Beside n k s t) :
    Likewise n k id s.hasVirtualMachine t.hasVirtualMachine := by
  unfold Machine.hasVirtualMachine Machine.strike
  dsimp only
  rw [h.queue, h.exception]
  split
  · exact ⟨rfl, { h with queue := rfl, exception := rfl }⟩
  · exact ⟨rfl, { h with queue := rfl, exception := rfl }⟩
  · exact ⟨rfl, { h with queue := rfl, exception := rfl }⟩
  · exact ⟨rfl, { h with queue := rfl, exception := rfl }⟩

/-! ## How functions are called -/

section

variable {f : β → α} {x : Machine → α × Machine} {y : Machine → β × Machine}

theorem mirrors_unchecked (alike : ∀ s t, Beside n k s t → Likewise n k f (x s) (y t)) :
    Mirrors (Beside n k) f (unchecked x) (unchecked y) :=
  .query fun s t h => ⟨(alike s t h).answer, (alike s t h).beside⟩

/-- The answer is lost on both machines or on none. -/
theorem mirrors_checked (alike : ∀ s t, Beside n k s t → Likewise n k f (x s) (y t)) :
    Mirrors (Beside n k) f (checked x) (checked y) := by
  intro s t h
  obtain ⟨answer, beside⟩ := alike s t h
  unfold checked
  rw [beside.exception]
  split
  · exact ⟨rfl, beside⟩
  · exact ⟨congrArg Except.ok answer, beside⟩

theorem mirrors_nonNull {x : Machine → Option α × Machine} {y : Machine → Option β × Machine}
    {failure : Failure} (alike : ∀ s t, Beside n k s t → Likewise n k (Option.map f) (x s) (y t)) :
    Mirrors (Beside n k) f (nonNull failure x) (nonNull failure y) := by
  refine (mirrors_checked alike).bind fun found => ?_
  cases found with
  | none => exact .fail
  | some b => exact .pure

theorem mirrors_lookup {x : Step α} {y : Step β} {name signature : String}
    (alike : Mirrors (Beside n k) f x y) :
    Mirrors (Beside n k) f (lookup name signature x) (lookup name signature y) := by
  intro s t h
  obtain ⟨answer, beside⟩ := alike s t h
  unfold lookup
  cases hx : x s with
  | mk a s' =>
    cases hy : y t with
    | mk b t' =>
      rw [hx, hy] at answer beside
      dsimp only at answer
      subst answer
      cases b with
      | ok v => exact ⟨rfl, beside⟩
      | error e => exact ⟨rfl, (beside.note _).exceptionClear⟩

theorem mirrors_readAs {kind : Kind} {x y : Machine → Value Reference × Machine}
    (alike : ∀ s t, Beside n k s t → Likewise n k (Value.map (shift n k)) (x s) (y t)) :
    Mirrors (Beside n k) (Value.map (shift n k)) (readAs kind x) (readAs kind y) := by
  cases kind with
  | reference => exact mirrors_checked alike
  | primitive p => exact mirrors_unchecked alike

theorem mirrors_requireVirtualMachine :
    Mirrors (Beside n k) id requireVirtualMachine requireVirtualMachine := by
  refine Mirrors.bind (f := id) (.query fun s t h => ?_) fun had => ?_
  · exact ⟨h.hasVirtualMachine.answer, h.hasVirtualMachine.beside⟩
  · cases had with
    | true => exact .pure (b := ())
    | false => exact .fail

/-- A reference that is answered unless it is null. -/
theorem Likewise.someReference {x y : Machine → Reference × Machine}
    (alike : Likewise n k (shift n k) (x s) (y t)) :
    Likewise n k (Option.map (shift n k)) (someReference x s) (someReference y t) := by
  refine ⟨?_, alike.beside⟩
  unfold Jni.someReference
  rw [alike.answer]
  cases (y t).1 <;> rfl

end

/-! ## Requests -/

theorem mirrors_findMethod (isStatic : Bool) (c : Reference) (name signature : String) :
    Mirrors (Beside n k) id (findMethod isStatic (shift n k c) name signature)
      (findMethod isStatic c name signature) :=
  mirrors_lookup (mirrors_nonNull fun s t h => by
    have alike := h.getMember (if isStatic then .getStaticMethodId else .getMethodId) isStatic
      "NoSuchMethodError" c name signature
    exact ⟨alike.answer.trans (by simp), alike.beside⟩)

theorem mirrors_findField (isStatic : Bool) (c : Reference) (name signature : String) :
    Mirrors (Beside n k) id (findField isStatic (shift n k c) name signature)
      (findField isStatic c name signature) :=
  mirrors_lookup (mirrors_nonNull fun s t h => by
    have alike := h.getMember (if isStatic then .getStaticFieldId else .getFieldId) isStatic
      "NoSuchFieldError" c name signature
    exact ⟨alike.answer.trans (by simp), alike.beside⟩)

theorem mirrors_makeGlobal (r : Reference) :
    Mirrors (Beside n k) (shift n k) (makeGlobal (shift n k r)) (makeGlobal r) :=
  mirrors_requireVirtualMachine.bind fun _ =>
    mirrors_unchecked fun _ _ h => h.newReference .global r

theorem mirrors_makeWeak (r : Reference) :
    Mirrors (Beside n k) (shift n k) (makeWeak (shift n k r)) (makeWeak r) := by
  refine mirrors_requireVirtualMachine.bind fun _ => ?_
  cases r with
  | none => exact .fail
  | some i => exact mirrors_nonNull fun _ _ h => (h.newReference .weak (some i)).someReference

/-- All that the host hands out by other numbers. -/
def shifting (n k : Nat) : host.Renaming where
  classRef := shift n k
  object := shift n k
  argument := Value.map (shift n k)
  value := Value.map (shift n k)
  pin := shift n k
  weak := shift n k

theorem accepts_map (f : Reference → Reference) (p : TypeDescriptor) (v : Value Reference) :
    accepts p (v.map f) = accepts p v := by
  cases p with
  | primitive p => cases p <;> simp [accepts]
  | object => simp [accepts]
  | array => simp [accepts]

/-- The host does not tell the machines apart but by the numbers. -/
theorem mirrored_beside (n k : Nat) : host.Mirrored (shifting n k) (Beside n k) where
  findClass name := mirrors_lookup (mirrors_nonNull fun _ _ h => (h.findClass name).someReference)
  findMethod := mirrors_findMethod false
  findStaticMethod := mirrors_findMethod true
  findField := mirrors_findField false
  findStaticField := mirrors_findField true
  callMethod o id _ args := mirrors_checked fun _ _ h => h.callMethod o id _ args
  callStatic c id _ args := mirrors_checked fun _ _ h => h.callStatic c id _ args
  newObject c id _ args := mirrors_nonNull fun _ _ h => (h.newObject c id args).someReference
  readField o id _ := mirrors_readAs fun _ _ h => h.getField o id _
  readStatic c id _ := mirrors_readAs fun _ _ h => h.getStaticField c id _
  releaseClass c _ _ h := h.deleteReference .local c
  pin := mirrors_makeGlobal
  weaken := mirrors_makeWeak
  classOfPin p := mirrors_unchecked fun _ _ h => h.newReference .local p
  classOfWeak w := mirrors_unchecked fun _ _ h => (h.newReference .local w).someReference
  dropPin p _ _ h := h.deleteReference .global p
  dropWeak w _ _ h := h.deleteReference .weak w
  isNull o _ _ h := ⟨isNone_shift n k o, h⟩
  isInstance o c := mirrors_unchecked fun _ _ h => h.isInstanceOf o c
  accepts p v _ _ h := ⟨accepts_map _ p v, h⟩
  note e _ _ h := h.note e

/-! ## Whatever happens -/

theorem mirrors_holdGlobally (o : Reference) :
    Mirrors (Beside n k) (shift n k) (holdGlobally (shift n k o)) (holdGlobally o) :=
  (mirrors_makeGlobal o).mapError

theorem mirrors_wrap (b : Binding host) (o : Reference) :
    Mirrors (Beside n k) (shift n k) (wrap (b.rename (shifting n k)) (shift n k o)) (wrap b o) := by
  unfold wrap
  rw [isNone_shift]
  split
  · exact .fail
  · exact ((mirrored_beside n k).requireInstance b o).bind fun _ => mirrors_holdGlobally o

theorem mirrors_wrapNew (b : Binding host) (name : String) (args : List (Value Reference)) :
    Mirrors (Beside n k) (shift n k)
      (wrapNew (b.rename (shifting n k)) name (args.map (Value.map (shift n k))))
      (wrapNew b name args) :=
  ((mirrored_beside n k).create b name args).bracket
    (fun o _ _ h => h.deleteReference .local o) mirrors_holdGlobally

/-- What comes of what happens. -/
inductive Yield where
  | binding (b : Binding host)
  | reply (r : Reply host)

/-- The same by other numbers. -/
def Yield.rename (N : host.Renaming) : Yield → Yield
  | .binding b => .binding (b.rename N)
  | .reply r => .reply (r.rename N)

namespace Happening

/-- What happens, with what comes of it. -/
def perform : Happening → host.Request Yield
  | .resolve d => do return .binding (← Binding.resolve host d)
  | .ask b a => do return .reply (← b.answer a)
  | .wrap b o => do return .reply (.object (← Jni.wrap b o))
  | .wrapNew b name args => do return .reply (.object (← Jni.wrapNew b name args))
  | h => Action.query fun m => (.reply .nothing, m.afterOne h)

/-- The same by other numbers. -/
def rename (N : host.Renaming) : Happening → Happening
  | .resolve d => .resolve d
  | .ask b a => .ask (b.rename N) (a.rename N)
  | .wrap b o => .wrap (b.rename N) (N.object o)
  | .wrapNew b name args => .wrapNew (b.rename N) name (args.map N.argument)
  | .release b => .release (b.rename N)
  | .delete kind r => .delete kind (N.object r)
  | .change c => .change c
  | .rig f fate => .rig f fate
  | .clear => .clear

/-- What happens leaves the machine that it is said to leave. -/
theorem state_perform (h : Happening) (m : Machine) : (h.perform m).2 = m.afterOne h := by
  cases h with
  | resolve d => exact state_reply (Binding.resolve host d) m
  | ask b a => exact state_reply (b.answer a) m
  | wrap b o => exact state_reply (Jni.wrap b o) m
  | wrapNew b name args => exact state_reply (Jni.wrapNew b name args) m
  | _ => rfl

end Happening

/-- Whatever happens comes to the same on both machines. -/
theorem mirrors_perform (h : Happening) :
    Mirrors (Beside n k) (Yield.rename (shifting n k)) (h.rename (shifting n k)).perform
      h.perform := by
  have M := mirrored_beside n k
  have changed {c d : Machine → Machine} (alike : ∀ s t, Beside n k s t → Beside n k (c s) (d t)) :
      Mirrors (Beside n k) (Yield.rename (shifting n k))
        (Action.query fun m => (Yield.reply .nothing, c m) : host.Request Yield)
        (Action.query fun m => (Yield.reply .nothing, d m) : host.Request Yield) :=
    .query fun s t h => ⟨rfl, alike s t h⟩
  cases h with
  | resolve d => exact (M.resolve d).bind fun b => .pure (b := Yield.binding b)
  | ask b a => exact (M.answer b a).bind fun r => .pure (b := Yield.reply r)
  | wrap b o => exact (mirrors_wrap b o).bind fun g => .pure (b := Yield.reply (.object g))
  | wrapNew b name args =>
    exact (mirrors_wrapNew b name args).bind fun g => .pure (b := Yield.reply (.object g))
  | release b => exact changed fun _ _ h => M.release b h
  | delete kind r => exact changed fun _ _ h => h.deleteReference kind r
  | change c => exact changed fun _ _ h => { h with world := congrArg (·.apply c) h.world }
  | rig f fate => exact changed fun _ _ h => { h with queue := congrArg (· ++ [(f, fate)]) h.queue }
  | clear => exact changed fun _ _ h => { h with exception := rfl }

/-- And so does a run of it. -/
theorem Beside.after (h : Beside n k s t) (run : List Happening) :
    Beside n k (s.after (run.map (Happening.rename (shifting n k)))) (t.after run) := by
  induction run generalizing s t with
  | nil => exact h
  | cons first rest ih =>
    have once := (mirrors_perform first s t h).2
    rw [Happening.state_perform, Happening.state_perform] at once
    exact ih once

end Jni

end HandleCache

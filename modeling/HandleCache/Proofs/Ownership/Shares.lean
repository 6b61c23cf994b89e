import HandleCache.Proofs.Jni.Recent
import HandleCache.Proofs.Ownership.Upkeep
import HandleCache.Proofs.Ownership.Workspace
import HandleCache.Script.Jni

/-!
# Shares in the course of a step

A global reference that was made for a wrapped object is a share. Copies of the object hold it, and
so does whoever takes it out of one. What the table of references says of the shares is kept by all
steps of scripts: a share is a reference of its own, which no request deletes and no binding keeps,
since what a request deletes it has made itself, and what a binding keeps was made when it was
resolved.

## Contents

- `Accounted`: what the table of references says of the shares
- `InStep`, `InStepWith`: a workspace in the course of a step

## Main statements

- `upkeep_accounted`: requests and resolutions keep the account
- `keeps_feature`: so do the steps that only scripts on the native interface can take
-/

namespace HandleCache.Jni

open HandleCache.Action Script

/-! ## Accounts -/

/-- What the table of references says of the shares: each was made as a global reference of its own,
and is deleted once if it is counted among the deleted ones, and not otherwise. What is held is not
deleted. The shares `since` were there before. -/
structure Accounted (since : List Reference) (m : Machine) (bs : List (Binding host)) (x : Holdings) :
    Prop where
  since : since <+: x.shares
  counted : ∀ s i, x.reference s = some i →
    ∃ target, m.references[i]? = some ⟨.global, target, if s ∈ x.deleted then 1 else 0⟩
  distinct : ∀ s s' i, x.reference s = some i → x.reference s' = some i → s = s'
  earlier : ∀ s ∈ x.deleted, s < x.shares.length
  held : ∀ s, x.holdsShare s = true → s < x.shares.length ∧ s ∉ x.deleted
  /-- What bindings keep is something else. -/
  kept : ∀ b ∈ bs, ∀ i, keptReference b.retained = some i →
    i < m.references.length ∧ ∀ s, x.reference s ≠ some i

section

variable {since : List Reference} {m t : Machine} {bs : List (Binding host)} {x : Holdings}
  {s : ShareId} {r : Reference}

theorem accounted_start (m : Machine) : Accounted [] m [] {} where
  since := List.prefix_rfl
  counted := nofun
  distinct := nofun
  earlier := nofun
  held := nofun
  kept := nofun

theorem Holdings.lt_of_reference {i : Nat} (h : x.reference s = some i) : s < x.shares.length := by
  obtain ⟨r, there, rfl⟩ := Option.bind_eq_some_iff.mp h
  exact (List.getElem?_eq_some_iff.mp there).1

theorem Accounted.lt_of_reference (h : Accounted since m bs x) {i : Nat}
    (is : x.reference s = some i) : i < m.references.length := by
  obtain ⟨target, made⟩ := h.counted s i is
  exact (List.getElem?_eq_some_iff.mp made).1

/-- Whatever happens to later references. -/
theorem Accounted.later (h : Accounted since m bs x) (old : m.references <+: t.references) :
    Accounted since t bs x where
  since := h.since
  counted s i is := by
    obtain ⟨target, made⟩ := h.counted s i is
    exact ⟨target, getElem?_of_prefix old made⟩
  distinct := h.distinct
  earlier := h.earlier
  held := h.held
  kept b there i is :=
    ⟨Nat.lt_of_lt_of_le (h.kept b there i is).1 old.length_le, (h.kept b there i is).2⟩

/-- A new binding keeps what was made for it, if it keeps anything. -/
theorem Accounted.bind (h : Accounted since m bs x) {b : Binding host}
    (untouched : Untouched m.references none t)
    (recent : Recent m.references (keptReference b.retained) t) :
    Accounted since t (bs ++ [b]) x := by
  have later := h.later untouched.old
  refine ⟨h.since, later.counted, h.distinct, h.earlier, h.held, fun b' there i is => ?_⟩
  rcases List.mem_append.mp there with old | new
  · exact later.kept b' old i is
  · rw [List.mem_singleton.mp new] at is
    obtain ⟨after, inside⟩ := recent i is
    exact ⟨inside, fun s same => Nat.not_lt.mpr after (h.lt_of_reference same)⟩

/-- Less may be held. -/
theorem Accounted.heldBy (h : Accounted since m bs x) {wrapped : Variables WrappedObject}
    {globals : Variables ShareId}
    (fewer : ∀ s, Holdings.holdsShare { x with wrapped, globals } s = true →
      s < x.shares.length ∧ s ∉ x.deleted) :
    Accounted since m bs { x with wrapped, globals } :=
  { h with held := fewer }

theorem reference_share (x : Holdings) (r : Reference) (s : ShareId) :
    (x.share r).2.reference s = if s = x.shares.length then r else x.reference s := by
  unfold Holdings.reference Holdings.share
  dsimp only
  rw [List.getElem?_append]
  split
  · next old => simp [Nat.ne_of_lt old]
  · next new =>
    by_cases same : s = x.shares.length
    · simp [same]
    · have beyond : x.shares.length < s := Nat.lt_of_le_of_ne (Nat.not_lt.mp new) (Ne.symm same)
      have none : x.shares[s]? = none := List.getElem?_eq_none (Nat.le_of_lt beyond)
      simp [same, none, Nat.sub_ne_zero_of_lt beyond]

/-- A reference that holds an object is a new share. -/
theorem Accounted.share (h : Accounted since m bs x) (untouched : Untouched m.references none t)
    (holder : Holder m.references r t) : Accounted since t bs (x.share r).2 := by
  have later := h.later untouched.old
  have fresh : x.shares.length ∉ x.deleted := fun old => Nat.lt_irrefl _ (h.earlier _ old)
  have apart {s i : Nat} (is : x.reference s = some i) : r ≠ some i := fun same =>
    Nat.not_lt.mpr (holder i same).1 (h.lt_of_reference is)
  refine ⟨h.since.trans (List.prefix_append _ _), fun s i is => ?_, fun s s' i is is' => ?_,
    fun s gone => ?_, fun s held => ?_, fun b there i is => ⟨(later.kept b there i is).1, ?_⟩⟩
  · rw [reference_share] at is
    split at is
    · next new =>
      obtain ⟨-, target, made⟩ := holder i is
      refine ⟨target, ?_⟩
      rw [new]
      simpa [Holdings.share, fresh] using made
    · exact later.counted s i is
  · rw [reference_share] at is is'
    split at is <;> split at is'
    · next new new' => rw [new, new']
    · exact absurd is (apart is')
    · exact absurd is' (apart is)
    · exact h.distinct s s' i is is'
  · exact Nat.lt_of_lt_of_le (h.earlier s gone) (by simp [Holdings.share])
  · obtain ⟨inside, kept⟩ := h.held s held
    exact ⟨Nat.lt_of_lt_of_le inside (by simp [Holdings.share]), kept⟩
  · intro s same
    rw [reference_share] at same
    split at same
    · exact Nat.not_lt.mpr (holder i same).1 (h.kept b there i is).1
    · exact (h.kept b there i is).2 s same

/-! ## Steps -/

theorem upkeep_accounted (since : List Reference) : Upkeep (H := host) (Accounted since) where
  requests {m bs x} h := ⟨Untouched m.references, discipline_untouched m.references, .start m,
    fun _ untouched => h.later untouched.old⟩
  resolve d bs x := by
    intro m h
    have after := meets_resolve_recent d m (.start m)
    cases run : Binding.resolve host d m with
    | mk answer t =>
      rw [run] at after
      cases answer with
      | ok b => exact h.bind after.1 after.2
      | error fault => exact h.later after.old

/-- The workspace in the course of a step. -/
abbrev InStep (since : List Reference) : Workspace host Holdings → Prop := Kept (Accounted since)

/-- The share may be held: it is there, and was not deleted. -/
def Holdings.Open (x : Holdings) (s : ShareId) : Prop := s < x.shares.length ∧ s ∉ x.deleted

theorem holdsShare_iff : x.holdsShare s = true ↔
    (∃ v ∈ x.wrapped, v.2.share = s) ∨ ∃ v ∈ x.globals, v.2 = s := by
  simp [Holdings.holdsShare, Variables.any]

theorem Accounted.keep (h : Accounted since m bs x) (name : String) {w : WrappedObject}
    (may : x.Open w.share) : Accounted since m bs (x.keep name w) := by
  refine h.heldBy fun s held => ?_
  rcases holdsShare_iff.mp held with ⟨v, there, rfl⟩ | other
  · rcases Variables.mem_put there with new | old
    · rwa [new]
    · exact h.held _ (holdsShare_iff.mpr (.inl ⟨v, old, rfl⟩))
  · exact h.held _ (holdsShare_iff.mpr (.inr other))

theorem Accounted.keepShare (h : Accounted since m bs x) (name : String) (may : x.Open s) :
    Accounted since m bs (x.keepShare name s) := by
  refine h.heldBy fun s held => ?_
  rcases holdsShare_iff.mp held with other | ⟨v, there, rfl⟩
  · exact h.held _ (holdsShare_iff.mpr (.inl other))
  · rcases Variables.mem_put there with new | old
    · rwa [new]
    · exact h.held _ (holdsShare_iff.mpr (.inr ⟨v, old, rfl⟩))

theorem Accounted.forget (h : Accounted since m bs x) (name : String) :
    Accounted since m bs (x.forget name) := by
  refine h.heldBy fun s held => ?_
  rcases holdsShare_iff.mp held with ⟨v, there, rfl⟩ | other
  · exact h.held _ (holdsShare_iff.mpr (.inl ⟨v, Variables.mem_of_mem_erase there, rfl⟩))
  · exact h.held _ (holdsShare_iff.mpr (.inr other))

theorem Accounted.forgetShare (h : Accounted since m bs x) (name : String) :
    Accounted since m bs { x with globals := x.globals.erase name } := by
  refine h.heldBy fun s held => ?_
  rcases holdsShare_iff.mp held with other | ⟨v, there, rfl⟩
  · exact h.held _ (holdsShare_iff.mpr (.inl other))
  · exact h.held _ (holdsShare_iff.mpr (.inr ⟨v, Variables.mem_of_mem_erase there, rfl⟩))

/-- The workspace in the course of a step, with a share that may be held. -/
def InStepWith (since : List Reference) (s : ShareId) (ws : Workspace host Holdings) : Prop :=
  InStep since ws ∧ ws.extra.Open s

theorem meets_givenOpen {α : Type} (entry : Given α) :
    Meets (InStepWith since s) (Work.given (H := host) (ξ := Holdings) entry)
      (fun _ => InStepWith since s) fun _ => InStep since := by
  cases entry with
  | ok a => exact fun _ known => known
  | error refusal => exact fun _ known => known.1

theorem meets_referenceOf (w : WrappedObject) :
    Meets (InStepWith since s) (referenceOf w) (fun _ => InStepWith since s)
      fun _ => InStep since :=
  .query fun _ known => known

theorem keeps_onMachine {f : Machine → Machine} (same : ∀ m, (f m).references = m.references) :
    Keeps (InStep since) (onMachine f) :=
  .query fun ws (kept : Accounted since ws.store.host ws.store.bindings ws.extra) =>
    kept.later (same ws.store.host ▸ List.prefix_rfl)

/-- A wrapped object holds a share that may be held. -/
theorem meets_wrappedObject (name : Given String) :
    Meets (InStep since) (wrappedObject name) (fun w => InStepWith since w.share)
      fun _ => InStep since := by
  refine (keeps_given name).bind fun name ws kept => ?_
  unfold Work.valueNamed
  cases found : ws.extra.wrapped.get? name with
  | none => exact kept
  | some w =>
    obtain ⟨v, there, rfl⟩ := Variables.exists_of_get? found
    exact ⟨kept, kept.held _ (holdsShare_iff.mpr (.inl ⟨v, there, rfl⟩))⟩

/-- A reference that holds an object is kept by a variable, or by nothing if there is none. -/
theorem meets_keepWrapped (keep : Given String) (b : BindingId) (r : Reference) :
    Meets (fun ws => InStep since ws ∧
        Accounted since ws.store.host ws.store.bindings (ws.extra.share r).2)
      (Feature.keepWrapped keep b r) (fun _ => InStep since) fun _ => InStep since := by
  refine Meets.bind (F := InStepWith since) (.query ?_) fun s => ?_
  · rintro ws ⟨kept, shared⟩
    exact ⟨shared, by simp [Holdings.share], fun old => Nat.lt_irrefl _ (kept.earlier _ old)⟩
  · refine (meets_givenOpen keep).bind fun name => ?_
    exact Meets.bind (F := fun _ => InStep since)
      (fun ws known => Accounted.keep known.1 name known.2) fun _ => keeps_gets _

/-- What is wrapped is a share, if it is wrapped. -/
theorem meets_wrapping {y : host.Request Reference}
    (held : ∀ base, Meets (Untouched base none) y
      (fun g s => Untouched base none s ∧ Holder base g s) fun _ => Untouched base none) :
    Meets (InStep since) (Work.onHost y) (fun g ws => InStep since ws ∧
      Accounted since ws.store.host ws.store.bindings (ws.extra.share g).2) fun _ => InStep since := by
  refine meets_onHost fun ws kept => (held ws.store.host.references).conseq ?_ ?_ ?_
  · rintro _ rfl
    exact .start _
  · exact fun g t after => ⟨kept.later after.1.old, kept.share after.1 after.2⟩
  · exact fun _ t after => kept.later after.old

theorem keeps_referenceToWrap (globalName objectName : Option String) :
    Keeps (InStep since) (referenceToWrap globalName objectName) := by
  refine keeps_of_same fun ws => ?_
  unfold referenceToWrap
  split <;> rfl

theorem keeps_feature (f : Feature) : Keeps (InStep since) f.perform := by
  have upkeep := upkeep_accounted since
  cases f with
  | change c =>
    unfold Feature.perform
    exact keeps_onMachine fun _ => rfl
  | rig f fate =>
    unfold Feature.perform
    exact keeps_onMachine fun _ => rfl
  | clear =>
    unfold Feature.perform
    exact keeps_onMachine fun _ => rfl
  | wrap binding globalName objectName keep =>
    refine (keeps_valueOf _ _ binding).bind fun id => (keeps_bindingOf id).bind fun b => ?_
    refine (keeps_referenceToWrap globalName objectName).bind fun o => ?_
    exact (meets_wrapping fun base => meets_wrap_holder b o).bind fun g =>
      meets_keepWrapped keep id g
  | wrapNew binding operation arguments keep =>
    refine (keeps_valueOf _ _ binding).bind fun id => (keeps_bindingOf id).bind fun b => ?_
    refine (keeps_given operation).bind fun name => (keeps_arguments arguments).bind fun args => ?_
    exact (meets_wrapping fun base => meets_wrapNew_holder b name args).bind fun g =>
      meets_keepWrapped keep id g
  | callWrapped name operation arguments keep =>
    refine (keeps_valueOf _ _ name).bind fun w => (keeps_given operation).bind fun op => ?_
    refine (keeps_arguments arguments).bind fun args => (keeps_bindingOf _).bind fun b => ?_
    refine (keeps_gets _).bind fun o => ?_
    exact (upkeep.keeps_asked (b := b) (.call true op o args) rfl).bind fun v =>
      keeps_answerValue keep v
  | readWrapped name operation keep =>
    refine (keeps_valueOf _ _ name).bind fun w => (keeps_given operation).bind fun op => ?_
    refine (keeps_bindingOf _).bind fun b => (keeps_gets _).bind fun o => ?_
    exact (upkeep.keeps_asked (b := b) (.read true op o) rfl).bind fun v =>
      keeps_answerValue keep v
  | describeWrapped name =>
    refine (keeps_valueOf _ _ name).bind fun w => (keeps_bindingOf _).bind fun b => ?_
    exact (keeps_gets _).bind fun o => keeps_gets _
  | copyWrapped name keep =>
    refine (meets_wrappedObject name).bind fun w => ?_
    refine (meets_givenOpen keep).bind fun keep => ?_
    exact Meets.bind (F := fun _ => InStep since)
      (fun ws known => Accounted.keep known.1 keep known.2) fun _ => .pure fun _ kept => kept
  | takeOut name keep =>
    refine (meets_wrappedObject name).bind fun w => (meets_referenceOf w).bind fun o => ?_
    refine (meets_givenOpen name).bind fun name => ?_
    refine Meets.bind (F := fun _ => InStepWith since w.share) ?_ fun _ => ?_
    · exact fun ws known => ⟨Accounted.forget known.1 name, known.2⟩
    · refine (meets_givenOpen keep).bind fun keep => ?_
      exact Meets.bind (F := fun _ => InStep since)
        (fun ws known => Accounted.keepShare known.1 keep known.2) fun _ => keeps_gets _
  | dropWrapped name =>
    unfold Feature.perform
    exact keeps_forget fun ws (kept : Accounted since _ _ _) => kept.forget name
  | dropGlobal name =>
    unfold Feature.perform
    exact keeps_forget fun ws (kept : Accounted since _ _ _) => kept.forgetShare name
  | classType name =>
    unfold Feature.perform
    dsimp only
    cases ClassType.named? name with
    | none => exact .fail fun _ kept => kept
    | some t =>
      refine (keeps_gets _).bind fun visible => ?_
      split
      · exact .fail fun _ kept => kept
      · refine Meets.bind (F := fun _ => InStep since) (.query fun _ kept => kept) fun l => ?_
        exact (keeps_onStore (upkeep.keeps_fill l.cell l.declaration)).bind fun b =>
          keeps_answerBinding none b

end

end HandleCache.Jni

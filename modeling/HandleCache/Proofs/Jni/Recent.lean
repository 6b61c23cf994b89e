import HandleCache.Proofs.Jni.Outstanding

/-!
# References that requests make and turns delete

A request deletes nothing but what it has made itself. So what a new binding keeps of its class is a
reference that was made since, and so is the global reference that a wrapped object is held by, which
is not deleted. From then on it is deleted as often as this happens from outside: when the program
deletes it, or a binding that keeps it is released.

## Contents

- `keptReference`: the reference that a binding keeps
- `Recent`, `Holder`: references that were made since, and among them those that hold an object
- `Turn.deletes`: the reference that a turn deletes

## Main statements

- `meets_wrap_holder`, `meets_wrapNew_holder`: an object that is wrapped is held by a new reference
- `Machine.prefix_takeTurn`: what a turn leaves of the references that were there
- `Machine.info?_takeTurns`: how often a reference is deleted in a run of turns
-/

namespace HandleCache.Jni

open HandleCache.Action

/-! ## What requests make -/

/-- The reference that a binding keeps, null if it keeps none. -/
def keptReference : Retained host → Reference
  | .nothing => none
  | .weakly w => w
  | .pinned p => p

/-- The reference is null, or was made since the table was `base`. -/
def Recent (base : ReferenceTable) (r : Reference) (m : Machine) : Prop :=
  ∀ i, r = some i → base.length ≤ i ∧ i < m.references.length

/-- The reference is null, or a global one that was made since the table was `base` and is not
deleted. -/
def Holder (base : ReferenceTable) (g : Reference) (m : Machine) : Prop :=
  ∀ i, g = some i → base.length ≤ i ∧ ∃ target, m.references[i]? = some ⟨.global, target, 0⟩

section

variable {base : ReferenceTable} {out : Option Reference} {m t : Machine} {kind : ReferenceKind}
  {r : Reference}

theorem Recent.null (base : ReferenceTable) (m : Machine) : Recent base none m := nofun

theorem Untouched.recent (h : Untouched base out m) (made : m.Makes kind r t) :
    Recent base r t := by
  rintro i rfl
  cases made with
  | one target references =>
    rw [references]
    exact ⟨h.old.length_le, by simp⟩

theorem Untouched.holder (h : Untouched base out m) (made : m.Makes .global r t) :
    Holder base r t := by
  rintro i rfl
  cases made with
  | one target references =>
    rw [references]
    exact ⟨h.old.length_le, target, by simp⟩

theorem Recent.drop (h : Recent base r m) (c : Reference) : Recent base r (dropLocal c m) := by
  intro i same
  have length : (dropLocal c m).references.length = m.references.length := by
    rw [dropLocal, m.references_deleteReference, ReferenceTable.length_delete]
  rw [length]
  exact h i same

/-- An earlier reference is dropped. -/
theorem Holder.drop {g : Reference} (h : Holder base g m)
    (earlier : ∀ i j, g = some i → r = some j → j < i) : Holder base g (dropLocal r m) := by
  intro i same
  obtain ⟨new, target, made⟩ := h i same
  refine ⟨new, target, ?_⟩
  rw [dropLocal, m.references_deleteReference, ReferenceTable.getElem?_delete_of_ne]
  · exact made
  · exact fun dropped => Nat.lt_irrefl i (earlier i i same dropped)

/-- What such a reference was made for, it is to without having been deleted. -/
theorem Holder.info?_eq {g : Reference} {target : Target} (h : Holder base g m)
    (made : m.Refers g kind target) : m.references.info? g = some ⟨.global, target, 0⟩ := by
  obtain ⟨n, there⟩ := made
  cases g with
  | none => cases there
  | some i =>
    obtain ⟨-, _, live⟩ := h i rfl
    cases live.symm.trans there
    exact live

theorem meets_makeGlobal_recent (r : Reference) :
    Meets (Untouched base out) (makeGlobal r) (fun g s => Untouched base out s ∧ Recent base g s)
      fun _ => Untouched base out :=
  keeps_untouched_machine.bind fun _ => .query fun m h =>
    have made := m.makes_newReference .global r
    ⟨h.makes made, h.recent made⟩

theorem meets_makeWeak_recent (r : Reference) :
    Meets (Untouched base out) (makeWeak r) (fun w s => Untouched base out s ∧ Recent base w s)
      fun _ => Untouched base out := by
  refine keeps_untouched_machine.bind fun _ => ?_
  cases r with
  | none => exact .fail fun _ h => h
  | some i =>
    have made (m : Machine) := m.makes_newReference .weak (some i)
    refine meets_nonNull (fun m w h answered => ?_) fun m h => h.makes (made m)
    obtain ⟨j, answer, rfl⟩ := Option.map_eq_some_iff.mp answered
    exact ⟨h.makes (made m), h.recent (answer ▸ made m)⟩

/-- What a new binding keeps of its class was made for it. -/
theorem meets_resolve_recent (d : Declaration) :
    Meets (Untouched base none) (Binding.resolve host d)
      (fun b s => Untouched base none s ∧ Recent base (keptReference b.retained) s)
      fun _ => Untouched base none := by
  have discipline := discipline_untouched base
  refine (Binding.meets_resolve (H := host) (I := fun c => Untouched base (some c))
    (F := fun kept s => Untouched base none s ∧ Recent base (keptReference kept) s) d
    (fun _ _ h => h) (.mapError (discipline.findClass _)) (fun c plans => ?_) (fun c => ?_)
    (fun e c => discipline.note e (some c)) fun e _ s h => ⟨discipline.note e none s h.1, h.2⟩).conseq
    (fun _ h => h) (fun _ _ h => h.2) fun _ _ h => h
  · exact (discipline.lookupOperations c d.className plans).conseq (fun _ h => h) (fun _ _ h => h)
      fun _ => discipline.releaseClass c
  · refine Host.meets_retain (H := host) c d (fun _ s h => ?_) (fun _ => ?_) fun _ => ?_
    · exact ⟨h.release, .null base _⟩
    · exact (meets_makeWeak_recent c).conseq (fun _ h => h) (fun _ _ h => ⟨h.1.release, h.2.drop c⟩)
        fun _ _ h => h.release
    · exact (meets_makeGlobal_recent c).conseq (fun _ h => h)
        (fun _ _ h => ⟨h.1.release, h.2.drop c⟩) fun _ _ h => h.release

theorem meets_holdGlobally_holder (base : ReferenceTable) (o : Reference) :
    Meets (Untouched base none) (holdGlobally o) (fun g s => Untouched base none s ∧ Holder base g s)
      fun _ => Untouched base none :=
  .mapError (keeps_untouched_machine.bind fun _ => .query fun m h =>
    have made := m.makes_newReference .global o
    ⟨h.makes made, h.holder made⟩)

/-- An object that is wrapped is held by a reference that was made for it. -/
theorem meets_wrap_holder (b : Binding host) (o : Reference) :
    Meets (Untouched base none) (wrap b o) (fun g s => Untouched base none s ∧ Holder base g s)
      fun _ => Untouched base none := by
  unfold wrap
  split
  · exact .fail fun _ h => h
  · exact (((discipline_untouched base).service b).requireInstance o).bind fun _ =>
      meets_holdGlobally_holder base o

theorem meets_create_recent (b : Binding host) (name : String) (args : List (Value Reference)) :
    Meets (Untouched base none) (b.create name args)
      (fun o s => Untouched base none s ∧ Recent base o s) fun _ => Untouched base none := by
  have service := (discipline_untouched base).service b
  refine b.meets_create name args service.accepts (fun _ _ _ h => h) service.obtainClass
    fun c op id d _ => ?_
  have made (m : Machine) := m.makes_newObject c id args
  refine meets_nonNull (fun m o h answered => ?_) fun m h => (h.makes (made m)).release
  obtain ⟨i, answer, rfl⟩ := Option.map_eq_some_iff.mp answered
  exact ⟨(h.makes (made m)).release, (h.recent (answer ▸ made m)).drop c⟩

/-- The same of an object that is made to be wrapped: the reference to it that is dropped is an
earlier one. -/
theorem meets_wrapNew_holder (b : Binding host) (name : String) (args : List (Value Reference)) :
    Meets (Untouched base none) (wrapNew b name args)
      (fun g s => Untouched base none s ∧ Holder base g s) fun _ => Untouched base none := by
  refine (meets_create_recent b name args).bracket fun o s ⟨h, recent⟩ => ?_
  have later {t : Machine} (after : Untouched s.references none t) :
      Untouched base none (dropLocal o t) :=
    Untouched.release ⟨h.old.trans after.old, fun i same => (recent i (Option.some.inj same)).1⟩
  have held := meets_holdGlobally_holder s.references o s (.start s)
  cases run : holdGlobally o s with
  | mk answer t =>
    rw [run] at held
    cases answer with
    | error fault => exact later held
    | ok g =>
      have holder : Holder base g t := fun i same =>
        ⟨Nat.le_trans h.old.length_le (held.2 i same).1, (held.2 i same).2⟩
      exact ⟨later held.1, holder.drop fun i j same dropped =>
        Nat.lt_of_lt_of_le (recent j dropped).2 (held.2 i same).1⟩

end

/-! ## What turns delete -/

/-- The reference that the turn deletes from outside of any request, null if it deletes none. -/
def Turn.deletes : Turn → Reference
  | .happens (.release b) => keptReference b.retained
  | .happens (.delete _ r) => r
  | _ => none

namespace Machine

variable {m : Machine} {g : Reference}

/-- A turn leaves the references that were there, but for the one that it deletes. -/
theorem prefix_takeTurn (m : Machine) (turn : Turn) :
    m.references.delete turn.deletes <+: (m.takeTurn turn).references := by
  -- What a request deletes it has made itself, so it leaves all that was there.
  have start := Untouched.start m
  have discipline := discipline_untouched m.references
  cases turn with
  | session pending => exact List.prefix_rfl
  | happens h =>
    cases h with
    | resolve d => exact ((discipline.resolve d).state start).old
    | ask b ask => exact ((discipline.answer b ask).state start).old
    | wrap b o =>
      have untouched : Keeps (Untouched m.references none) (wrap b o) :=
        (meets_wrap_holder b o).conseq (fun _ h => h) (fun _ _ h => h.1) fun _ _ h => h
      exact (untouched.state start).old
    | wrapNew b name args =>
      have untouched : Keeps (Untouched m.references none) (wrapNew b name args) :=
        (meets_wrapNew_holder b name args).conseq (fun _ h => h) (fun _ _ h => h.1) fun _ _ h => h
      exact (untouched.state start).old
    | release b =>
      show m.references.delete (keptReference b.retained) <+: (b.release m).references
      unfold Binding.release
      cases b.retained with
      | nothing => exact List.prefix_rfl
      | weakly w => exact (m.references_deleteReference .weak w) ▸ List.prefix_rfl
      | pinned p => exact (m.references_deleteReference .global p) ▸ List.prefix_rfl
    | delete kind r => exact (m.references_deleteReference kind r) ▸ List.prefix_rfl
    | change c => exact List.prefix_rfl
    | rig f fate => exact List.prefix_rfl
    | clear => exact List.prefix_rfl

/-- A reference is deleted once by a turn that deletes it, and not by any other. -/
theorem info?_takeTurn {info : ReferenceInfo} (made : m.references.info? g = some info)
    (turn : Turn) :
    (m.takeTurn turn).references.info? g =
      some { info with deletions := info.deletions + if turn.deletes = g then 1 else 0 } := by
  cases g with
  | none => cases made
  | some i =>
    have left := m.prefix_takeTurn turn
    split
    · next deleted =>
      rw [deleted] at left
      exact getElem?_of_prefix left (ReferenceTable.getElem?_delete made)
    · next spared =>
      exact getElem?_of_prefix left ((ReferenceTable.getElem?_delete_of_ne spared).trans made)

/-- In a run of turns a reference is deleted as often as there are turns that delete it. -/
theorem info?_takeTurns {info : ReferenceInfo} (made : m.references.info? g = some info)
    (turns : List Turn) :
    (m.takeTurns turns).references.info? g =
      some { info with deletions := info.deletions + (turns.map Turn.deletes).count g } := by
  -- By induction on the turns, for any number of deletions before.
  induction turns generalizing m info with
  | nil => exact made
  | cons first rest ih =>
    have counted : (if first.deletes = g then 1 else 0) + (rest.map Turn.deletes).count g =
        ((first :: rest).map Turn.deletes).count g := by
      rw [List.map_cons, List.count_cons, Nat.add_comm]
      simp only [beq_iff_eq]
    rw [← counted, ← Nat.add_assoc]
    exact ih (info?_takeTurn made first)

end Machine

end HandleCache.Jni

import HandleCache.Proofs.Jni.Nulls

/-!
# Outstanding references

A function that answers a reference makes it at that moment, and what was in the table of references
before stays as it is until it is deleted. So of the references that were made since some moment it
can be told which are still to be deleted: the class reference that is out, a new object that is not
handed over yet, and the global reference that an object is held by.

## Contents

- `ReferenceTable.Outstanding`: which of the references made since are still to be deleted
- `Machine.Makes`: a function answers null, or a reference that it makes
- `Machine.Owes`: and the same between two states of a machine
- `Untouched`: what was in the table is as it was, and the class reference that is out is new

## Main statements

- `Machine.makes_findClass` and its siblings: what functions make
- `discipline_untouched`: no request of the host touches what was in the table
-/

namespace HandleCache.Jni

open HandleCache.Action

/-! ## Tables -/

/-- What stands in a list stays where it is when the list is continued. -/
theorem getElem?_of_prefix {α : Type} {base l : List α} {i : Nat} {x : α} (old : base <+: l)
    (there : base[i]? = some x) : l[i]? = some x := by
  obtain ⟨inside, rfl⟩ := List.getElem?_eq_some_iff.mp there
  exact List.prefix_iff_getElem?.mp old i inside

namespace ReferenceTable

theorem getElem?_delete_of_ne {t : ReferenceTable} {r : Reference} {i : Nat} (ne : r ≠ some i) :
    (t.delete r)[i]? = t[i]? := by
  cases r with
  | none => rfl
  | some j => exact List.getElem?_modify_ne _ _ fun same => ne (congrArg some same)

theorem getElem?_delete {t : ReferenceTable} {i : Nat} {info : ReferenceInfo}
    (there : t[i]? = some info) :
    (t.delete (some i))[i]? = some { info with deletions := info.deletions + 1 } := by
  simp [delete, there]

/-- What was in a table stays as it is when a later reference is deleted. -/
theorem prefix_delete {base t : ReferenceTable} {r : Reference} (old : base <+: t)
    (new : ∀ i, r = some i → base.length ≤ i) : base <+: t.delete r := by
  refine List.prefix_iff_getElem?.mpr fun j inside => ?_
  have ne : r ≠ some j := fun same => Nat.not_lt.mpr (new j same) inside
  exact (getElem?_delete_of_ne ne).trans (List.prefix_iff_getElem?.mp old j inside)

/-- Since the table was `base`, these references were made that are not deleted, each of its kind.
All others that were made since are local, and each was deleted once. -/
structure Outstanding (base : ReferenceTable) (due : List (Nat × ReferenceKind))
    (t : ReferenceTable) : Prop where
  /-- What was in the table is as it was. -/
  old : base <+: t
  distinct : (due.map (·.1)).Nodup
  made : ∀ p ∈ due, base.length ≤ p.1 ∧ ∃ target, t[p.1]? = some ⟨p.2, target, 0⟩
  others : ∀ i info, base.length ≤ i → t[i]? = some info → i ∉ due.map (·.1) →
    info.kind = .local ∧ info.deletions = 1

namespace Outstanding

variable {base t : ReferenceTable} {due : List (Nat × ReferenceKind)} {i : Nat}

theorem refl (base : ReferenceTable) : Outstanding base [] base where
  old := List.prefix_rfl
  distinct := .nil
  made := nofun
  others i info new there _ := by
    obtain ⟨old, -⟩ := List.getElem?_eq_some_iff.mp there
    exact absurd old (Nat.not_lt.mpr new)

theorem perm {due' : List (Nat × ReferenceKind)} (h : Outstanding base due t) (p : due.Perm due') :
    Outstanding base due' t where
  old := h.old
  distinct := (p.map _).nodup_iff.mp h.distinct
  made q there := h.made q (p.mem_iff.mpr there)
  others i info new there not := h.others i info new there fun mem => not ((p.map _).mem_iff.mp mem)

/-- A new reference is to be deleted. -/
theorem make (h : Outstanding base due t) (kind : ReferenceKind) (target : Target) :
    Outstanding base ((t.length, kind) :: due) (t ++ [⟨kind, target, 0⟩]) where
  old := h.old.trans (List.prefix_append _ _)
  distinct := by
    refine List.nodup_cons.mpr ⟨fun there => ?_, h.distinct⟩
    obtain ⟨p, mem, same⟩ := List.mem_map.mp there
    obtain ⟨-, target, made⟩ := h.made p mem
    simp [same] at made
  made p mem := by
    rcases List.mem_cons.mp mem with rfl | mem
    · exact ⟨h.old.length_le, target, by simp⟩
    · obtain ⟨new, target, made⟩ := h.made p mem
      obtain ⟨earlier, -⟩ := List.getElem?_eq_some_iff.mp made
      exact ⟨new, target, (List.getElem?_append_left earlier).trans made⟩
  others i info new there not := by
    obtain ⟨last, not⟩ := not_or.mp (mt List.mem_cons.mpr not)
    have earlier : i < t.length := by
      obtain ⟨inside, -⟩ := List.getElem?_eq_some_iff.mp there
      simp at inside last
      omega
    exact h.others i info new ((List.getElem?_append_left earlier).symm.trans there) not

/-- A local reference that was due is deleted. -/
theorem delete (h : Outstanding base ((i, .local) :: due) t) :
    Outstanding base due (t.delete (some i)) := by
  obtain ⟨fresh, distinct⟩ := List.nodup_cons.mp h.distinct
  obtain ⟨new, target, made⟩ := h.made _ List.mem_cons_self
  have other {j : Nat} (ne : i ≠ j) : (t.delete (some i))[j]? = t[j]? :=
    getElem?_delete_of_ne fun same => ne (Option.some.inj same)
  refine ⟨?_, distinct, fun p mem => ?_, fun j info after there not => ?_⟩
  · refine prefix_delete h.old ?_
    rintro _ ⟨⟩
    exact new
  · obtain ⟨after, target, there⟩ := h.made p (List.mem_cons_of_mem _ mem)
    have ne : i ≠ p.1 := fun same => fresh (List.mem_map.mpr ⟨p, mem, same.symm⟩)
    exact ⟨after, target, (other ne).trans there⟩
  · by_cases same : i = j
    · subst same
      rw [getElem?_delete made] at there
      cases there
      exact ⟨rfl, rfl⟩
    · rw [other same] at there
      exact h.others j info after there fun mem => (List.mem_cons.mp mem).elim (Ne.symm same) not

end Outstanding

end ReferenceTable

/-- What is due with one reference more; with null it is no more. -/
def owing (kind : ReferenceKind) (r : Reference) (due : List (Nat × ReferenceKind)) :
    List (Nat × ReferenceKind) :=
  match r with
  | none => due
  | some i => (i, kind) :: due

theorem owing_perm (kind kind' : ReferenceKind) (r r' : Reference)
    (due : List (Nat × ReferenceKind)) :
    (owing kind r (owing kind' r' due)).Perm (owing kind' r' (owing kind r due)) := by
  cases r with
  | none => exact .refl _
  | some i =>
    cases r' with
    | none => exact .refl _
    | some j => exact .swap _ _ _

/-- The reference that a value is, null if it is none. -/
def carried (v : Value Reference) : Reference := v.reference?.join

namespace Machine

open ReferenceTable (Outstanding)

/-! ## What functions make -/

/-- Where a function leads that may make a reference of a kind: it answers null and makes none, or it
answers a reference that it makes, and then nothing more is pending than before. -/
inductive Makes (kind : ReferenceKind) (m : Machine) : Reference → Machine → Prop where
  | nothing {t : Machine} : t.references = m.references → Makes kind m none t
  | one {t : Machine} (target : Target) :
      t.references = m.references ++ [⟨kind, target, 0⟩] → t.exception = m.exception →
      Makes kind m (some m.references.length) t

section

variable {m s t : Machine} {kind : ReferenceKind} {f : Function} {operands : List Operand}
  {r : Reference}

theorem references_enter (f : Function) (operands : List Operand) (m : Machine) :
    (m.enter f operands).2.references = m.references := by
  unfold enter strike
  dsimp only
  split <;> rfl

theorem references_of_enter {struck : Bool} (h : m.enter f operands = (struck, s)) :
    s.references = m.references := by
  have entered := references_enter f operands m
  rwa [h] at entered

/-- A call that does not go wrong leaves pending what was. -/
theorem exception_of_enter (h : m.enter f operands = (false, s)) : s.exception = m.exception := by
  unfold enter strike at h
  dsimp only at h
  split at h
  · obtain ⟨-, rfl⟩ := Prod.mk.inj h
    rfl
  · obtain ⟨-, rfl⟩ := Prod.mk.inj h
    rfl
  · cases h
  · cases h

/-- A reference is made behind a call that did not go wrong. -/
theorem makes_refer (references : s.references = m.references)
    (exception : s.exception = m.exception) (target : Target) :
    m.Makes kind (s.refer kind target).1 (s.refer kind target).2 := by
  have number : (s.refer kind target).1 = some m.references.length :=
    congrArg (fun t : ReferenceTable => some t.length) references
  rw [number]
  exact .one target (congrArg (fun t : ReferenceTable => t ++ [⟨kind, target, 0⟩]) references)
    exception

theorem makes_referObject (references : s.references = m.references)
    (exception : s.exception = m.exception) (o : ObjectId) :
    m.Makes .local (s.referObject o).1 (s.referObject o).2 := by
  cases o with
  | none => exact .nothing references
  | some i => exact makes_refer references exception (.object i)

theorem makes_findClass (name : String) (m : Machine) :
    m.Makes .local (m.findClass name).1 (m.findClass name).2 := by
  unfold findClass
  split
  · next h => exact .nothing (references_of_enter h)
  · next h =>
    have same := references_of_enter h
    split
    · exact makes_refer same (exception_of_enter h) _
    · exact .nothing same

theorem makes_newReference (kind : ReferenceKind) (r : Reference) (m : Machine) :
    m.Makes kind (m.newReference kind r).1 (m.newReference kind r).2 := by
  unfold newReference
  split
  · next h => exact .nothing (references_of_enter h)
  · next h =>
    split
    · exact makes_refer (references_of_enter h) (exception_of_enter h) _
    · exact makes_refer (references_of_enter h) (exception_of_enter h) _
    · exact .nothing (references_of_enter h)

theorem makes_newObject (c : Reference) (id : MemberId) (args : List (Value Reference))
    (m : Machine) : m.Makes .local (m.newObject c id args).1 (m.newObject c id args).2 := by
  unfold newObject
  split
  · next h => exact .nothing (references_of_enter h)
  · next s h =>
    have same := references_of_enter h
    have pending := exception_of_enter h
    split
    · next o w _ => exact makes_referObject (s := { s with world := w }) same pending o
    · exact .nothing same

/-- What stands for nothing is no reference that was made. -/
theorem carried_zero (k : Kind) : carried (Value.zero none k) = none := by
  cases k with
  | reference => rfl
  | primitive p => cases p <;> rfl

theorem makes_runMember (references : s.references = m.references)
    (exception : s.exception = m.exception) (o : ObjectId) (id : MemberId)
    (args : List (Value Reference)) (k : Kind) :
    m.Makes .local (carried (s.runMember o id args k).1) (s.runMember o id args k).2 := by
  unfold runMember
  split
  · next v w _ =>
    cases v with
    | reference o => exact makes_referObject (s := { s with world := w }) references exception o
    | _ => exact .nothing references
  · rw [carried_zero]
    exact .nothing references

theorem makes_zero (h : m.enter f operands = (true, s)) (k : Kind) :
    m.Makes .local (carried (Value.zero none k)) s := by
  rw [carried_zero]
  exact .nothing (references_of_enter h)

theorem makes_callMethod (o : Reference) (id : MemberId) (k : Kind) (args : List (Value Reference))
    (m : Machine) :
    m.Makes .local (carried (m.callMethod o id k args).1) (m.callMethod o id k args).2 := by
  unfold callMethod
  split
  · next h => exact makes_zero h k
  · next h => exact makes_runMember (references_of_enter h) (exception_of_enter h) _ id args k

theorem makes_callStatic (c : Reference) (id : MemberId) (k : Kind) (args : List (Value Reference))
    (m : Machine) :
    m.Makes .local (carried (m.callStatic c id k args).1) (m.callStatic c id k args).2 := by
  unfold callStatic
  split
  · next h => exact makes_zero h k
  · next h => exact makes_runMember (references_of_enter h) (exception_of_enter h) none id args k

theorem makes_getField (o : Reference) (id : MemberId) (k : Kind) (m : Machine) :
    m.Makes .local (carried (m.getField o id k).1) (m.getField o id k).2 := by
  unfold getField
  split
  · next h => exact makes_zero h k
  · next h => exact makes_runMember (references_of_enter h) (exception_of_enter h) _ id [] k

theorem makes_getStaticField (c : Reference) (id : MemberId) (k : Kind) (m : Machine) :
    m.Makes .local (carried (m.getStaticField c id k).1) (m.getStaticField c id k).2 := by
  unfold getStaticField
  split
  · next h => exact makes_zero h k
  · next h => exact makes_runMember (references_of_enter h) (exception_of_enter h) none id [] k

theorem references_getMember (f : Function) (isStatic : Bool) (missing : String) (r : Reference)
    (name signature : String) (m : Machine) :
    (m.getMember f isStatic missing r name signature).2.references = m.references := by
  unfold getMember
  split
  · next h => exact references_of_enter h
  · next h =>
    have same := references_of_enter h
    split <;> exact same

theorem references_isInstanceOf (o c : Reference) (m : Machine) :
    (m.isInstanceOf o c).2.references = m.references := by
  unfold isInstanceOf
  split
  · next h => exact references_of_enter h
  · next h => split <;> exact references_of_enter h

theorem references_exceptionClear (m : Machine) : m.exceptionClear.references = m.references :=
  references_enter .exceptionClear [] m

theorem references_deleteReference (kind : ReferenceKind) (r : Reference) (m : Machine) :
    (m.deleteReference kind r).references = m.references.delete r :=
  congrArg (ReferenceTable.delete · r) (references_enter (deleter kind) [.reference r] m)

/-- A function that was called with nothing pending and has thrown has made no reference. -/
theorem Makes.references_of_threw {x : String} (made : m.Makes kind r t)
    (clear : m.exception = none) (threw : t.exception = some x) : t.references = m.references := by
  cases made with
  | nothing same => exact same
  | one _ _ same => cases threw.symm.trans (same.trans clear)

theorem Makes.references_of_null (made : m.Makes kind none t) : t.references = m.references := by
  cases made with
  | nothing same => exact same

/-! ## What is still to be deleted -/

/-- Of the references that were made since `m`, these are not deleted in `s`. -/
def Owes (m : Machine) (due : List (Nat × ReferenceKind)) (s : Machine) : Prop :=
  Outstanding m.references due s.references

theorem Owes.refl (m : Machine) : m.Owes [] m := Outstanding.refl m.references

variable {due : List (Nat × ReferenceKind)}

theorem Owes.of_references (h : m.Owes due s) (same : t.references = s.references) :
    m.Owes due t := by
  unfold Owes
  rwa [same]

theorem Owes.makes (h : m.Owes due s) (made : s.Makes kind r t) :
    m.Owes (owing kind r due) t := by
  cases made with
  | nothing same => exact h.of_references same
  | one target references =>
    unfold Owes
    rw [references]
    exact Outstanding.make h kind target

theorem Owes.drop (h : m.Owes (owing .local r due) s) : m.Owes due (dropLocal r s) := by
  show Outstanding m.references due (s.deleteReference .local r).references
  rw [s.references_deleteReference]
  cases r with
  | none => exact h
  | some i => exact Outstanding.delete h

end

end Machine

/-! ## What no request touches -/

/-- What was in the table `base` is as it was, and the class reference that is out, if one is, was
made since. -/
structure Untouched (base : ReferenceTable) (out : Option Reference) (m : Machine) : Prop where
  old : base <+: m.references
  new : ∀ i, out = some (some i) → base.length ≤ i

section

variable {base : ReferenceTable} {out : Option Reference} {m s t : Machine} {kind : ReferenceKind}
  {r : Reference}

theorem Untouched.start (m : Machine) : Untouched m.references none m := ⟨List.prefix_rfl, nofun⟩

theorem Untouched.of_references (h : Untouched base out m) (same : t.references = m.references) :
    Untouched base out t :=
  ⟨same ▸ h.old, h.new⟩

theorem Untouched.makes (h : Untouched base out m) (made : m.Makes kind r t) :
    Untouched base out t := by
  cases made with
  | nothing same => exact h.of_references same
  | one target references => exact ⟨references ▸ h.old.trans (List.prefix_append _ _), h.new⟩

/-- A reference that is made is a new one. -/
theorem Untouched.obtains (h : Untouched base none m) (made : m.Makes .local r t) :
    Untouched base (some r) t := by
  refine ⟨(h.makes made).old, fun i out => ?_⟩
  cases made with
  | nothing => cases out
  | one =>
    cases out
    exact h.old.length_le

theorem Untouched.release (h : Untouched base (some r) m) :
    Untouched base none (dropLocal r m) := by
  refine ⟨?_, nofun⟩
  show base <+: (m.deleteReference .local r).references
  rw [m.references_deleteReference]
  exact ReferenceTable.prefix_delete h.old fun i same => h.new i (same ▸ rfl)

theorem keeps_untouched_lookup {α : Type} {name signature : String} {failure : Failure}
    {g : Machine → Option α × Machine} (same : ∀ m, (g m).2.references = m.references) :
    Keeps (Untouched base out) (lookup name signature (nonNull failure g)) :=
  meets_lookup (meets_nonNull (fun m _ h _ => h.of_references (same m))
    fun m h => h.of_references (same m)) fun _ _ h =>
      h.of_references (Machine.references_exceptionClear _)

theorem keeps_untouched_machine : Keeps (Untouched base out) requireVirtualMachine :=
  keeps_requireVirtualMachine fun _ h => h.of_references rfl

theorem keeps_untouched_readAs {k : Kind} {f : Machine → Value Reference × Machine}
    (makes : ∀ m : Machine, m.Makes .local (carried (f m).1) (f m).2) :
    Keeps (Untouched base out) (readAs k f) :=
  meets_readAs fun m h => h.makes (makes m)

theorem keeps_untouched_makeGlobal (r : Reference) : Keeps (Untouched base out) (makeGlobal r) :=
  keeps_untouched_machine.bind fun _ => .query fun m h => h.makes (m.makes_newReference .global r)

theorem keeps_untouched_makeWeak (r : Reference) : Keeps (Untouched base out) (makeWeak r) := by
  refine keeps_untouched_machine.bind fun _ => ?_
  cases r with
  | none => exact .fail fun _ h => h
  | some i =>
    exact meets_nonNull (fun m _ h _ => h.makes (m.makes_newReference .weak (some i)))
      fun m h => h.makes (m.makes_newReference .weak (some i))

/-- No request of the host touches what was in the table: what it deletes it has made. -/
theorem discipline_untouched (base : ReferenceTable) : host.Discipline (Untouched base) where
  findClass name := by
    refine meets_lookup (T := Untouched base none) (meets_nonNull (fun m c h answered => ?_)
      fun m h => h.makes (m.makes_findClass name)) fun m _ h =>
        h.of_references (Machine.references_exceptionClear _)
    obtain ⟨i, made, rfl⟩ := Option.map_eq_some_iff.mp answered
    exact h.obtains (made ▸ m.makes_findClass name)
  classOfPin p := .query fun m h => h.obtains (m.makes_newReference .local p)
  classOfWeak w := .query fun m h => by
    have made := m.makes_newReference .local w
    show Untouched base ((m.newReference .local w).1.map some) (m.newReference .local w).2
    cases answer : (m.newReference .local w).1 with
    | none => exact h.makes made
    | some i => exact h.obtains (answer ▸ made)
  releaseClass _ _ h := h.release
  isInstance o c := .query fun m h => h.of_references (m.references_isInstanceOf o c)
  callStatic c id d args :=
    meets_checked (fun m h => h.makes (m.makes_callStatic c id _ args))
      fun m h => h.makes (m.makes_callStatic c id _ args)
  newObject c id d args :=
    meets_nonNull (fun m _ h _ => h.makes (m.makes_newObject c id args))
      fun m h => h.makes (m.makes_newObject c id args)
  readStatic c id d := keeps_untouched_readAs (Machine.makes_getStaticField c id _)
  callMethod o id d args :=
    meets_checked (fun m h => h.makes (m.makes_callMethod o id _ args))
      fun m h => h.makes (m.makes_callMethod o id _ args)
  readField o id d := keeps_untouched_readAs (Machine.makes_getField o id _)
  isNull _ _ h := h
  accepts _ _ _ h := h
  note _ _ _ h := ⟨h.old, h.new⟩
  findMethod c n s := keeps_untouched_lookup (Machine.references_getMember _ _ _ c n s)
  findStaticMethod c n s := keeps_untouched_lookup (Machine.references_getMember _ _ _ c n s)
  findField c n s := keeps_untouched_lookup (Machine.references_getMember _ _ _ c n s)
  findStaticField c n s := keeps_untouched_lookup (Machine.references_getMember _ _ _ c n s)
  pin c := keeps_untouched_makeGlobal c
  weaken c := keeps_untouched_makeWeak c

end

end HandleCache.Jni

import HandleCache.Proofs.Registry.Outline
import HandleCache.Proofs.Requests.Defect
import HandleCache.Vm.Counting

/-!
# Inquiries that fail

An inquiry that is answered with an error leaves a registry as it was, for all that a program can
tell. The class that a first request made known is forgotten, one that was declared in front stays,
and what is resolved is not touched. So the same inquiry can be made again as if it were the first.

## Contents

- `Fault.isVerdict`: a fault that a registry finds by itself
- `Inquiry.Conflicts`, `Inquiry.Undeclared`: inquiries that are refused without the host

## Main statements

- `isVerdict_of_resolve`: a resolution has no such fault
- `inquiry_in_vain`: when inquiries are refused, and what an error leaves behind
-/

namespace HandleCache

open HandleCache.Action

variable {H : Host} {ε : Type}

/-! ## Faults -/

/-- Whether a registry finds the fault by itself, without the host. -/
def Fault.isVerdict : Fault ε → Bool
  | conflictingDeclaration _ | undeclaredClass _ => true
  | _ => false

theorem Operation.Unfit.not_isVerdict {className : String} {op : Operation} {fault : Fault ε}
    (h : op.Unfit className fault) : fault.isVerdict = false := by
  cases h <;> rfl

theorem FirstDefect.not_isVerdict {className : String} {earlier ops : List Operation}
    {fault : Fault ε} (h : FirstDefect className earlier ops fault) : fault.isVerdict = false := by
  induction h with
  | here defect =>
    cases defect with
    | duplicate => rfl
    | unfit _ unfit => exact unfit.not_isVerdict
  | later _ _ ih => exact ih

section

variable {α β : Type}

/-- The request has no fault that a registry finds by itself. -/
abbrev Host.Unjudging (x : H.Request α) : Prop :=
  Meets (fun _ => True) x (fun _ _ => True) fun fault _ => fault.isVerdict = false

theorem unjudging_mapError {x : Action H.State H.Failure α} {told : H.Failure → Fault H.Failure}
    (h : ∀ cause, (told cause).isVerdict = false) : Host.Unjudging (Action.mapError told x) :=
  Meets.told h

theorem unjudging_reply {x : Action H.State H.Failure α} {told : H.Failure → Fault H.Failure}
    {g : α → β} (h : ∀ cause, (told cause).isVerdict = false) :
    Host.Unjudging (do let v ← Action.mapError told x; pure (g v)) :=
  (unjudging_mapError h).bind fun _ => .pure fun _ _ => trivial

theorem unjudging_lookupOperations (c : H.ClassRef) (className : String)
    (plans : List (Operation × Plan)) :
    Host.Unjudging (Host.lookupOperations (H := H) c className plans) := by
  induction plans with
  | nil => exact .pure fun _ _ => trivial
  | cons first rest ih =>
    obtain ⟨op, plan⟩ := first
    have looked : Host.Unjudging (Host.lookupOperation (H := H) c className op plan) := by
      cases plan <;> exact unjudging_reply fun _ => rfl
    exact looked.bind fun _ => ih.bind fun _ => .pure fun _ _ => trivial

theorem unjudging_retain (c : H.ClassRef) (d : Declaration) :
    Host.Unjudging (Host.retain (H := H) c d) := by
  unfold Host.retain
  cases d.retention with
  | drop => exact .pure fun _ _ => trivial
  | weak | global => exact unjudging_reply fun _ => rfl

theorem unjudging_plans (d : Declaration) :
    Host.Unjudging (H := H) (Action.ofExcept d.plans) := by
  intro s _
  cases planned : d.plans (ε := H.Failure) with
  | ok plans => trivial
  | error fault => exact (Declaration.plans_eq_error_iff.mp planned).not_isVerdict

theorem unjudging_resolve (d : Declaration) : Host.Unjudging (Binding.resolve H d) := by
  refine (unjudging_plans d).bind fun plans => ?_
  refine Meets.bind (F := fun _ _ => True) ?_ fun _ => .modify_bind (fun _ _ => trivial)
    (.pure fun _ _ => trivial)
  refine Meets.bracket (unjudging_mapError fun _ => rfl) fun c =>
    .modify_bind (fun _ _ => trivial) ?_
  exact (unjudging_lookupOperations c d.className plans).bind fun _ =>
    (unjudging_retain c d).bind fun _ => .pure fun _ _ => trivial

/-- A resolution has no fault that a registry finds by itself. -/
theorem isVerdict_of_resolve {d : Declaration} {s t : H.State} {fault : Fault H.Failure}
    (failed : Binding.resolve H d s = (.error fault, t)) : fault.isVerdict = false :=
  (unjudging_resolve d).stopped trivial failed

end

/-! ## Refusals -/

/-- The class is known with another retention, or with other operations. -/
def Inquiry.Conflicts (q : Inquiry) (s : Shared H) : Prop :=
  ∃ d entry, q = .declared d ∧ s.registry.find? d.className = some entry ∧
    (entry.declaration.retention ≠ d.retention ∨ entry.declaration.operations ≠ d.operations)

/-- The class is asked for by a name that is not known. -/
def Inquiry.Undeclared (q : Inquiry) (s : Shared H) : Prop :=
  ∃ name, q = .named name ∧ s.registry.find? name = none

namespace Shared.Tidy

variable {s t : Shared H} {q : Inquiry}

/-- For a class of one name it is the retention or the operations that differ. -/
theorem differs_iff {d : Declaration} {entry : Registration} (tidy : s.Tidy)
    (known : s.registry.find? d.className = some entry) :
    entry.declaration ≠ d ↔
      entry.declaration.retention ≠ d.retention ∨ entry.declaration.operations ≠ d.operations := by
  have named : entry.declaration.className = d.className :=
    (tidy.keyed _ (Registry.mem_of_find? known)).symm
  obtain ⟨declaration, predeclared, cell⟩ := entry
  obtain ⟨className, operations, retention⟩ := d
  obtain ⟨className', operations', retention'⟩ := declaration
  obtain rfl : className' = className := named
  simp only [ne_eq, Declaration.mk.injEq, true_and]
  tauto

theorem answer_of_conflicts (tidy : s.Tidy) (h : q.Conflicts s) :
    Registry.answer q s = (.error (.conflictingDeclaration q.className), s) := by
  obtain ⟨d, entry, rfl, known, differs⟩ := h
  exact request_of_conflict known ((tidy.differs_iff known).mpr differs)

theorem answer_of_undeclared (h : q.Undeclared s) :
    Registry.answer q s = (.error (.undeclaredClass q.className), s) := by
  obtain ⟨name, rfl, unknown⟩ := h
  simp only [Registry.answer, Registry.named, unknown]
  rfl

/-- A registry judges by itself only where it refuses. -/
theorem refused_of_isVerdict {fault : Fault H.Failure} (tidy : s.Tidy)
    (answered : (Registry.answer q s).1 = .error fault) (verdict : fault.isVerdict = true) :
    (fault = .conflictingDeclaration q.className ∧ q.Conflicts s) ∨
      (fault = .undeclaredClass q.className ∧ q.Undeclared s) := by
  have outcome := tidy.outcome_answer q
  rw [answered] at outcome
  generalize (Registry.answer q s).2 = t at outcome
  cases outcome with
  | conflict known other =>
    exact .inl ⟨rfl, _, _, rfl, known, (tidy.differs_iff known).mp other⟩
  | unknown unknown => exact .inr ⟨rfl, _, rfl, unknown⟩
  | unresolved _ _ failed | forgotten _ failed =>
    rw [isVerdict_of_resolve failed] at verdict
    cases verdict

/-- Registries with one outline answer alike, and have one outline afterwards. -/
theorem answer_congr (tidy : s.Tidy) (tidy' : t.Tidy) (same : s.outline = t.outline) (q : Inquiry) :
    (Registry.answer q s).1 = (Registry.answer q t).1 ∧
      (Registry.answer q s).2.outline = (Registry.answer q t).2.outline := by
  have answers := tidy.outline_answer q
  rw [same, tidy'.outline_answer q] at answers
  exact Prod.ext_iff.mp answers.symm

end Shared.Tidy

/-- On every host, and however a registry was made and used: a request for a declaration is refused
as a conflict exactly if the class is known with another retention or with other operations, and one
for a name exactly if it is not known; then nothing at all happens. And whatever the error is,
nothing of the classes that are known, of what is resolved and of the count has changed; so whatever
is asked for next, and on whichever host, is answered as if the request had not been made. -/
theorem inquiry_in_vain {s : Shared H} (reached : s.Reached) (q : Inquiry) :
    ((∃ name, (Registry.answer q s).1 = .error (.conflictingDeclaration name)) ↔ q.Conflicts s) ∧
    ((∃ name, (Registry.answer q s).1 = .error (.undeclaredClass name)) ↔ q.Undeclared s) ∧
    (q.Conflicts s → Registry.answer q s = (.error (.conflictingDeclaration q.className), s)) ∧
    (q.Undeclared s → Registry.answer q s = (.error (.undeclaredClass q.className), s)) ∧
    ∀ fault t, Registry.answer q s = (.error fault, t) →
      t.outline = { s.outline with host := t.store.host } ∧
      ∀ q' h, (Registry.answer q' (t.withHost h)).1 = (Registry.answer q' (s.withHost h)).1 ∧
        (Registry.answer q' (t.withHost h)).2.outline =
          (Registry.answer q' (s.withHost h)).2.outline := by
  have tidy := reached.tidy
  refine ⟨⟨?_, ?_⟩, ⟨?_, ?_⟩, tidy.answer_of_conflicts, Shared.Tidy.answer_of_undeclared, ?_⟩
  · rintro ⟨name, answered⟩
    rcases tidy.refused_of_isVerdict answered rfl with ⟨-, conflicts⟩ | ⟨other, -⟩
    · exact conflicts
    · cases other
  · intro conflicts
    exact ⟨_, congrArg Prod.fst (tidy.answer_of_conflicts conflicts)⟩
  · rintro ⟨name, answered⟩
    rcases tidy.refused_of_isVerdict answered rfl with ⟨other, -⟩ | ⟨-, undeclared⟩
    · cases other
    · exact undeclared
  · intro undeclared
    exact ⟨_, congrArg Prod.fst (Shared.Tidy.answer_of_undeclared undeclared)⟩
  · intro fault t failed
    -- What was asked in vain is gone from the outline, and the outline decides what comes next.
    have unchanged : t.outline = { s.outline with host := t.store.host } := by
      have answers := tidy.outline_answer q
      rw [failed] at answers
      exact Outline.eq_of_answer_error answers
    have tidy' : t.Tidy := by
      have after := tidy.answer q
      rwa [failed] at after
    refine ⟨unchanged, fun q' h => ?_⟩
    apply (tidy'.withHost h).answer_congr (tidy.withHost h)
    rw [Shared.outline_withHost, Shared.outline_withHost, unchanged]

/-- A point of which a pin is to be kept. -/
def Counting.pinnedPoint : Declaration := ⟨"test/Point", [.field "x" "x" "I"], .global⟩

/-- A point is asked for where pinning fails, and again where it does not. -/
theorem inquiry_in_vain_pinnedPoint : ∃ s t : Shared Counting.host, s.Reached ∧
    Registry.answer (.declared Counting.pinnedPoint) s =
      (.error (.classNotRetained "test/Point" (.thrown "global reference table is full")), t) ∧
    t.outline = { s.outline with host := t.store.host } ∧
    (Registry.answer (.declared Counting.pinnedPoint)
      (t.withHost ({} : Counting.Machine))).1 = .ok 0 := by
  let s : Shared Counting.host := { store := { host := ({ pinsFail := true } : Counting.Machine) } }
  have made : Registry.ofDeclarations [] s.store = (.ok s.registry, s.store) := rfl
  have reached : s.Reached := .made made
  have failed : Registry.answer (.declared Counting.pinnedPoint) s = (.error _, _) := rfl
  obtain ⟨-, -, -, -, vain⟩ := inquiry_in_vain reached (.declared Counting.pinnedPoint)
  obtain ⟨unchanged, again⟩ := vain _ _ failed
  obtain ⟨answer, -⟩ := again (.declared Counting.pinnedPoint) ({} : Counting.Machine)
  exact ⟨s, _, reached, failed, unchanged, answer.trans rfl⟩

end HandleCache

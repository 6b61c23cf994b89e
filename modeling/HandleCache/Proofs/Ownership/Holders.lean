import HandleCache.Proofs.Jni.Constructors
import HandleCache.Proofs.Jni.Wrapped
import HandleCache.Proofs.Ownership.Shares
import HandleCache.Registry.Threads

/-!
# Shares and their holders

At the end of each deal the shares that nobody holds are deleted. Since a share that was deleted is
not held again, none is deleted twice; and what bindings give back is not a share. So between two
deals the table of references tells who is held.

## Contents

- `Deal`, `Deal.takeAll`: what programs do, one thing after the other
- `Settled`: a workspace between two deals
- `AddsHolder`: what wrapping an object adds to the table of references

## Main statements

- `Accounted.collect`, `InStep.tidy`: what is given back at the end of a deal
- `Settled.deletions`: a share is deleted once if nobody holds it, and not otherwise
- `wrapped_objects_share_references`: how references of wrapped objects come and go
- `wrapNew_loses_class_reference`: with an exception pending it is otherwise
-/

namespace HandleCache.Jni

open HandleCache.Action Script

/-! ## Deals -/

/-- What a program does at once. -/
inductive Deal where
  | step (step : Script.Step Feature)
  /-- Has a registry resolve all that it knows, in an order that depends on what there is. -/
  | preloadAlong (registry : String) (arrangement : Arrangement)
  /-- Another session goes on, in which this exception is pending, if any. -/
  | session (pending : Option String)

namespace Deal

/-- What is done, before anything is given back. -/
def perform : Deal → Job Answer
  | step s => s.perform dialect
  | preloadAlong r a => do
    onRegistry r fun s => Registry.preloadAlong (a.order s.pending) s
    pure .nothing
  | session pending => onMachine fun m => { m with exception := pending }

/-- The workspace after a deal, whatever came of it. -/
def take (deal : Deal) (ws : Workspace host Holdings) : Workspace host Holdings :=
  dialect.tidy (deal.perform (dialect.prepare ws)).2

/-- The workspace after all these deals. -/
def takeAll (deals : List Deal) (ws : Workspace host Holdings) : Workspace host Holdings :=
  deals.foldl (fun ws deal => deal.take ws) ws

end Deal

section

variable {since : List Reference} {m : Machine} {bs : List (Binding host)} {x : Holdings}
  {ws : Workspace host Holdings} {s : ShareId} {r : Reference}

theorem Deal.keeps_perform (deal : Deal) : Keeps (InStep since) deal.perform := by
  have upkeep := upkeep_accounted since
  cases deal with
  | step step => exact upkeep.perform (D := dialect) keeps_feature step
  | preloadAlong registry arrangement =>
    have visited (x : Holdings) : Keeps (SharedKept (Accounted since) x) fun s =>
        Registry.preloadAlong (H := host) (arrangement.order s.pending) s :=
      fun s kept => upkeep.preloadAlong (arrangement.order s.pending) s kept
    exact (keeps_onRegistry visited).bind fun _ => .pure fun _ kept => kept
  | session pending =>
    unfold Deal.perform
    exact keeps_onMachine fun _ => rfl

/-! ## Giving back -/

/-- A share that nobody holds is deleted. -/
theorem Accounted.delete (h : Accounted since m bs x) (may : x.Open s)
    (free : x.holdsShare s = false) :
    Accounted since (dropGlobal (x.reference s) m) bs { x with deleted := x.deleted ++ [s] } := by
  have table : (dropGlobal (x.reference s) m).references = m.references.delete (x.reference s) :=
    m.references_deleteReference .global (x.reference s)
  refine ⟨h.since, fun s' i is => ?_, h.distinct, fun s' gone => ?_, fun s' held => ?_,
    fun b there i is => ?_⟩
  · replace is : x.reference s' = some i := is
    obtain ⟨target, made⟩ := h.counted s' i is
    refine ⟨target, ?_⟩
    rw [table]
    by_cases same : s' = s
    · subst same
      rw [if_neg may.2] at made
      rw [is, ReferenceTable.getElem?_delete made]
      simp
    · have ne : x.reference s ≠ some i := fun is' => same (h.distinct s' s i is is')
      rw [ReferenceTable.getElem?_delete_of_ne ne, made]
      simp [same]
  · rcases List.mem_append.mp gone with old | new
    · exact h.earlier s' old
    · exact List.mem_singleton.mp new ▸ may.1
  · have ⟨inside, kept⟩ := h.held s' held
    refine ⟨inside, fun gone => ?_⟩
    rcases List.mem_append.mp gone with old | new
    · exact kept old
    · rw [List.mem_singleton.mp new] at held
      cases free.symm.trans held
  · obtain ⟨inside, apart⟩ := h.kept b there i is
    exact ⟨by rwa [table, ReferenceTable.length_delete], apart⟩

/-- What is not a share is deleted. -/
theorem Accounted.deleteOther (h : Accounted since m bs x) (kind : ReferenceKind)
    (other : ∀ i, r = some i → ∀ s, x.reference s ≠ some i) :
    Accounted since (m.deleteReference kind r) bs x := by
  have table := m.references_deleteReference kind r
  refine { h with counted := fun s i is => ?_, kept := fun b there i is => ?_ }
  · obtain ⟨target, made⟩ := h.counted s i is
    have ne : r ≠ some i := fun same => other i same s is
    exact ⟨target, by rw [table, ReferenceTable.getElem?_delete_of_ne ne, made]⟩
  · rw [table, ReferenceTable.length_delete]
    exact h.kept b there i is

/-- All of these are deleted, one after the other. -/
theorem Accounted.collect {gone : List ShareId} (h : Accounted since m bs x) (once : gone.Nodup)
    (free : ∀ s ∈ gone, x.Open s ∧ x.holdsShare s = false) :
    Accounted since (gone.foldl (fun m s => dropGlobal (x.reference s) m) m) bs
      { x with deleted := x.deleted ++ gone } := by
  induction gone generalizing m x with
  | nil => rwa [List.append_nil]
  | cons s rest ih =>
    obtain ⟨first, others⟩ := List.nodup_cons.mp once
    obtain ⟨may, unheld⟩ := free s List.mem_cons_self
    have after := ih (h.delete may unheld) others fun s' there => by
      obtain ⟨⟨inside, kept⟩, unheld'⟩ := free s' (List.mem_cons_of_mem _ there)
      have ne : s' ≠ s := fun same => first (same ▸ there)
      exact ⟨⟨inside, by simp [kept, ne]⟩, unheld'⟩
    rwa [List.append_assoc] at after

/-- What a binding keeps is no share, so that it may be given back. -/
theorem stored_release {store : Store host} (kept : Stored (Accounted since) x store)
    (b : BindingId) : Stored (Accounted since) x (store.release b) := by
  unfold Store.release
  cases there : store.binding? b with
  | none => exact kept
  | some binding =>
    have other := fun i is => (Accounted.kept kept binding (List.mem_of_getElem? there) i is).2
    show Accounted since (binding.release store.host) store.bindings x
    unfold Binding.release
    generalize binding.retained = retained at other
    cases retained with
    | nothing => exact kept
    | weakly w => exact Accounted.deleteOther kept .weak other
    | pinned p => exact Accounted.deleteOther kept .global other

/-- What nothing holds any more is given back, bindings and shares. -/
theorem InStep.tidy (kept : InStep since ws) : InStep since (dialect.tidy ws) := by
  have swept : InStep since (sweep ws) := by
    refine Accounted.collect kept (unheld_nodup _ _ _) fun s there => ?_
    obtain ⟨free, open', inside⟩ := unheld_of_mem there
    exact ⟨⟨inside, open'⟩, free⟩
  have returned (gone : List BindingId) (store : Store host)
      (stored : Stored (Accounted since) (sweep ws).extra store) :
      Stored (Accounted since) (sweep ws).extra (gone.foldl Store.release store) := by
    induction gone generalizing store with
    | nil => exact stored
    | cons b rest ih => exact ih _ (stored_release stored b)
  exact returned _ _ swept

/-! ## Between deals -/

/-- The workspace between two deals: every share that nobody holds was deleted. -/
structure Settled (since : List Reference) (ws : Workspace host Holdings) : Prop where
  accounts : InStep since ws
  given : ∀ s < ws.extra.shares.length, ws.extra.holdsShare s = true ∨ s ∈ ws.extra.deleted

theorem settled_workspace (declarations : Variables Declaration) (m : Machine) :
    Settled [] (dialect.workspace declarations m {}) :=
  ⟨accounted_start m, nofun⟩

theorem InStep.settled (kept : InStep since ws) : Settled since (dialect.tidy ws) := by
  refine ⟨kept.tidy, fun s inside => ?_⟩
  by_cases held : ws.extra.holdsShare s = true
  · exact .inl held
  · refine .inr (List.mem_append.mpr ?_)
    by_cases gone : s ∈ ws.extra.deleted
    · exact .inl gone
    · replace inside : s < ws.extra.shares.length := inside
      exact .inr (by simp [unheld, inside, gone, held])

theorem Settled.take (settled : Settled since ws) (deal : Deal) : Settled since (deal.take ws) := by
  have prepared : InStep since (dialect.prepare ws) :=
    Accounted.later settled.accounts List.prefix_rfl
  exact InStep.settled (deal.keeps_perform.state prepared)

theorem Holdings.reference_of_prefix {y : Holdings} (later : x.shares <+: y.shares) {i : Nat}
    (is : x.reference s = some i) : y.reference s = some i := by
  obtain ⟨r, there, rfl⟩ := Option.bind_eq_some_iff.mp is
  rw [Holdings.reference, getElem?_of_prefix later there]
  rfl

theorem Settled.takeAll (settled : Settled since ws) (deals : List Deal) :
    Settled since (Deal.takeAll deals ws) := by
  induction deals generalizing ws with
  | nil => exact settled
  | cons deal rest ih => exact ih (settled.take deal)

/-- Shares that are there now will be there later. -/
theorem Settled.now (settled : Settled since ws) : Settled ws.extra.shares ws :=
  ⟨{ settled.accounts with since := List.prefix_rfl }, settled.given⟩

/-- A share was deleted once if nobody holds it, and not at all if somebody does. -/
theorem Settled.deletions (settled : Settled since ws) {i : Nat}
    (is : ws.extra.reference s = some i) :
    ∃ target, ws.store.host.references[i]? =
      some ⟨.global, target, if ws.extra.holdsShare s then 0 else 1⟩ := by
  obtain ⟨target, made⟩ := settled.accounts.counted s i is
  refine ⟨target, made.trans ?_⟩
  rcases settled.given s (Holdings.lt_of_reference is) with held | gone
  · have kept := (settled.accounts.held s held).2
    rw [if_pos held, if_neg kept]
  · have free : ¬ ws.extra.holdsShare s = true := fun held => (settled.accounts.held s held).2 gone
    rw [if_neg free, if_pos gone]

end

/-! ## Wrapped objects and their references -/

/-- The action adds the global reference that it answers, or none if it fails; any other reference
that it makes is a local one, which it deletes once; and what there was before is as it was. -/
def AddsHolder (m : Machine) (x : host.Request Reference) : Prop :=
  Meets (· = m) x (fun g s => ∃ i, g = some i ∧ m.Owes [(i, .global)] s) fun _ => m.Owes []

/-- To wrap an object, or to make one for it, adds the global reference that it is held by, and
nothing if it fails. This takes that no exception is pending, that to make a local reference throws
none, and that to make a global one does not go wrong. After any run of deals each such reference is
one of its own; it was deleted once if no wrapped object holds it and nobody who took it out of one,
and was not deleted otherwise; and so it is after any further run. -/
theorem wrapped_objects_share_references :
    (∀ m : Machine, m.exception = none → m.Docile → ¬ m.Fails .newGlobalRef →
      ∀ b : Binding host, (∀ o, AddsHolder m (wrap b o)) ∧
        ∀ name args, AddsHolder m (wrapNew b name args)) ∧
      ∀ declarations m first more,
        let ws := Deal.takeAll first (dialect.workspace declarations m {})
        let later := Deal.takeAll more ws
        (∀ s i, ws.extra.reference s = some i →
          later.extra.reference s = some i ∧
            ∃ target, later.store.host.references[i]? =
              some ⟨.global, target, if later.extra.holdsShare s then 0 else 1⟩) ∧
          ∀ s s' i, ws.extra.reference s = some i → ws.extra.reference s' = some i → s = s' := by
  refine ⟨fun m clear docile fine b => ⟨fun o => owes_wrap b o clear docile fine,
    fun name args => owes_wrapNew b name args clear docile fine⟩, ?_⟩
  intro declarations m first more ws later
  have settled : Settled ws.extra.shares ws :=
    ((settled_workspace declarations m).takeAll first).now
  have after : Settled ws.extra.shares later := settled.takeAll more
  refine ⟨fun s i is => ?_, settled.accounts.distinct⟩
  have same : later.extra.reference s = some i := Holdings.reference_of_prefix after.accounts.since is
  exact ⟨same, after.deletions same⟩

/-- A constructor whose class is held weakly. -/
def makesWeakly : Declaration := { makes "<init>" "()V" with retention := .weak }

/-- An object is made to be wrapped, the wrapped object is copied and dropped, and the reference is
taken out of the copy. -/
def handOn : List Deal :=
  [.step (.resolve (.ok "makes") (some "b")),
   .step (.special (.wrapNew (.ok "b") (.ok "make") [] (.ok "x"))),
   .step (.special (.copyWrapped (.ok "x") (.ok "y"))),
   .step (.special (.dropWrapped "x")),
   .step (.special (.takeOut (.ok "y") (.ok "g")))]

/-- Who took the reference out still holds it, and it is deleted when it is dropped. -/
theorem wrapped_objects_share_references_handOn :
    (∃ b m t, Binding.resolve host (makes "<init>" "()V") { world := workshop } = (.ok b, m) ∧
      wrapNew b "make" [] m = (.ok (some 3), t) ∧ m.Owes [(3, .global)] t) ∧
    let ws := Deal.takeAll handOn
      (dialect.workspace [("makes", makes "<init>" "()V")] { world := workshop } {})
    let later := Deal.takeAll [.step (.special (.dropGlobal "g"))] ws
    ws.extra.reference 0 = some 3 ∧ ws.extra.globals = [("g", 0)] ∧
      (∃ target, ws.store.host.references[3]? = some ⟨.global, target, 0⟩) ∧
      ∃ target, later.store.host.references[3]? = some ⟨.global, target, 1⟩ := by
  obtain ⟨adds, holders⟩ := wrapped_objects_share_references
  constructor
  · obtain ⟨b, m, resolved, empty, clear, made⟩ : ∃ b m,
        Binding.resolve host (makes "<init>" "()V") { world := workshop } = (.ok b, m) ∧
          m.queue = [] ∧ m.exception = none ∧ (wrapNew b "make" [] m).1 = .ok (some 3) :=
      ⟨_, _, (Progress.resolve_of_found (plans_makes _).1 rfl).trans rfl, rfl, rfl, rfl⟩
    have docile : m.Docile := by
      simp [Machine.Docile, Machine.fate?, Machine.next, empty]
    have fine : ¬ m.Fails .newGlobalRef := by
      simp [Machine.Fails, Machine.fate?, Machine.next, empty]
    have added := (adds m clear docile fine b).2 "make" [] m rfl
    cases run : wrapNew b "make" [] m with
    | mk answer t =>
      rw [run] at made added
      cases made
      obtain ⟨i, same, owes⟩ := added
      cases same
      exact ⟨b, m, t, resolved, run, owes⟩
  · intro ws later
    have is : ws.extra.reference 0 = some 3 := by decide +kernel
    have held : ws.extra.holdsShare 0 = true := by decide +kernel
    have free : later.extra.holdsShare 0 = false := by decide +kernel
    have before : ∃ target, ws.store.host.references[3]? =
        some ⟨.global, target, if ws.extra.holdsShare 0 then 0 else 1⟩ :=
      ((holders _ _ handOn []).1 0 3 is).2
    have after : ∃ target, later.store.host.references[3]? =
        some ⟨.global, target, if later.extra.holdsShare 0 then 0 else 1⟩ :=
      ((holders _ _ handOn [.step (.special (.dropGlobal "g"))]).1 0 3 is).2
    rw [held] at before
    rw [free] at after
    exact ⟨is, by decide +kernel, before, after⟩

/-- With an exception pending the answer of a class lookup is lost, and the reference with it: one
that was pending before, or that was left by an attempt to have the class from a weak reference. -/
theorem wrapNew_loses_class_reference :
    (∃ b m, Binding.resolve host (makes "<init>" "()V") { world := workshop } = (.ok b, m) ∧
      let pending : Machine := { m with exception := some "java/lang/Error" }
      ¬ pending.Fails .newGlobalRef ∧ pending.references.live .local = 0 ∧
        (wrapNew b "make" [] pending).1 = .error (.classNotFound "a/A" .exceptionThrown) ∧
        (wrapNew b "make" [] pending).2.references.live .local = 1) ∧
    ∃ b m, Binding.resolve host makesWeakly { world := workshop } = (.ok b, m) ∧
      let rigged : Machine := { m with queue := [("NewLocalRef", .throws "java/lang/Error")] }
      rigged.exception = none ∧ ¬ rigged.Fails .newGlobalRef ∧ rigged.references.live .local = 0 ∧
        (wrapNew b "make" [] rigged).1 = .error (.classNotFound "a/A" .exceptionThrown) ∧
        (wrapNew b "make" [] rigged).2.references.live .local = 1 := by
  constructor
  · have resolved : Binding.resolve host (makes "<init>" "()V") { world := workshop } = (.ok _, _) :=
      (Progress.resolve_of_found (plans_makes _).1 rfl).trans rfl
    refine ⟨_, _, resolved, ?_, rfl, rfl, rfl⟩
    rintro ⟨fate, queued, -⟩
    cases queued
  · have resolved : Binding.resolve host makesWeakly { world := workshop } = (.ok _, _) :=
      (Progress.resolve_of_found (d := makesWeakly) (plans_makes _).1 rfl).trans rfl
    refine ⟨_, _, resolved, rfl, ?_, rfl, rfl, rfl⟩
    simp [Machine.Fails, Machine.fate?, Machine.next, Function.name]

end HandleCache.Jni

import HandleCache.Proofs.Ownership.Workspace

/-!
# Pins are held as long as their bindings

After each deal the pins that are out are those of the bindings that something still holds, however
often each is shared, and no class reference is left over from the work. So it does not matter in
which order bindings and registries are dropped, nor where a resolution failed.

## Contents

- `Balanced`: a workspace between two deals

## Main statements

- `balanced_take`: each deal leaves the workspace balanced
- `pins_follow_bindings`: the pins after any run of deals
-/

namespace HandleCache.Counting

open HandleCache.Action Script

/-! ## What is held -/

section

variable {ws ws' : Workspace host Unit} {b : BindingId}

theorem holds_of_variable {v : String × BindingId} (there : v ∈ ws.bindings) :
    ws.holds v.2 = true := by
  have any : ws.bindings.any (· == v.2) = true :=
    List.any_eq_true.mpr ⟨v, there, beq_self_eq_true v.2⟩
  simp [Workspace.holds, any]

theorem holds_of_registry {v : String × Registry} {e : String × Registration}
    (there : v ∈ ws.registries) (mem : e ∈ v.2.entries)
    (filled : ws.store.cell e.2.cell = .filled b) : ws.holds b = true := by
  have kept : (Registry.kept (ws.shared v.2)).contains b = true := by
    refine List.contains_iff_mem.mpr (List.mem_filterMap.mpr ⟨e, mem, ?_⟩)
    show (ws.store.cell e.2.cell).binding? = some b
    rw [filled]
    rfl
  have any : ws.registries.any (fun r => (Registry.kept (ws.shared r)).contains b) = true :=
    List.any_eq_true.mpr ⟨v, there, kept⟩
  simp only [Workspace.holds, any, Bool.or_true, Bool.true_or]

theorem holds_of_lasting {l : Deferred} (there : l ∈ ws.lasting)
    (filled : ws.store.cell l.cell = .filled b) : ws.holds b = true := by
  have any : ws.lasting.any (fun l => l.resolved? ws.store == some b) = true := by
    refine List.any_eq_true.mpr ⟨l, there, ?_⟩
    simp [Deferred.resolved?, filled, Cell.binding?]
  simp only [Workspace.holds, any, Bool.or_true]

/-- What is held depends on the variables and the cells alone. -/
theorem holds_congr (bindings : ws'.bindings = ws.bindings)
    (registries : ws'.registries = ws.registries) (lasting : ws'.lasting = ws.lasting)
    (cells : ws'.store.cells = ws.store.cells) : ws'.holds = ws.holds := by
  funext b
  simp only [Workspace.holds, Workspace.shared, Registry.kept, Deferred.resolved?, Store.cell,
    bindings, registries, lasting, cells]

end

/-! ## Giving back -/

section

variable {m : Machine} {ws ws₀ : Workspace host Unit} {s : Store host}

/-- What a store is like after these bindings were given back. -/
structure Returned (gone : List BindingId) (s t : Store host) : Prop where
  bindings : t.bindings = s.bindings
  cells : t.cells = s.cells
  pins : Machine.livePins t.host + gone.countP s.wantsPin = Machine.livePins s.host
  classes : Machine.liveClasses t.host = Machine.liveClasses s.host

theorem Honest.release {binding : Binding host} (honest : Honest binding) (m : Machine) :
    Machine.livePins (binding.release m) +
        (if binding.declaration.retention = .global then 1 else 0) = m.livePins ∧
      Machine.liveClasses (binding.release m) = m.liveClasses := by
  obtain ⟨c, kept⟩ := honest
  unfold Binding.release
  generalize binding.retained = retained at kept ⊢
  generalize binding.declaration.retention = retention at kept ⊢
  cases kept with
  | nothing => exact ⟨Int.add_zero _, rfl⟩
  | weakly => exact ⟨Int.add_zero _, rfl⟩
  | pinned => exact ⟨Int.sub_add_cancel _ _, rfl⟩

/-- A binding that is given back drops its pin, if it has one. -/
theorem returned_release (honest : ∀ b ∈ s.bindings, Honest b) (b : BindingId) :
    Returned [b] s (s.release b) := by
  unfold Store.release
  cases there : s.binding? b with
  | none => exact ⟨rfl, rfl, by simp [Store.wantsPin, there], rfl⟩
  | some binding =>
    obtain ⟨pins, classes⟩ := (honest binding (List.mem_of_getElem? there)).release s.host
    refine ⟨rfl, rfl, ?_, classes⟩
    rw [← pins]
    by_cases global : binding.declaration.retention = .global
    · simp [Store.wantsPin, there, global]
    · simp [Store.wantsPin, there, global]

theorem returned_foldl (honest : ∀ b ∈ s.bindings, Honest b) (gone : List BindingId) :
    Returned gone s (gone.foldl Store.release s) := by
  induction gone generalizing s with
  | nil => exact ⟨rfl, rfl, by simp, rfl⟩
  | cons b rest ih =>
    have first := returned_release honest b
    have others := ih (s := s.release b) (by rwa [first.bindings])
    have wants : (s.release b).wantsPin = s.wantsPin := by
      funext i
      simp only [Store.wantsPin, Store.binding?, first.bindings]
    refine ⟨others.bindings.trans first.bindings, others.cells.trans first.cells, ?_,
      others.classes.trans first.classes⟩
    have pins := others.pins
    have drops := first.pins
    rw [wants] at pins
    rw [List.countP_cons, List.foldl_cons]
    rw [List.countP_singleton] at drops
    omega

/-! ## Between two deals -/

/-- The workspace between two deals: what was given back is not held, and all else is. -/
structure Balanced (m : Machine) (ws : Workspace host Unit) : Prop where
  pins : Machine.livePins ws.store.host = m.livePins + ws.store.pinsDue ws.released
  classes : Machine.liveClasses ws.store.host = m.liveClasses
  honest : ∀ b ∈ ws.store.bindings, Honest b
  earlier : ∀ b ∈ ws.released, b < ws.store.bindings.length
  held : ∀ b, ws.holds b = true → b ∉ ws.released
  given : ∀ b < ws.store.bindings.length, b ∉ ws.released → ws.holds b = true
  deferred : ∀ v ∈ ws.deferred, v.2 ∈ ws.lasting

theorem balanced_workspace (declarations : Variables Declaration) (m : Machine) :
    Balanced m (dialect.workspace declarations m ()) where
  pins := (Int.add_zero _).symm
  classes := rfl
  honest := nofun
  earlier := nofun
  held := nofun
  given := nofun
  deferred := nofun

/-- A deal begins with what is held, and all cells that anything is held by are covered. -/
theorem Balanced.midway (balanced : Balanced m ws) : Midway m ws ws where
  store :=
    { pins := balanced.pins
      classes := balanced.classes
      honest := balanced.honest
      earlier := balanced.earlier
      bindings := Nat.le_refl _
      cells := Nat.le_refl _
      filled := fun _ _ filled => .inl filled }
  released := rfl
  bindings := fun _ there => .inl (holds_of_variable there)
  registries := fun _ there _ mem _ filled => holds_of_registry there mem filled
  lasting := fun _ there _ filled => holds_of_lasting there filled
  deferred := balanced.deferred

/-- What remains of a deal is given back, and nothing that was given back before is held. -/
theorem Midway.balanced (midway : Midway m ws₀ ws)
    (held : ∀ b, ws₀.holds b = true → b ∉ ws₀.released)
    (earlier : ∀ b ∈ ws₀.released, b < ws₀.store.bindings.length) :
    Balanced m (dialect.tidy ws) := by
  let gone := unheld ws.store.bindings.length ws.released ws.holds
  have collected : dialect.tidy ws = { ws with
      store := gone.foldl Store.release ws.store, released := ws.released ++ gone } := by
    show ws.collect dialect.holds = _
    simp only [Workspace.collect, dialect, Bool.or_false, gone]
  have returned := returned_foldl midway.store.honest gone
  have holds : (dialect.tidy ws).holds = ws.holds := by
    rw [collected]
    exact holds_congr rfl rfl rfl returned.cells
  have fresh (b : BindingId) (h : ws.holds b = true) : b ∉ ws.released := by
    rw [midway.released]
    intro old
    rcases midway.heir h with before | new
    · exact held b before old
    · exact absurd (earlier b old) (Nat.not_lt_of_le new)
  rw [collected] at holds ⊢
  refine ⟨?pins, returned.classes.trans midway.store.classes, ?honest, ?earlier, ?held, ?given,
    midway.deferred⟩
  case pins =>
    have due : Store.pinsDue ws.released ws.store =
        Store.pinsDue (ws.released ++ gone) ws.store + gone.countP ws.store.wantsPin :=
      Store.pinsDue_eq_add ws.holds
    have same : Store.pinsDue (ws.released ++ gone) (gone.foldl Store.release ws.store) =
        Store.pinsDue (ws.released ++ gone) ws.store := by
      simp only [Store.pinsDue, Store.wantsPin, Store.binding?, returned.bindings]
    have before := midway.store.pins
    have after := returned.pins
    rw [← midway.released, due] at before
    show Machine.livePins (gone.foldl Store.release ws.store).host = m.livePins +
      (Store.pinsDue (ws.released ++ gone) (gone.foldl Store.release ws.store) : Int)
    rw [same]
    omega
  case honest =>
    rw [returned.bindings]
    exact midway.store.honest
  case earlier =>
    intro b there
    rw [returned.bindings]
    rcases List.mem_append.mp there with old | new
    · exact midway.store.earlier b (midway.released ▸ old)
    · exact (unheld_of_mem new).2.2
  case held =>
    intro b h
    rw [holds] at h
    intro there
    rcases List.mem_append.mp there with old | new
    · exact fresh b h old
    · cases h.symm.trans (unheld_of_mem new).1
  case given =>
    intro b there kept
    rw [returned.bindings] at there
    rw [holds]
    obtain ⟨old, new⟩ := not_or.mp (mt List.mem_append.mpr kept)
    by_contra unheld
    exact new (by simp [gone, Script.unheld, there, old, unheld])

/-- Each deal leaves the workspace balanced. -/
theorem balanced_take (balanced : Balanced m ws) (deal : Deal) : Balanced m (deal.take ws) := by
  have prepared : Balanced m (dialect.prepare ws) := { balanced with }
  have midway := (Deal.keeps_perform deal).keeps.state prepared.midway
  exact midway.balanced prepared.held prepared.earlier

theorem balanced_takeAll (balanced : Balanced m ws) (deals : List Deal) :
    Balanced m (Deal.takeAll deals ws) := by
  induction deals generalizing ws with
  | nil => exact balanced
  | cons deal rest ih => exact ih (balanced_take balanced deal)

end

/-! ## Pins and bindings -/

/-- After any run of deals the pins that are out are those of the bindings that something holds and
whose class is to be pinned, each once, and no class reference is out; a binding keeps its class
exactly if its declaration does not let it drop; and a resolution that fails leaves no pin behind.
The counts are told from those of the machine that it all began with. -/
theorem pins_follow_bindings (declarations : Variables Declaration) (m : Machine)
    (deals : List Deal) :
    let ws := Deal.takeAll deals (dialect.workspace declarations m ())
    Machine.livePins ws.store.host = m.livePins + ws.live.countP ws.store.wantsPin ∧
      Machine.liveClasses ws.store.host = m.liveClasses ∧
      (∀ b ∈ ws.store.bindings, b.keepsClass = true ↔ b.declaration.retention ≠ .drop) ∧
      ∀ d fault t, Binding.resolve host d ws.store.host = (.error fault, t) →
        Machine.livePins t = Machine.livePins ws.store.host ∧
          Machine.liveClasses t = Machine.liveClasses ws.store.host := by
  intro ws
  have balanced : Balanced m ws := balanced_takeAll (balanced_workspace declarations m) deals
  refine ⟨?_, balanced.classes, fun b there => (balanced.honest b there).keepsClass_iff, ?_⟩
  · rw [balanced.pins, Workspace.countP_live]
    exact fun b there => ⟨balanced.held b, balanced.given b there⟩
  · exact fun d fault t failed => pins_of_resolve_error failed

/-- Counters whose class is pinned, and nothing else. -/
def pinnedCounter : Declaration where
  className := "test/Counter"
  operations := []
  retention := .global

/-- A binding of its own and one of a registry are made, and the variable of the second is dropped;
then pinning fails, and a third binding with it. -/
def failingPin : List Deal :=
  [.step (.resolve (.ok "counter") (some "own")),
   .step (.registry (.ok "shared")),
   .step (.request (.ok "shared") (.ok "counter") (some "other")),
   .step (.drop (.ok "other") (.ok .binding)),
   .step (.special (.failPins true)),
   .step (.resolve (.ok "counter") (some "third"))]

/-- Both bindings are held to the end, the second by the registry, and their pins are out. A
resolution that fails then leaves them so. -/
theorem pins_follow_bindings_failingPin :
    let ws := Deal.takeAll failingPin (dialect.workspace [("counter", pinnedCounter)] {} ())
    let again := Binding.resolve host pinnedCounter ws.store.host
    ws.live = [0, 1] ∧ Machine.livePins ws.store.host = 2 ∧ Machine.liveClasses ws.store.host = 0 ∧
      again.1 = .error (.classNotRetained "test/Counter"
        (.thrown "global reference table is full")) ∧ Machine.livePins again.2 = 2 := by
  intro ws again
  obtain ⟨pins, classes, -, failed⟩ :=
    pins_follow_bindings [("counter", pinnedCounter)] {} failingPin
  have both : Machine.livePins ws.store.host = 2 := pins.trans rfl
  have refused : again.1 = .error (.classNotRetained "test/Counter"
    (.thrown "global reference table is full")) := rfl
  exact ⟨rfl, both, classes, refused, (failed _ _ again.2 (Prod.ext refused rfl)).1.trans both⟩

end HandleCache.Counting

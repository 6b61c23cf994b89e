import HandleCache.Proofs.Registry.Outcome
import HandleCache.Proofs.Requests.Discipline
import HandleCache.Proofs.Threads.Start
import HandleCache.Vm.Counting
import Mathlib.Data.List.Nodup

/-!
# Registries between two operations

The entries of a registry, its cells and its count are kept apart, and a first request that fails
makes an entry and takes it away again. Between two operations they agree nevertheless: each thing
that can happen leaves a tidy registry tidy, by what an inquiry can come to.

## Contents

- `Shared.Recalls`: what a registry answers where a class is resolved
- `Shared.Coherent`: what a program can rely on

## Main statements

- `Framed.enlist`, `Framed.keep`: an entry is added, a binding is kept
- `Tidy.outcome`: a registry is tidy after each answer
- `Tidy.settleAll`: it is so wherever a preload stops
- `Reached.tidy`: it is so after every run
- `coherent_of_reached`: every registry that is come by is coherent
-/

namespace HandleCache

variable {H : Host}

/-- What is counted once more is counted. -/
theorem countP_or_eq {α : Type} [DecidableEq α] {l : List α} {f : α → Bool} {x : α}
    (nodup : l.Nodup) (mem : x ∈ l) (fresh : f x = false) :
    l.countP (fun p => f p || decide (p = x)) = l.countP f + 1 := by
  obtain ⟨before, after, rfl⟩ := List.append_of_mem mem
  -- Neither in front of it nor behind it does it stand again.
  have elsewhere := (List.nodup_cons.mp (List.nodup_middle.mp nodup)).1
  have others : ∀ part : List α, (∀ p ∈ part, p ∈ before ++ after) →
      part.countP (fun p => f p || decide (p = x)) = part.countP f := by
    intro part within
    apply List.countP_congr
    intro p hp
    have other : p ≠ x := by
      rintro rfl
      exact elsewhere (within p hp)
    simp [other]
  rw [List.countP_append, List.countP_append, List.countP_cons, List.countP_cons,
    others before fun p hp => List.mem_append_left after hp,
    others after fun p hp => List.mem_append_right before hp]
  simp [fresh, Nat.add_assoc]

namespace Shared

variable {s : Shared H} {name : String} {entry : Registration} {d : Declaration}
  {binding : Binding H} {h h' : H.State}

/-! ## What leaves a registry in shape -/

theorem Framed.spare (framed : s.Framed) : s.spare.Framed where
  names := framed.names
  keyed := framed.keyed
  cells := framed.cells
  idle p hp := by
    obtain ⟨there, idle⟩ := framed.idle p hp
    rw [cell_spare]
    exact ⟨by simpa [Shared.spare] using Nat.lt_succ_of_lt there, idle⟩
  made p hp b := by
    rw [cell_spare]
    exact framed.made p hp b
  counted := by
    simp only [isResolved, cell_spare]
    exact framed.counted

theorem mem_enlist {predeclared : Bool} {p : String × Registration} :
    p ∈ (s.enlist predeclared d).registry.entries ↔
      p ∈ s.registry.entries ∨ p = (d.className, ⟨d, predeclared, s.store.cells.length⟩) := by
  simp [Shared.enlist, Registry.insert]

/-- A class that was not known gets an entry that is not resolved. -/
theorem Framed.enlist (framed : s.Framed) (new : s.registry.find? d.className = none)
    (predeclared : Bool) : (s.enlist predeclared d).Framed where
  names := by
    simp only [Shared.enlist, Registry.insert, List.map_append, List.map_cons, List.map_nil]
    refine List.nodup_append.mpr ⟨framed.names, by simp, ?_⟩
    rintro _ known _ same rfl
    obtain ⟨p, hp, hname⟩ := List.mem_map.mp known
    exact Registry.ne_of_find?_eq_none new p hp (hname.trans (List.mem_singleton.mp same))
  keyed p hp := by
    rcases mem_enlist.mp hp with old | rfl
    · exact framed.keyed p old
    · rfl
  cells := by
    simp only [Shared.enlist, Registry.insert, List.map_append, List.map_cons, List.map_nil]
    refine List.nodup_append.mpr ⟨framed.cells, by simp, ?_⟩
    rintro _ taken _ same rfl
    -- The new cell is behind those that are taken.
    obtain ⟨p, hp, hcell⟩ := List.mem_map.mp taken
    have there := (framed.idle p hp).1
    rw [hcell, List.mem_singleton.mp same] at there
    exact Nat.lt_irrefl _ there
  idle p hp := by
    rcases mem_enlist.mp hp with old | rfl
    · obtain ⟨there, idle⟩ := framed.idle p old
      rw [cell_enlist]
      exact ⟨by simpa [Shared.enlist] using Nat.lt_succ_of_lt there, idle⟩
    · refine ⟨by simp [Shared.enlist], ?_⟩
      intro empty
      rw [cell_enlist_new] at empty
      cases empty
  made p hp b filled := by
    rcases mem_enlist.mp hp with old | rfl
    · rw [cell_enlist] at filled
      exact framed.made p old b filled
    · simp only [cell_enlist_new] at filled
      cases filled
  counted := by
    -- The new entry does not count, and the others count as before.
    have new : (s.enlist predeclared d).isResolved ⟨d, predeclared, s.store.cells.length⟩ =
        false := by
      simp only [isResolved, cell_enlist_new]
      rfl
    have old : ∀ e, (s.enlist predeclared d).isResolved e = s.isResolved e := by
      intro e
      simp only [isResolved, cell_enlist]
    have entries : (s.enlist predeclared d).registry.entries =
        s.registry.entries ++ [(d.className, ⟨d, predeclared, s.store.cells.length⟩)] := rfl
    rw [entries, List.countP_append, List.countP_singleton, new]
    simp only [old]
    exact framed.counted

/-! ## A binding that is kept -/

theorem binding?_keep_self (s : Shared H) (c : CellId) (binding : Binding H) (h : H.State) :
    (s.keep c binding h).store.binding? s.store.bindings.length = some binding := by
  simp [Store.binding?, Shared.keep]

theorem binding?_keep_of_some {b : BindingId} {old : Binding H}
    (there : s.store.binding? b = some old) (c : CellId) :
    (s.keep c binding h).store.binding? b = some old := by
  have bound : b < s.store.bindings.length := (List.getElem?_eq_some_iff.mp there).1
  simpa [Store.binding?, Shared.keep, List.getElem?_append_left bound] using there

section

variable (framed : s.Framed) (known : (name, entry) ∈ s.registry.entries)
include framed known

theorem Framed.cell_keep (c : CellId) :
    (s.keep entry.cell binding h).store.cell c =
      if c = entry.cell then .filled s.store.bindings.length else s.store.cell c :=
  Store.cell_setCell (framed.idle _ known).1

/-- No other entry has the cell. -/
theorem Framed.eq_of_cell_eq {p : String × Registration} (hp : p ∈ s.registry.entries)
    (same : p.2.cell = entry.cell) : p = (name, entry) :=
  List.inj_on_of_nodup_map framed.cells hp known same

/-- What is resolved stays so, and the entry joins it. -/
theorem Framed.isResolved_keep (p : String × Registration) (hp : p ∈ s.registry.entries) :
    (s.keep entry.cell binding h).isResolved p.2 =
      (s.isResolved p.2 || decide (p = (name, entry))) := by
  rw [isResolved, framed.cell_keep known]
  by_cases same : p.2.cell = entry.cell
  · rw [if_pos same, framed.eq_of_cell_eq known hp same]
    simp [Cell.binding?]
  · have other : p ≠ (name, entry) := by
      rintro rfl
      exact same rfl
    rw [if_neg same]
    simp [other, isResolved]

theorem Framed.keep (empty : s.store.cell entry.cell = .empty)
    (resolved : Binding.resolve H entry.declaration h = (.ok binding, h')) :
    (s.keep entry.cell binding h').Framed where
  names := framed.names
  keyed := framed.keyed
  cells := framed.cells
  idle p hp := by
    obtain ⟨there, idle⟩ := framed.idle p hp
    refine ⟨by simpa [Shared.keep] using there, ?_⟩
    rw [framed.cell_keep known]
    split
    · exact nofun
    · exact idle
  made p hp b filled := by
    rw [framed.cell_keep known] at filled
    split at filled
    -- The cell holds the new binding if it is that of the entry, and else what it held.
    · next same =>
      cases filled
      obtain rfl := framed.eq_of_cell_eq known hp same
      exact ⟨binding, h, h', binding?_keep_self s entry.cell binding h', resolved⟩
    · obtain ⟨old, h₀, h₁, there, run⟩ := framed.made p hp b filled
      exact ⟨old, h₀, h₁, binding?_keep_of_some there entry.cell, run⟩
  counted := by
    have fresh : s.isResolved entry = false := by
      rw [isResolved, empty]
      rfl
    have nodup : s.registry.entries.Nodup := List.Nodup.of_map _ framed.names
    have counts := countP_or_eq (f := fun p : String × Registration => s.isResolved p.2) nodup known
      fresh
    show s.registry.resolutions + 1 =
      s.registry.entries.countP fun p => (s.keep entry.cell binding h').isResolved p.2
    rw [framed.counted, ← counts]
    exact (List.countP_congr fun p hp => by rw [framed.isResolved_keep known p hp]).symm

end

/-! ## What leaves a registry tidy -/

theorem Tidy.withHost (tidy : s.Tidy) (h : H.State) : (s.withHost h).Tidy :=
  { tidy with }

theorem Tidy.told (tidy : s.Tidy) (e : LogEntry) : (s.told e).Tidy :=
  tidy.withHost _

theorem Tidy.spare (tidy : s.Tidy) : s.spare.Tidy where
  toFramed := tidy.toFramed.spare
  settled p hp predeclared := by
    rw [isResolved, cell_spare]
    exact tidy.settled p hp predeclared

/-- A class that is declared in front need not be resolved. -/
theorem Tidy.declare (tidy : s.Tidy) (new : s.registry.find? d.className = none) :
    (s.enlist true d).Tidy where
  toFramed := tidy.toFramed.enlist new true
  settled p hp predeclared := by
    rcases mem_enlist.mp hp with old | rfl
    · rw [isResolved, cell_enlist]
      exact tidy.settled p old predeclared
    · cases predeclared

theorem Tidy.keep (tidy : s.Tidy) (known : (name, entry) ∈ s.registry.entries)
    (empty : s.store.cell entry.cell = .empty)
    (resolved : Binding.resolve H entry.declaration h = (.ok binding, h')) :
    (s.keep entry.cell binding h').Tidy where
  toFramed := tidy.toFramed.keep known empty resolved
  settled p hp predeclared := by
    rw [tidy.toFramed.isResolved_keep known p hp, tidy.settled p hp predeclared, Bool.true_or]

/-- A class that is enlisted and resolved leaves nothing unresolved that was not declared in
front. -/
theorem Tidy.enlist_keep (tidy : s.Tidy) (new : s.registry.find? d.className = none)
    (resolved : Binding.resolve H d h = (.ok binding, h')) :
    ((s.enlist false d).keep s.store.cells.length binding h').Tidy := by
  have framed := tidy.toFramed.enlist new false
  have known : (d.className, ⟨d, false, s.store.cells.length⟩) ∈
      (s.enlist false d).registry.entries := mem_enlist.mpr (.inr rfl)
  have empty := cell_enlist_new s false d
  refine ⟨framed.keep known empty resolved, fun p hp predeclared => ?_⟩
  rw [framed.isResolved_keep known p hp]
  rcases mem_enlist.mp hp with old | rfl
  · have before := tidy.settled p old predeclared
    rw [isResolved, cell_enlist]
    rw [isResolved] at before
    rw [before, Bool.true_or]
  · simp

/-! ## Operations -/

/-- Whatever an inquiry is answered with, the registry is tidy afterwards. -/
theorem Tidy.outcome {t : Shared H} {q : Inquiry} {a : Except (Fault H.Failure) BindingId}
    (tidy : s.Tidy) (outcome : q.Outcome s a t) : t.Tidy := by
  cases outcome with
  | conflict | unknown => exact tidy
  | found => exact tidy.told _
  | resolved seeks empty resolved =>
    exact tidy.keep (Registry.mem_of_find? seeks.1) empty resolved
  | unresolved => exact tidy.withHost _
  | enlisted new resolved => exact tidy.enlist_keep new resolved
  | forgotten => exact (tidy.spare.withHost _).told _

theorem Tidy.answer (tidy : s.Tidy) (q : Inquiry) : (Registry.answer q s).2.Tidy :=
  tidy.outcome (tidy.outcome_answer q)

/-- An entry is found by the name of its declaration's class. -/
theorem Framed.find? (framed : s.Framed) {p : String × Registration}
    (hp : p ∈ s.registry.entries) :
    s.registry.find? p.2.declaration.className = some p.2 := by
  apply Registry.find?_of_mem framed.names
  rw [← framed.keyed p hp]
  exact hp

theorem Framed.find?_of_pending (framed : s.Framed) (pending : entry ∈ s.pending) :
    s.registry.find? entry.declaration.className = some entry := by
  obtain ⟨p, hp, rfl⟩ := List.mem_map.mp (List.mem_filter.mp pending).1
  exact framed.find? hp

/-- Known entries are resolved one after the other, and the registry stays tidy, wherever this
stops. -/
theorem Tidy.settleAll {visit : List Registration} (tidy : s.Tidy)
    (known : ∀ e ∈ visit, s.registry.find? e.declaration.className = some e) :
    (Registry.settleAll visit s).2.Tidy := by
  -- By induction on what is left to visit; to settle an entry leaves the entries to find as they are.
  induction visit generalizing s with
  | nil => exact tidy
  | cons entry rest ih =>
    obtain ⟨first, others⟩ := List.forall_mem_cons.mp known
    have settled := tidy.answer (.named entry.declaration.className)
    have entries := entries_settle entry.cell entry.declaration s
    rw [Registry.answer, ← settle_eq_named first] at settled
    cases run : settle entry.cell entry.declaration s with
    | mk answer t =>
      rw [run] at settled entries
      cases answer with
      | error fault =>
        rw [Registry.settleAll, Action.bind_of_error run]
        exact settled
      | ok b =>
        rw [Registry.settleAll, Action.bind_of_ok run]
        apply ih settled
        intro e he
        rw [Registry.find?, entries]
        exact others e he

theorem Tidy.afterOne (tidy : s.Tidy) (x : Registry.Happening H) : (s.afterOne x).Tidy := by
  cases x with
  | inquiry q => exact tidy.answer q
  | preload arrangement =>
    apply (tidy.told (.preloading (arrangement.order s.pending).length)).settleAll
    intro e he
    exact tidy.find?_of_pending ((arrangement.perm s.pending).subset he)
  | peek name => exact tidy
  | elsewhere h => exact tidy.withHost h

theorem Tidy.predeclare {ds : List Declaration} (tidy : s.Tidy)
    (distinct : (ds.map (·.className)).Nodup)
    (new : ∀ d ∈ ds, s.registry.find? d.className = none) : (Registry.predeclare ds s).Tidy := by
  induction ds generalizing s with
  | nil => exact tidy
  | cons d rest ih =>
    obtain ⟨first, others⟩ := List.nodup_cons.mp distinct
    apply ih (tidy.declare (new d List.mem_cons_self)) others
    intro d' hd'
    have other : d'.className ≠ d.className := fun same =>
      first (List.mem_map.mpr ⟨d', hd', same⟩)
    rw [Shared.enlist, Registry.find?_insert (new d List.mem_cons_self), if_neg other]
    exact new d' (List.mem_cons_of_mem d hd')

/-- However a registry was made and whatever has happened to it, it is tidy between two
operations. -/
theorem Reached.tidy (reached : s.Reached) : s.Tidy := by
  induction reached with
  | @made ds store store' r accepted =>
    unfold Registry.ofDeclarations at accepted
    split at accepted
    · next known distinct =>
      cases accepted
      -- A registry without entries is tidy over any store.
      have bare : ({ store } : Shared H).Tidy := by
        constructor
        · constructor <;> simp
        · simp
      have none : (([] : List Declaration).map (·.className)).Nodup := List.nodup_nil
      exact bare.predeclare (Registry.nodup_of_distinct none distinct) fun _ _ => rfl
    · cases accepted
  | next x _ tidy => exact tidy.afterOne x

/-! ## What a program can rely on -/

/-- A binding is what a registry answers for the class of an entry, in whichever way it is asked; and
the host is told that it is there, and asked for nothing. -/
structure Recalls (s : Shared H) (p : String × Registration) (b : BindingId) : Prop where
  peeked : Registry.peek s p.1 = some b
  named : Registry.named p.1 s = (.ok b, s.told (.alreadyResolved p.1))
  requested : Registry.request p.2.declaration s = (.ok b, s.told (.alreadyResolved p.1))
  /-- No declaration of the class is answered with another binding. -/
  unanimous : ∀ d b', d.className = p.1 → (Registry.request d s).1 = .ok b' →
    Registry.request d s = (.ok b, s.told (.alreadyResolved p.1))

/-- What holds of a registry between two operations, as a program can tell. -/
structure Coherent (s : Shared H) : Prop where
  /-- An entry is found under the name of its declaration's class. -/
  keyed : ∀ p ∈ s.registry.entries, p.1 = p.2.declaration.className
  /-- What was not declared in front is resolved. -/
  settled : ∀ p ∈ s.registry.entries, p.2.predeclared = false → s.isResolved p.2 = true
  /-- What is resolved was resolved from the declaration of the entry. -/
  made : ∀ p ∈ s.registry.entries, ∀ b, s.store.cell p.2.cell = .filled b →
    ∃ binding h h', s.store.binding? b = some binding ∧ binding.declaration = p.2.declaration ∧
      Binding.resolve H p.2.declaration h = (.ok binding, h')
  counted : s.registry.resolutions = s.registry.entries.countP fun p => s.isResolved p.2
  /-- Each class is listed once, in ascending order. -/
  listed : s.registry.classNames.Pairwise (· < ·) ∧
    ∀ name, name ∈ s.registry.classNames ↔ ∃ entry, (name, entry) ∈ s.registry.entries
  /-- What is resolved is answered as it is. -/
  served : ∀ p ∈ s.registry.entries, ∀ b, s.store.cell p.2.cell = .filled b → s.Recalls p b

theorem Framed.listed (framed : s.Framed) : s.registry.classNames.Pairwise (· < ·) ∧
    ∀ name, name ∈ s.registry.classNames ↔ ∃ entry, (name, entry) ∈ s.registry.entries := by
  have perm := List.mergeSort_perm (s.registry.entries.map (·.1)) fun a b => decide (a ≤ b)
  constructor
  · have ascending : s.registry.classNames.Pairwise (· ≤ ·) := by
      have sorted : s.registry.classNames.Pairwise fun a b => decide (a ≤ b) = true :=
        List.pairwise_mergeSort (fun a b c => by simpa using String.le_trans)
          (fun a b => by simpa using String.le_total a b) _
      simpa using sorted
    have once : s.registry.classNames.Pairwise (· ≠ ·) := perm.nodup_iff.mpr framed.names
    -- What ascends and does not repeat ascends strictly.
    refine ascending.imp₂ (fun a b le ne => ?_) once
    exact String.not_le.mp fun ge => ne (String.le_antisymm le ge)
  · intro name
    rw [Registry.classNames, perm.mem_iff]
    simp

theorem Tidy.recalls (tidy : s.Tidy) {p : String × Registration} {b : BindingId}
    (hp : p ∈ s.registry.entries) (filled : s.store.cell p.2.cell = .filled b) : s.Recalls p b := by
  have known := tidy.toFramed.find? hp
  rw [← tidy.keyed p hp] at known
  have settled : settle p.2.cell p.2.declaration s = (.ok b, s.told (.alreadyResolved p.1)) := by
    rw [settle_of_filled filled, ← tidy.keyed p hp]
  have requested : ∀ d, p.2.declaration = d →
      Registry.request d s = (.ok b, s.told (.alreadyResolved p.1)) := by
    rintro d rfl
    rw [tidy.request_eq_settle (tidy.toFramed.find? hp) rfl, settled]
  refine ⟨?_, ?_, requested _ rfl, fun d b' named answered => ?_⟩
  · simp [Registry.peek, known, filled, Cell.binding?]
  · simp only [Registry.named, known, settled]
  · by_cases same : p.2.declaration = d
    · exact requested d same
    · -- A request with another declaration is not answered with a binding.
      rw [request_of_conflict (named ▸ known) same] at answered
      cases answered

/-- On every host, whose answers may change from one request to the next: however a registry was
made and whatever has happened to it, each entry is under the name of its class, is resolved unless
it was declared in front, and what it is resolved to was resolved from its declaration; the count is
that of the entries that are resolved; each class is listed once, in order; and what is resolved is
answered as it is, with no request to the host. -/
theorem coherent_of_reached (reached : s.Reached) : s.Coherent where
  keyed := reached.tidy.keyed
  settled := reached.tidy.settled
  made p hp b filled := by
    obtain ⟨binding, h, h', there, resolved⟩ := reached.tidy.made p hp b filled
    exact ⟨binding, h, h', there, Binding.declaration_of_resolve resolved, resolved⟩
  counted := reached.tidy.counted
  listed := reached.tidy.toFramed.listed
  served p hp b filled := reached.tidy.recalls hp filled

/-- A registry that knows a class from the start, has refused a request at odds with it, and has
resolved it. -/
theorem coherent_of_reached_point : ∃ s : Shared Counting.host, s.Reached ∧
    s.registry.resolutions = 1 ∧ Registry.peek s "test/Point" = some 0 ∧ s.Coherent := by
  have made : Registry.ofDeclarations (H := Counting.host)
      [⟨"test/Point", [.field "x" "x" "I"], .drop⟩] { host := {} } = (.ok _, _) := rfl
  have refused := (Reached.made made).next (.inquiry (.declared ⟨"test/Point", [], .drop⟩))
  have loaded := refused.next (.preload ⟨id, fun _ => .refl _⟩)
  exact ⟨_, loaded, rfl, rfl, coherent_of_reached loaded⟩

end Shared

end HandleCache

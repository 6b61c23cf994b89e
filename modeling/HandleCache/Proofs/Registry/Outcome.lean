import HandleCache.Registry.Chronicle
import HandleCache.Registry.Sequential

/-!
# What an inquiry comes to

A registry that nobody else is at work on answers an inquiry in one of seven ways. Each says all
that has become of the registry and its store; in particular the entry that a first request makes is
gone again if the request fails.

## Contents

- `Shared.told`, `Shared.keep`, `Shared.enlist`, `Shared.spare`: what becomes of a registry
- `Shared.Tidy`: what holds of a registry between two operations
- `Inquiry.Outcome`: the ways to be answered

## Main statements

- `outcome_answer`: each answer is one of these
- `settle_eq_named`: to resolve a known entry is to ask for its class by name
-/

namespace HandleCache

variable {H : Host}

/-! ## What becomes of a registry -/

namespace Shared

/-- After the journal of the host was told something. -/
def told (e : LogEntry) (s : Shared H) : Shared H := s.withHost (H.note e s.store.host)

/-- After a binding was made for a cell, and counted; the host is left in this state. -/
def keep (c : CellId) (binding : Binding H) (h : H.State) (s : Shared H) : Shared H where
  registry := { s.registry with resolutions := s.registry.resolutions + 1 }
  store :=
    { host := h
      bindings := s.store.bindings ++ [binding]
      cells := s.store.cells.set c (.filled s.store.bindings.length) }

/-- After a class was inserted, with a new cell. -/
def enlist (predeclared : Bool) (d : Declaration) (s : Shared H) : Shared H where
  registry := s.registry.insert d.className ⟨d, predeclared, s.store.cells.length⟩
  store := { s.store with cells := s.store.cells ++ [.empty] }

/-- With a new cell that no entry has. -/
def spare (s : Shared H) : Shared H :=
  { s with store := { s.store with cells := s.store.cells ++ [.empty] } }

/-- Whether the class of an entry is resolved. -/
def isResolved (s : Shared H) (entry : Registration) : Bool :=
  (s.store.cell entry.cell).binding?.isSome

/-- What holds of a registry between two operations: each class has one entry, under its name and
with a cell of its own that nobody is resolving; what is in a cell was resolved from the declaration
of the entry; and the count is the number of entries that are resolved. -/
structure Framed (s : Shared H) : Prop where
  names : (s.registry.entries.map (·.1)).Nodup
  keyed : ∀ p ∈ s.registry.entries, p.1 = p.2.declaration.className
  cells : (s.registry.entries.map (·.2.cell)).Nodup
  idle : ∀ p ∈ s.registry.entries, p.2.cell < s.store.cells.length ∧ s.store.cell p.2.cell ≠ .busy
  made : ∀ p ∈ s.registry.entries, ∀ b, s.store.cell p.2.cell = .filled b →
    ∃ binding h h', s.store.binding? b = some binding ∧
      Binding.resolve H p.2.declaration h = (.ok binding, h')
  counted : s.registry.resolutions = s.registry.entries.countP fun p => s.isResolved p.2

/-- And a class that was not declared in front is resolved. -/
structure Tidy (s : Shared H) : Prop extends Framed s where
  settled : ∀ p ∈ s.registry.entries, p.2.predeclared = false → s.isResolved p.2 = true

end Shared

/-! ## Answers -/

/-- The entry is that of the class that is asked for, and is not at odds with what is asked. -/
def Inquiry.Seeks (q : Inquiry) (s : Shared H) (entry : Registration) : Prop :=
  s.registry.find? q.className = some entry ∧ ∀ d, q = .declared d → entry.declaration = d

/-- What an inquiry is answered with, and what becomes of the registry. -/
inductive Inquiry.Outcome (s : Shared H) :
    Inquiry → Except (Fault H.Failure) BindingId → Shared H → Prop where
  /-- The class is known with another declaration. -/
  | conflict {d : Declaration} {entry : Registration} :
      s.registry.find? d.className = some entry → entry.declaration ≠ d →
      Outcome s (.declared d) (.error (.conflictingDeclaration d.className)) s
  | unknown {name : String} :
      s.registry.find? name = none → Outcome s (.named name) (.error (.undeclaredClass name)) s
  /-- The binding is there. -/
  | found {q : Inquiry} {entry : Registration} {b : BindingId} :
      q.Seeks s entry → s.store.cell entry.cell = .filled b →
      Outcome s q (.ok b) (s.told (.alreadyResolved entry.declaration.className))
  /-- A class that was declared in front is resolved now. -/
  | resolved {q : Inquiry} {entry : Registration} {binding : Binding H} {h : H.State} :
      q.Seeks s entry → s.store.cell entry.cell = .empty →
      Binding.resolve H entry.declaration s.store.host = (.ok binding, h) →
      Outcome s q (.ok s.store.bindings.length) (s.keep entry.cell binding h)
  /-- A class that was declared in front stays known. -/
  | unresolved {q : Inquiry} {entry : Registration} {fault : Fault H.Failure} {h : H.State} :
      q.Seeks s entry → s.store.cell entry.cell = .empty →
      Binding.resolve H entry.declaration s.store.host = (.error fault, h) →
      Outcome s q (.error fault) (s.withHost h)
  /-- A class that was not known stays known from now on. -/
  | enlisted {d : Declaration} {binding : Binding H} {h : H.State} :
      s.registry.find? d.className = none →
      Binding.resolve H d s.store.host = (.ok binding, h) →
      Outcome s (.declared d) (.ok s.store.bindings.length)
        ((s.enlist false d).keep s.store.cells.length binding h)
  /-- A class that is known from this request alone is forgotten. -/
  | forgotten {d : Declaration} {fault : Fault H.Failure} {h : H.State} :
      s.registry.find? d.className = none →
      Binding.resolve H d s.store.host = (.error fault, h) →
      Outcome s (.declared d) (.error fault) ((s.spare.withHost h).told (.forgetting d.className))

/-! ## Cells -/

namespace Store

variable {s : Store H} {c : CellId}

theorem cell_eq_of_lt (h : c < s.cells.length) : s.cells[c]? = some (s.cell c) := by
  simp [cell, List.getD, h]

/-- To put into a cell what is in it changes nothing. -/
theorem setCell_self (h : c < s.cells.length) : s.setCell c (s.cell c) = s := by
  have same : s.cells.set c (s.cell c) = s.cells := by
    apply List.ext_getElem?
    intro i
    by_cases hi : i = c
    · subst hi
      rw [List.getElem?_set_self h, cell_eq_of_lt h]
    · rw [List.getElem?_set_ne (Ne.symm hi)]
  rw [setCell, same]

theorem cell_of_isSome_eq_false (idle : s.cell c ≠ .busy) (h : (s.cell c).binding?.isSome = false) :
    s.cell c = .empty := by
  cases content : s.cell c with
  | empty => rfl
  | busy => exact absurd content idle
  | filled b =>
    rw [content] at h
    cases h

end Store

namespace Shared

variable {s : Shared H} {c : CellId} {d : Declaration}

theorem isResolved_of_filled {entry : Registration} {b : BindingId}
    (h : s.store.cell entry.cell = .filled b) : s.isResolved entry = true := by
  rw [isResolved, h]
  rfl

theorem settle_of_filled {b : BindingId} (h : s.store.cell c = .filled b) :
    settle c d s = (.ok b, s.told (.alreadyResolved d.className)) := by
  rw [settle, h]
  rfl

theorem settle_of_resolve {binding : Binding H} {h : H.State} (empty : s.store.cell c = .empty)
    (resolved : Binding.resolve H d s.store.host = (.ok binding, h)) :
    settle c d s = (.ok s.store.bindings.length, s.keep c binding h) := by
  have made : s.store.attempt c d = (.ok s.store.bindings.length, (s.keep c binding h).store) := by
    simp only [Store.attempt, Store.resolve, resolved]
    rfl
  simp only [settle, empty, Cell.binding?, attempt, made]
  rfl

/-- An attempt that fails leaves the cell as empty as it was. -/
theorem settle_of_resolve_error {fault : Fault H.Failure} {h : H.State}
    (there : c < s.store.cells.length) (empty : s.store.cell c = .empty)
    (failed : Binding.resolve H d s.store.host = (.error fault, h)) :
    settle c d s = (.error fault, s.withHost h) := by
  have same : (s.withHost h).store.setCell c .empty = (s.withHost h).store := by
    have still : (s.withHost h).store.cell c = .empty := empty
    rw [← still]
    exact Store.setCell_self there
  -- So the `empty` that a failure writes is not seen.
  have left : s.store.attempt c d = (.error fault, (s.withHost h).store) := by
    rw [← same]
    simp only [Store.attempt, Store.resolve, failed]
    rfl
  simp only [settle, empty, Cell.binding?, attempt, left]
  rfl

/-- What is looked for in a cell leaves the entries as they are. -/
theorem entries_settle (c : CellId) (d : Declaration) (s : Shared H) :
    (settle c d s).2.registry.entries = s.registry.entries := by
  unfold settle
  split
  · rfl
  · unfold attempt
    split <;> rfl

end Shared

/-! ## Entries -/

namespace Registry

variable {r : Registry} {name : String} {entry : Registration}

theorem mem_of_find? (h : r.find? name = some entry) : (name, entry) ∈ r.entries :=
  @Board.mem_of_find? ⟨r.entries, [], 0⟩ name entry h

/-- Where each class has one entry at most, that entry is what is found. -/
theorem find?_of_mem (names : (r.entries.map (·.1)).Nodup) (h : (name, entry) ∈ r.entries) :
    r.find? name = some entry :=
  @Board.find?_of_mem ⟨r.entries, [], 0⟩ name entry names h

theorem ne_of_find?_eq_none (h : r.find? name = none) : ∀ p ∈ r.entries, p.1 ≠ name := by
  simpa [find?] using h

/-- An entry that comes and goes leaves the others as they were. -/
theorem erase_insert (h : r.find? name = none) : (r.insert name entry).erase name = r := by
  have kept : r.entries.filter (·.1 != name) = r.entries := by
    apply List.filter_eq_self.mpr
    intro p hp
    simpa using ne_of_find?_eq_none h p hp
  simp [erase, insert, kept]

end Registry

namespace Shared

variable {s : Shared H} {d : Declaration} {entry : Registration}

theorem cell_enlist (s : Shared H) (predeclared : Bool) (d : Declaration) (c : CellId) :
    (s.enlist predeclared d).store.cell c = s.store.cell c :=
  Store.cell_newCell s.store c

theorem cell_spare (s : Shared H) (c : CellId) : s.spare.store.cell c = s.store.cell c :=
  Store.cell_newCell s.store c

/-- The cell that a new entry gets is empty. -/
theorem cell_enlist_new (s : Shared H) (predeclared : Bool) (d : Declaration) :
    (s.enlist predeclared d).store.cell s.store.cells.length = .empty := by
  simp [enlist, Store.cell, List.getD]

theorem find?_enlist (h : s.registry.find? d.className = none) :
    (s.enlist false d).registry.find? d.className = some ⟨d, false, s.store.cells.length⟩ := by
  rw [enlist, Registry.find?_insert h, if_pos rfl]

theorem locate_eq_enlist (h : s.registry.find? d.className = none) :
    locate d s = (.ok ⟨d, false, s.store.cells.length⟩, s.enlist false d) := by
  simp only [locate, h]
  rfl

/-- The entry of a class that is not resolved is withdrawn. -/
theorem withdraw_enlist (h : s.registry.find? d.className = none) (host : H.State) :
    withdraw d.className s.store.cells.length ((s.enlist false d).withHost host) =
      (s.spare.withHost host).told (.forgetting d.className) := by
  have known : ((s.enlist false d).withHost host).registry.find? d.className =
      some ⟨d, false, s.store.cells.length⟩ := find?_enlist h
  -- The cell is as empty as it was made: the host alone has changed since.
  have empty : ((s.enlist false d).withHost host).store.cell s.store.cells.length = .empty :=
    cell_enlist_new s false d
  have gone : (s.enlist false d).registry.erase d.className = s.registry := Registry.erase_insert h
  simp only [withdraw, known, empty, Cell.binding?, and_self, if_true]
  exact congrArg (fun r => Shared.mk r _) gone

theorem request_of_conflict (known : s.registry.find? d.className = some entry)
    (other : entry.declaration ≠ d) :
    Registry.request d s = (.error (.conflictingDeclaration d.className), s) := by
  apply Action.bind_of_error
  simp only [locate, known, if_neg other]

end Shared

namespace Shared.Tidy

variable {s : Shared H} {q : Inquiry} {d : Declaration} {entry : Registration}

/-- What is in the cell of an entry. -/
theorem cell_cases (tidy : s.Tidy)
    (known : s.registry.find? entry.declaration.className = some entry) :
    (∃ b, s.store.cell entry.cell = .filled b) ∨ s.store.cell entry.cell = .empty := by
  cases content : s.store.cell entry.cell with
  | filled b => exact .inl ⟨b, rfl⟩
  | empty => exact .inr rfl
  | busy => exact absurd content (tidy.idle _ (Registry.mem_of_find? known)).2

/-- A request for a class that is known resolves it unless it is there; there is nothing to be
withdrawn, since only a class that was declared in front is not resolved. -/
theorem request_eq_settle (tidy : s.Tidy) (known : s.registry.find? d.className = some entry)
    (same : entry.declaration = d) :
    Registry.request d s = settle entry.cell entry.declaration s := by
  subst same
  have located : locate entry.declaration s = (.ok entry, s) := by
    simp only [locate, known, if_true]
  refine (Action.bind_of_ok located).trans ?_
  cases run : settle entry.cell entry.declaration s with
  | mk answer t =>
    cases answer with
    | ok b => rfl
    | error fault =>
      cases hp : entry.predeclared with
      | true => simp
      | false =>
        -- What was not declared in front is resolved, and to read it does not fail.
        have there := tidy.settled _ (Registry.mem_of_find? known) hp
        rcases tidy.cell_cases known with ⟨b, filled⟩ | empty
        · rw [settle_of_filled filled] at run
          cases run
        · rw [isResolved, empty] at there
          cases there

/-- What comes of the cell of a known entry is one of the ways to be answered. -/
theorem outcome_settle (tidy : s.Tidy) (seeks : q.Seeks s entry) :
    q.Outcome s (settle entry.cell entry.declaration s).1
      (settle entry.cell entry.declaration s).2 := by
  have mem := Registry.mem_of_find? seeks.1
  have known : s.registry.find? entry.declaration.className = some entry := by
    rw [← tidy.keyed _ mem]
    exact seeks.1
  rcases tidy.cell_cases known with ⟨b, filled⟩ | empty
  · rw [settle_of_filled filled]
    exact .found seeks filled
  · cases run : Binding.resolve H entry.declaration s.store.host with
    | mk answer h =>
      cases answer with
      | ok binding =>
        rw [settle_of_resolve empty run]
        exact .resolved seeks empty run
      | error fault =>
        rw [settle_of_resolve_error (tidy.idle _ mem).1 empty run]
        exact .unresolved seeks empty run

/-- A first request makes an entry, and resolves into its cell or takes it away again. -/
theorem outcome_enlist (h : s.registry.find? d.className = none) :
    (Inquiry.declared d).Outcome s (Registry.request d s).1 (Registry.request d s).2 := by
  have located := locate_eq_enlist h
  have empty := cell_enlist_new s false d
  have there : s.store.cells.length < (s.enlist false d).store.cells.length := by simp [enlist]
  -- A new entry does not change what a resolution starts from.
  cases run : Binding.resolve H d s.store.host with
  | mk answer host =>
    cases answer with
    | ok binding =>
      have made : Registry.request d s =
          (.ok s.store.bindings.length,
            (s.enlist false d).keep s.store.cells.length binding host) := by
        refine (Action.bind_of_ok located).trans ?_
        simp only [settle_of_resolve (s := s.enlist false d) empty run]
        rfl
      rw [made]
      exact .enlisted h run
    | error fault =>
      have gone : Registry.request d s =
          (.error fault, (s.spare.withHost host).told (.forgetting d.className)) := by
        refine (Action.bind_of_ok located).trans ?_
        simp only [settle_of_resolve_error (s := s.enlist false d) there empty run,
          withdraw_enlist h]
        rfl
      rw [gone]
      exact .forgotten h run

/-- Each answer is one of these. -/
theorem outcome_answer (tidy : s.Tidy) (q : Inquiry) :
    q.Outcome s (Registry.answer q s).1 (Registry.answer q s).2 := by
  cases q with
  | named name =>
    show Inquiry.Outcome s _ (Registry.named name s).1 (Registry.named name s).2
    cases known : s.registry.find? name with
    | none =>
      simp only [Registry.named, known]
      exact .unknown known
    | some entry =>
      simp only [Registry.named, known]
      exact tidy.outcome_settle ⟨known, nofun⟩
  | declared d =>
    show Inquiry.Outcome s _ (Registry.request d s).1 (Registry.request d s).2
    cases known : s.registry.find? d.className with
    | none => exact outcome_enlist known
    | some entry =>
      by_cases same : entry.declaration = d
      · rw [tidy.request_eq_settle known same]
        refine tidy.outcome_settle ⟨known, ?_⟩
        rintro _ ⟨⟩
        exact same
      · rw [request_of_conflict known same]
        exact .conflict known same

end Shared.Tidy

/-- To resolve a known entry is to ask for its class by name. -/
theorem settle_eq_named {s : Shared H} {entry : Registration}
    (known : s.registry.find? entry.declaration.className = some entry) :
    Shared.settle entry.cell entry.declaration s =
      Registry.named entry.declaration.className s := by
  simp only [Registry.named, known]

end HandleCache

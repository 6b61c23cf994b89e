import HandleCache.Proofs.Registry.Tidy

/-!
# What a registry is for a program

A program can tell nothing of the cells of a registry. What it can tell is which classes are known,
by which declarations, and what is there for them. This is enough to say how a registry answers:
without cells, and without entries that come and go within one request.

## Contents

- `Standing`, `Outline`: a class as it is known, and a registry without its cells
- `Outline.answer`: how a registry answers, told of its outline
- `Shared.outline`: the outline of a registry with its store

## Main statements

- `Shared.Tidy.outline_answer`: a registry answers as its outline says, and has the outline that is
  said
- `Outline.eq_of_answer_error`: an answer that is an error changes nothing but the host
-/

namespace HandleCache

variable {H : Host}

/-! ## Outlines -/

/-- A class as it is known. -/
structure Standing where
  declaration : Declaration
  predeclared : Bool
  /-- The binding, if it is resolved. -/
  binding? : Option BindingId
  deriving DecidableEq, Repr

/-- A registry without its cells, with the bindings and the host. -/
structure Outline (H : Host) where
  classes : List (String × Standing)
  resolutions : Nat
  bindings : List (Binding H)
  host : H.State

namespace Outline

/-- How a class is known. -/
def find? (o : Outline H) (name : String) : Option Standing :=
  (o.classes.find? (·.1 == name)).map (·.2)

/-- A binding more, for a class among these. -/
def gain (o : Outline H) (classes : List (String × Standing)) (binding : Binding H)
    (host : H.State) : Outline H :=
  ⟨classes, o.resolutions + 1, o.bindings ++ [binding], host⟩

/-- The binding of a class, which is resolved unless it is there. -/
def settle (name : String) (standing : Standing) : Action (Outline H) (Fault H.Failure) BindingId :=
  fun o =>
    match standing.binding? with
    | some b => (.ok b, { o with host := H.note (.alreadyResolved name) o.host })
    | none =>
      match Binding.resolve H standing.declaration o.host with
      | (.ok binding, host) =>
        let filled (p : String × Standing) : String × Standing :=
          if p.1 = name then (p.1, { p.2 with binding? := some o.bindings.length }) else p
        (.ok o.bindings.length, o.gain (o.classes.map filled) binding host)
      | (.error fault, host) => (.error fault, { o with host })

/-- The binding that is asked for. A class becomes known by a request that is answered. -/
def answer : Inquiry → Action (Outline H) (Fault H.Failure) BindingId
  | .named name, o =>
    match o.find? name with
    | some standing => settle name standing o
    | none => (.error (.undeclaredClass name), o)
  | .declared d, o =>
    match o.find? d.className with
    | some standing =>
      if standing.declaration = d then settle d.className standing o
      else (.error (.conflictingDeclaration d.className), o)
    | none =>
      match Binding.resolve H d o.host with
      | (.ok binding, host) =>
        let known := (d.className, ⟨d, false, some o.bindings.length⟩)
        (.ok o.bindings.length, o.gain (o.classes ++ [known]) binding host)
      | (.error fault, host) =>
        (.error fault, { o with host := H.note (.forgetting d.className) host })

/-- An error leaves everything but the host as it was. -/
theorem eq_of_answer_error {o o' : Outline H} {q : Inquiry} {fault : Fault H.Failure}
    (h : answer q o = (.error fault, o')) : o' = { o with host := o'.host } := by
  have settled : ∀ name standing, settle name standing o = (.error fault, o') →
      o' = { o with host := o'.host } := by
    intro name standing h
    unfold settle at h
    split at h
    · cases h
    · split at h
      · cases h
      · cases h
        rfl
  cases q with
  | named name =>
    simp only [answer] at h
    split at h
    · exact settled _ _ h
    · cases h
      rfl
  | declared d =>
    simp only [answer] at h
    split at h
    · split at h
      · exact settled _ _ h
      · cases h
        rfl
    · split at h
      · cases h
      · cases h
        rfl

end Outline

/-! ## The outline of a registry -/

namespace Shared

/-- How the class of an entry is known. -/
def standing (s : Shared H) (entry : Registration) : Standing :=
  ⟨entry.declaration, entry.predeclared, (s.store.cell entry.cell).binding?⟩

/-- What a program can tell of a registry. -/
def outline (s : Shared H) : Outline H where
  classes := s.registry.entries.map fun p => (p.1, s.standing p.2)
  resolutions := s.registry.resolutions
  bindings := s.store.bindings
  host := s.store.host

variable {s : Shared H} {name : String} {entry : Registration} {d : Declaration}
  {binding : Binding H} {h : H.State}

theorem find?_outline (s : Shared H) (name : String) :
    s.outline.find? name = (s.registry.find? name).map s.standing := by
  simp only [Outline.find?, outline, Registry.find?, List.find?_map, Option.map_map]
  rfl

theorem outline_told (s : Shared H) (e : LogEntry) :
    (s.told e).outline = { s.outline with host := H.note e s.store.host } := rfl

theorem outline_withHost (s : Shared H) (h : H.State) :
    (s.withHost h).outline = { s.outline with host := h } := rfl

theorem outline_spare (s : Shared H) : s.spare.outline = s.outline := by
  simp only [outline, standing, cell_spare]
  rfl

theorem outline_keep (framed : s.Framed) (known : (name, entry) ∈ s.registry.entries) :
    (s.keep entry.cell binding h).outline =
      s.outline.gain (s.outline.classes.map fun p =>
        if p.1 = name then (p.1, { p.2 with binding? := some s.store.bindings.length }) else p)
        binding h := by
  have classes : (s.keep entry.cell binding h).outline.classes = s.outline.classes.map fun p =>
      if p.1 = name then (p.1, { p.2 with binding? := some s.store.bindings.length }) else p := by
    simp only [outline, List.map_map]
    apply List.map_congr_left
    intro p hp
    simp only [Function.comp_apply, standing, framed.cell_keep known]
    -- The entry with the cell is the one under the name, and no other.
    by_cases same : p.1 = name
    · have : p = (name, entry) := List.inj_on_of_nodup_map framed.names hp known same
      subst this
      simp [Cell.binding?]
    · have other : p.2.cell ≠ entry.cell := fun hcell =>
        same (congrArg Prod.fst (framed.eq_of_cell_eq known hp hcell))
      rw [if_neg same, if_neg other]
  rw [← classes]
  rfl

/-- A class that is enlisted and resolved joins the others. -/
theorem outline_enlist_keep (framed : s.Framed) (new : s.registry.find? d.className = none) :
    ((s.enlist false d).keep s.store.cells.length binding h).outline =
      s.outline.gain
        (s.outline.classes ++ [(d.className, ⟨d, false, some s.store.bindings.length⟩)])
        binding h := by
  have framed' := framed.enlist new false
  have known : (d.className, ⟨d, false, s.store.cells.length⟩) ∈
      (s.enlist false d).registry.entries := mem_enlist.mpr (.inr rfl)
  have classes : ((s.enlist false d).keep s.store.cells.length binding h).outline.classes =
      s.outline.classes ++ [(d.className, ⟨d, false, some s.store.bindings.length⟩)] := by
    have entries : (s.enlist false d).registry.entries =
        s.registry.entries ++ [(d.className, ⟨d, false, s.store.cells.length⟩)] := rfl
    show (s.enlist false d).registry.entries.map _ = _
    rw [entries, List.map_append]
    congr 1
    · apply List.map_congr_left
      intro p hp
      -- The cells of the others are in front of the new one.
      have there := (framed.idle p hp).1
      have other : p.2.cell ≠ s.store.cells.length := Nat.ne_of_lt there
      simp only [standing, framed'.cell_keep known, if_neg other, cell_enlist]
    · simp only [List.map_cons, List.map_nil, standing, framed'.cell_keep known, if_true]
      rfl
  rw [← classes]
  rfl

/-- What an inquiry comes to is what the outline says, and the outline is then as it says. -/
theorem Tidy.outline_outcome {t : Shared H} {q : Inquiry} {a : Except (Fault H.Failure) BindingId}
    (tidy : s.Tidy) (outcome : q.Outcome s a t) : Outline.answer q s.outline = (a, t.outline) := by
  -- What is sought is known, whichever way it is asked for.
  have sought : ∀ entry, q.Seeks s entry → Outline.answer q s.outline =
      Outline.settle entry.declaration.className (s.standing entry) s.outline := by
    intro entry seeks
    have keyed := tidy.keyed _ (Registry.mem_of_find? seeks.1)
    obtain ⟨known, same⟩ := seeks
    cases q with
    | named name =>
      obtain rfl : name = entry.declaration.className := keyed
      simp only [Inquiry.className] at known
      simp only [Outline.answer, find?_outline, known, Option.map_some]
    | declared d =>
      obtain rfl := same d rfl
      simp only [Inquiry.className] at known
      simp only [Outline.answer, find?_outline, known, Option.map_some, standing, if_true]
  cases outcome with
  -- In each case the outline takes the branch that the registry took.
  | conflict known other =>
    simp only [Outline.answer, find?_outline, known, Option.map_some, standing, if_neg other]
  | unknown unknown => simp only [Outline.answer, find?_outline, unknown, Option.map_none]
  | found seeks filled =>
    rw [sought _ seeks, outline_told]
    simp only [Outline.settle, standing, filled, Cell.binding?]
    rfl
  | @resolved _ entry binding h seeks empty resolved =>
    have known : (entry.declaration.className, entry) ∈ s.registry.entries := by
      have mem := Registry.mem_of_find? seeks.1
      rwa [show q.className = _ from tidy.keyed _ mem] at mem
    rw [sought _ seeks, outline_keep tidy.toFramed known]
    have run : Binding.resolve H (s.standing entry).declaration s.outline.host = (.ok binding, h) :=
      resolved
    simp only [Outline.settle, standing, empty, Cell.binding?] at run ⊢
    rw [run]
    rfl
  | unresolved seeks empty failed =>
    rw [sought _ seeks, outline_withHost]
    have run : Binding.resolve H (s.standing _).declaration s.outline.host = _ := failed
    simp only [Outline.settle, standing, empty, Cell.binding?] at run ⊢
    rw [run]
  | enlisted new resolved =>
    rw [outline_enlist_keep tidy.toFramed new]
    have run : Binding.resolve H _ s.outline.host = _ := resolved
    simp only [Outline.answer, find?_outline, new, Option.map_none, run]
    rfl
  | forgotten new failed =>
    rw [outline_told, outline_withHost, outline_spare]
    have run : Binding.resolve H _ s.outline.host = _ := failed
    simp only [Outline.answer, find?_outline, new, Option.map_none, run]
    rfl

/-- A registry answers as its outline says, and has the outline that is said. -/
theorem Tidy.outline_answer (tidy : s.Tidy) (q : Inquiry) :
    Outline.answer q s.outline = ((Registry.answer q s).1, (Registry.answer q s).2.outline) :=
  tidy.outline_outcome (tidy.outcome_answer q)

end Shared

end HandleCache

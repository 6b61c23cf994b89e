import HandleCache.Proofs.Descriptor.Grammar

/-!
# Descriptors written and read

A descriptor has one text. What was read from a text is written as that text again, and what was
written is read again, unless it is a descriptor that no text spells: a program can put together an
array of `void`, or a class whose name has an empty segment or a character that ends names. The
parameters of a method stand side by side, and are told apart again because each of them shows its
own end.

## Contents

- `TypeDescriptor.WellFormed`, `FieldDescriptor.WellFormed`, `MethodDescriptor.WellFormed`: the
  descriptors that can be spelled
- `Inverse`: reading and writing undo each other

## Main statements

- `fieldWord_iff`, `typeWord_iff`, `methodWord_iff`: a word is what is written of the tree that it
  spells
- `inverse_parse_render`: reading and writing undo each other in all three forms
-/

namespace HandleCache

/-! ## Descriptors that can be spelled -/

/-- The type can be spelled: no array has `void` elements, and a class has segments between the `/`
of its name. -/
structure TypeDescriptor.WellFormed (t : TypeDescriptor) : Prop where
  valued : t.base = .primitive .void → t.dimensions = 0
  named : ∀ className, t.base = .object className → Descriptor.ClassWord className.toList

/-- The type can be spelled, and is not `void`. -/
structure TypeDescriptor.HasValues (t : TypeDescriptor) : Prop where
  wellFormed : t.WellFormed
  ne_void : t ≠ .primitive .void

/-- A field can be spelled if its type has values. -/
def FieldDescriptor.WellFormed (d : FieldDescriptor) : Prop := d.type.HasValues

/-- A method can be spelled if its parameters have values; its result may be `void`. -/
structure MethodDescriptor.WellFormed (d : MethodDescriptor) : Prop where
  parameters : ∀ t ∈ d.parameters, t.HasValues
  result : d.result.WellFormed

namespace TypeDescriptor

@[simp] theorem wellFormed_primitive (p : Primitive) : (primitive p).WellFormed := by
  constructor
  · intro _
    rfl
  · intro className h
    cases h

@[simp] theorem wellFormed_object_iff (className : String) :
    (object className).WellFormed ↔ Descriptor.ClassWord className.toList := by
  refine ⟨fun h => h.named className rfl, fun h => ⟨fun hv => ?_, fun other ho => ?_⟩⟩
  · cases hv
  · cases ho
    exact h

/-- Of an array, exactly the elements have to be types that have values. -/
@[simp] theorem wellFormed_array_iff (t : TypeDescriptor) : (array t).WellFormed ↔ t.HasValues := by
  constructor
  · intro h
    have inner : t.base ≠ .primitive .void := fun hv => absurd (h.valued hv) (Nat.succ_ne_zero _)
    refine ⟨⟨fun hv => absurd hv inner, h.named⟩, ?_⟩
    rintro rfl
    exact inner rfl
  · rintro ⟨h, notVoid⟩
    refine ⟨fun hv => ?_, h.named⟩
    -- Only `void` itself has no dimension and is `void` inside.
    have flat : t.dimensions = 0 := h.valued hv
    cases t with
    | primitive p => exact absurd hv notVoid
    | object className => cases hv
    | array t => cases flat

end TypeDescriptor

namespace Descriptor

/-! ## Words are what is written -/

theorem mem_letters_iff {c : Char} {p : Primitive} :
    (c, p) ∈ letters ↔ c = p.letter ∧ p ≠ .void := by
  cases p <;> simp [letters, Primitive.letter]

/-- A word of `Field` is what is written of a type that has values. -/
theorem fieldWord_iff {w : List Char} {t : TypeDescriptor} :
    FieldWord w t ↔ w = t.chars ∧ t.HasValues := by
  constructor
  · intro h
    induction h with
    | letter hc =>
      obtain ⟨rfl, notVoid⟩ := mem_letters_iff.mp hc
      exact ⟨rfl, by simp, by simpa using notVoid⟩
    | array _ ih =>
      obtain ⟨rfl, valued⟩ := ih
      exact ⟨rfl, by simpa using valued, by simp⟩
    | object word => exact ⟨by simp [TypeDescriptor.chars], by simpa using word, by simp⟩
  · rintro ⟨rfl, h, notVoid⟩
    induction t with
    | primitive p =>
      apply FieldWord.letter
      exact mem_letters_iff.mpr ⟨rfl, by simpa using notVoid⟩
    | object className =>
      have word := FieldWord.object ((TypeDescriptor.wellFormed_object_iff className).mp h)
      simpa [TypeDescriptor.chars] using word
    | array t ih =>
      obtain ⟨valued, inner⟩ := (TypeDescriptor.wellFormed_array_iff t).mp h
      exact .array (ih valued inner)

theorem typeWord_iff {w : List Char} {t : TypeDescriptor} :
    TypeWord w t ↔ w = t.chars ∧ t.WellFormed := by
  constructor
  · intro h
    cases h with
    | field word =>
      obtain ⟨rfl, valued⟩ := fieldWord_iff.mp word
      exact ⟨rfl, valued.wellFormed⟩
    | void => exact ⟨rfl, by simp⟩
  · rintro ⟨rfl, h⟩
    by_cases isVoid : t = .primitive .void
    · subst isVoid
      exact .void
    · apply TypeWord.field
      exact fieldWord_iff.mpr ⟨rfl, h, isVoid⟩

/-- Words side by side are what is written of types side by side. -/
theorem fieldWords_iff {w : List Char} {ts : List TypeDescriptor} :
    FieldWords w ts ↔ w = ts.flatMap TypeDescriptor.chars ∧ ∀ t ∈ ts, t.HasValues := by
  constructor
  · intro h
    induction h with
    | nil => simp
    | cons word _ ih =>
      obtain ⟨rfl, valued⟩ := fieldWord_iff.mp word
      obtain ⟨rfl, others⟩ := ih
      exact ⟨by simp, List.forall_mem_cons.mpr ⟨valued, others⟩⟩
  · rintro ⟨rfl, h⟩
    induction ts with
    | nil => exact .nil
    | cons t ts ih =>
      obtain ⟨valued, others⟩ := List.forall_mem_cons.mp h
      rw [List.flatMap_cons]
      exact .cons (fieldWord_iff.mpr ⟨rfl, valued⟩) (ih others)

theorem methodWord_iff {w : List Char} {d : MethodDescriptor} :
    MethodWord w d ↔ w = d.chars ∧ d.WellFormed := by
  constructor
  · intro h
    cases h with
    | mk words word =>
      obtain ⟨rfl, parameters⟩ := fieldWords_iff.mp words
      obtain ⟨rfl, result⟩ := typeWord_iff.mp word
      exact ⟨rfl, parameters, result⟩
  · rintro ⟨rfl, h⟩
    apply MethodWord.mk
    · exact fieldWords_iff.mpr ⟨rfl, h.parameters⟩
    · exact typeWord_iff.mpr ⟨rfl, h.result⟩

/-! ## Whole texts -/

/-- Reading and writing undo each other: what was read from a text is written as this text, and
exactly what is well formed is read again from what was written. -/
structure Inverse {α : Type} (parse : String → Except ParseError α) (render : α → String)
    (wellFormed : α → Prop) : Prop where
  written (text : String) (a : α) : parse text = .ok a → render a = text
  recovered (a : α) : parse (render a) = .ok a ↔ wellFormed a

theorem Inverse.of_iff {α : Type} {parse : String → Except ParseError α} {render : α → String}
    {wellFormed : α → Prop}
    (read : ∀ text a, parse text = .ok a ↔ text = render a ∧ wellFormed a) :
    Inverse parse render wellFormed where
  written text a h := ((read text a).mp h).1.symm
  recovered a := by simp [read]

/-- Where a word is what is written of the tree that it spells, a text is read as what it is written
of. -/
theorem whole_eq_ok_iff_render {α : Type} {scan : List Char → Scan α}
    {word : List Char → α → Prop} {chars : α → List Char} {wellFormed : α → Prop}
    (taken : ∀ {text left a}, scan text = .ok (a, left) ↔ ∃ w, text = w ++ left ∧ word w a)
    (spelled : ∀ {w a}, word w a ↔ w = chars a ∧ wellFormed a) {text : String} {a : α} :
    whole scan text = .ok a ↔ text = String.ofList (chars a) ∧ wellFormed a := by
  rw [whole_eq_ok_iff taken, spelled, ← String.toList_inj, String.toList_ofList]

/-- Reading and writing undo each other for types, fields and methods. -/
theorem inverse_parse_render :
    Inverse TypeDescriptor.parse TypeDescriptor.render TypeDescriptor.WellFormed ∧
      Inverse FieldDescriptor.parse FieldDescriptor.render FieldDescriptor.WellFormed ∧
      Inverse MethodDescriptor.parse MethodDescriptor.render MethodDescriptor.WellFormed := by
  refine ⟨.of_iff fun text t => ?_, .of_iff fun text d => ?_, .of_iff fun text d => ?_⟩
  · exact whole_eq_ok_iff_render scanType_eq_ok_iff typeWord_iff
  -- A field descriptor is nothing but its type.
  · have read : whole scanField text = .ok d.type ↔ text = d.render ∧ d.WellFormed :=
      whole_eq_ok_iff_render scanField_eq_ok_iff fieldWord_iff
    rw [← read, FieldDescriptor.parse]
    obtain ⟨t⟩ := d
    cases whole scanField text <;> simp [Except.map]
  · exact whole_eq_ok_iff_render scanMethod_eq_ok_iff methodWord_iff

/-- An array of `void` is written, and its text is not read. -/
example : TypeDescriptor.parse (TypeDescriptor.array (.primitive .void)).render =
    .error (.stopped "[V" .unexpectedChar) := by cbv

end Descriptor

end HandleCache

import HandleCache.Outcome
import HandleCache.Proofs.Descriptor.Grammar
import Mathlib.Logic.ExistsUnique

/-!
# Why a text is no descriptor

A scan never goes back, so where it stops tells what the text is. If it stops behind a descriptor,
the text is that descriptor and what follows it. If it runs into the end, the text can be completed.
If it stops at a character, no text that begins like this one is a descriptor. These are exactly
the three reasons that are given for a text that is refused.

## Contents

- `Accepts`, `Overlong`, `Unfinished`: a text that is read, one that goes on behind such a text, and
  one that such a text goes on from
- `Kind`: the four kinds of texts
- `Steady`: a scan that tells the kinds apart by where it stops

## Main statements

- `steady_scanType`, `steady_scanField`, `steady_scanMethod`: the scanners do
- `classified_parse`: a text is of exactly one kind, and the reason for its refusal says of which
-/

namespace HandleCache.Descriptor

/-! ## Kinds of texts -/

section Kinds

variable {α : Type} (parse : String → Except ParseError α)

/-- The text is read. -/
def Accepts (text : String) : Prop := ∃ a, parse text = .ok a

/-- The text begins with one that is read, and `rest` follows it. -/
def Overlong (text rest : String) : Prop :=
  rest ≠ "" ∧ ∃ front, text = front ++ rest ∧ Accepts parse front

/-- A text that is read begins with this one and is longer. -/
def Unfinished (text : String) : Prop := ∃ more, more ≠ "" ∧ Accepts parse (text ++ more)

/-- What a text is, seen from those that are read. -/
inductive Kind where
  | accepted
  | overlong
  | unfinished
  | malformed
  deriving DecidableEq, Repr

/-- Whether a text is of a kind; it is malformed if it is of none of the others. -/
def Kind.Of (text : String) : Kind → Prop
  | accepted => Accepts parse text
  | overlong => ∃ rest, Overlong parse text rest
  | unfinished => Unfinished parse text
  | malformed => ¬Accepts parse text ∧ ¬(∃ rest, Overlong parse text rest) ∧ ¬Unfinished parse text

/-- Each text is of one kind, and is refused for the reason that belongs to its kind. -/
structure Classified : Prop where
  one (text : String) : ∃! kind : Kind, kind.Of parse text
  trailing (text rest : String) :
    parse text = .error (.trailing text rest) ↔ Overlong parse text rest
  endOfText (text : String) :
    parse text = .error (.stopped text .endOfText) ↔ Kind.unfinished.Of parse text
  unexpectedChar (text : String) :
    parse text = .error (.stopped text .unexpectedChar) ↔ Kind.malformed.Of parse text
  /-- A text begins with one that is read in one way only. -/
  front (front rest front' rest' : String) : front ++ rest = front' ++ rest' →
    Accepts parse front → Accepts parse front' → front = front' ∧ rest = rest'
  /-- No text that is read begins another one. -/
  isolated (front rest : String) : Accepts parse front → Accepts parse (front ++ rest) → rest = ""

end Kinds

/-! ## Steady scans -/

/-- What is taken off a text does not depend on what comes behind it; where a scan runs into the
end it can be completed, and where it stops at a character it stops whatever comes later. -/
structure Steady {α : Type} (scan : List Char → Scan α) : Prop where
  taken {text left : List Char} {a : α} :
    scan text = .ok (a, left) ↔ ∃ w, text = w ++ left ∧ scan w = .ok (a, [])
  completed {text : List Char} : scan text = .error .endOfText →
    ∃ more a, scan (text ++ more) = .ok (a, [])
  stuck {text : List Char} : scan text = .error .unexpectedChar →
    ∀ more, scan (text ++ more) = .error .unexpectedChar

namespace Steady

variable {α : Type} {scan : List Char → Scan α}

theorem append_right (h : Steady scan) {text left : List Char} {a : α}
    (scanned : scan text = .ok (a, left)) (more : List Char) :
    scan (text ++ more) = .ok (a, left ++ more) := by
  obtain ⟨w, rfl, word⟩ := h.taken.mp scanned
  rw [List.append_assoc]
  exact h.taken.mpr ⟨w, rfl, word⟩

/-- A scan that takes words off is steady at them. -/
theorem taken_of_word {word : List Char → α → Prop}
    (h : ∀ {text left a}, scan text = .ok (a, left) ↔ ∃ w, text = w ++ left ∧ word w a)
    {text left : List Char} {a : α} :
    scan text = .ok (a, left) ↔ ∃ w, text = w ++ left ∧ scan w = .ok (a, []) := by
  have whole (w : List Char) : scan w = .ok (a, []) ↔ word w a := by simp [h]
  simp only [whole, h]

/-! ### Texts -/

/-- The kind of a text by where its scan stops. -/
def kindOf : Except Stop (α × List Char) → Kind
  | .ok (_, []) => .accepted
  | .ok (_, _ :: _) => .overlong
  | .error .endOfText => .unfinished
  | .error .unexpectedChar => .malformed

theorem accepts_iff {text : String} :
    Accepts (whole scan) text ↔ ∃ a, scan text.toList = .ok (a, []) := by
  unfold Accepts whole
  split
  · next h => simp [h]
  · next h => simp [h]
  · next h => simp [h]

theorem overlong_iff (h : Steady scan) {text rest : String} :
    Overlong (whole scan) text rest ↔ rest ≠ "" ∧ ∃ a, scan text.toList = .ok (a, rest.toList) := by
  unfold Overlong
  simp only [accepts_iff]
  refine and_congr_right fun _ => ⟨?_, ?_⟩
  · rintro ⟨front, rfl, a, scanned⟩
    refine ⟨a, ?_⟩
    rw [String.toList_append]
    exact h.append_right scanned rest.toList
  · rintro ⟨a, scanned⟩
    obtain ⟨w, text', word⟩ := h.taken.mp scanned
    refine ⟨String.ofList w, ?_, a, by simpa using word⟩
    rw [← String.toList_inj, String.toList_append, String.toList_ofList]
    exact text'

theorem unfinished_iff (h : Steady scan) {text : String} :
    Unfinished (whole scan) text ↔ scan text.toList = .error .endOfText := by
  unfold Unfinished
  simp only [accepts_iff, String.toList_append]
  constructor
  · rintro ⟨more, nonempty, a, longer⟩
    -- What the scan of the longer text needs more for, the scan of this one runs out at.
    match scanned : scan text.toList with
    | .ok (b, left) =>
      rw [h.append_right scanned] at longer
      simp [nonempty] at longer
    | .error .unexpectedChar =>
      rw [h.stuck scanned] at longer
      cases longer
    | .error .endOfText => rfl
  · intro ended
    obtain ⟨more, a, longer⟩ := h.completed ended
    refine ⟨String.ofList more, ?_, a, by simpa using longer⟩
    intro nothing
    have none : more = [] := by simpa using nothing
    simp [none, ended] at longer

theorem kind_iff (h : Steady scan) {text : String} {kind : Kind} :
    kind.Of (whole scan) text ↔ kind = kindOf (scan text.toList) := by
  have overlong : (∃ rest, Overlong (whole scan) text rest) ↔
      ∃ a c left, scan text.toList = .ok (a, c :: left) := by
    simp only [h.overlong_iff]
    constructor
    · rintro ⟨rest, nonempty, a, scanned⟩
      obtain ⟨c, left, hr⟩ := List.exists_cons_of_ne_nil (by simpa using nonempty : rest.toList ≠ [])
      exact ⟨a, c, left, hr ▸ scanned⟩
    · rintro ⟨a, c, left, scanned⟩
      exact ⟨String.ofList (c :: left), by simp, a, by simpa using scanned⟩
  cases kind <;> simp only [Kind.Of, accepts_iff, overlong, h.unfinished_iff] <;>
    match scan text.toList with
    | .ok (_, []) | .ok (_, _ :: _) | .error .endOfText | .error .unexpectedChar => simp [kindOf]

/-- What a scan takes off a text is told by the text alone. -/
theorem front_unique (h : Steady scan) (front rest front' rest' : String)
    (same : front ++ rest = front' ++ rest') (accepted : Accepts (whole scan) front)
    (accepted' : Accepts (whole scan) front') : front = front' ∧ rest = rest' := by
  obtain ⟨a, scanned⟩ := accepts_iff.mp accepted
  obtain ⟨b, scanned'⟩ := accepts_iff.mp accepted'
  have both : scan (front ++ rest).toList = .ok (a, rest.toList) := by
    rw [String.toList_append]
    exact h.append_right scanned rest.toList
  rw [same, String.toList_append, h.append_right scanned' rest'.toList] at both
  have rests : rest = rest' := by
    have left : rest'.toList = rest.toList := by simpa using (Prod.mk.inj (Except.ok.inj both)).2
    exact (String.toList_inj.mp left).symm
  subst rests
  exact ⟨String.append_left_inj rest |>.mp same, rfl⟩

/-- A text that is read by a steady scan is of one kind, which the reason of a refusal tells. -/
theorem classified (h : Steady scan) : Classified (whole scan) where
  one text := ⟨kindOf (scan text.toList), h.kind_iff.mpr rfl, fun kind hk => h.kind_iff.mp hk⟩
  trailing text rest := by
    rw [h.overlong_iff]
    unfold whole
    split
    · next a scanned =>
      simp only [scanned, reduceCtorEq, false_iff]
      rintro ⟨nonempty, b, same⟩
      have nothing : [] = rest.toList := (Prod.mk.inj (Except.ok.inj same)).2
      exact nonempty (String.toList_eq_nil_iff.mp nothing.symm)
    · next a c left scanned =>
      simp only [scanned, Except.error.injEq, ParseError.trailing.injEq, true_and, Except.ok.injEq,
        Prod.mk.injEq, exists_eq_left', ← String.toList_inj, String.toList_ofList]
      constructor
      · intro same
        simp [← same, ← String.toList_inj]
      · exact And.right
    · next scanned => simp [scanned]
  endOfText text := by
    simp only [Kind.Of, h.unfinished_iff]
    unfold whole
    split
    · next scanned => simp [scanned]
    · next scanned => simp [scanned]
    · next scanned => simp [scanned]
  unexpectedChar text := by
    rw [h.kind_iff]
    unfold whole
    split
    · next scanned => simp [scanned, kindOf]
    · next scanned => simp [scanned, kindOf]
    · next why scanned => cases why <;> simp [scanned, kindOf]
  front := h.front_unique
  isolated front rest accepted longer := by
    have same := h.front_unique front rest (front ++ rest) "" (by simp) accepted longer
    exact same.2

end Steady

/-! ## The scanners -/

/-! ### Class names -/

/-- A character decides what a scan of a class name does with it, whatever follows. -/
theorem scanClassName_cons (fresh : Bool) (c : Char) :
    (∀ rest, scanClassName fresh (c :: rest) = .error .unexpectedChar) ∨
      (∀ rest, scanClassName fresh (c :: rest) = .ok ([], rest)) ∨
      ∃ next, ∀ rest, scanClassName fresh (c :: rest) =
        (scanClassName next rest).map fun (name, left) => (c :: name, left) := by
  by_cases semicolon : c = ';'
  · cases fresh <;> simp [scanClassName, semicolon]
  by_cases slash : c = '/'
  · cases fresh with
    | true => simp [scanClassName, slash]
    | false => exact .inr (.inr ⟨true, fun rest => by simp [scanClassName, slash]⟩)
  by_cases other : c = '.' ∨ c = '['
  · exact .inl fun rest => by simp [scanClassName, semicolon, slash, other]
  · exact .inr (.inr ⟨false, fun rest => by simp [scanClassName, semicolon, slash, other]⟩)

theorem scanClassName_completed {fresh : Bool} {text : List Char}
    (h : scanClassName fresh text = .error .endOfText) :
    ∃ more name, scanClassName fresh (text ++ more) = .ok (name, []) := by
  induction text generalizing fresh with
  | nil =>
    cases fresh with
    | true => exact ⟨['a', ';'], ['a'], rfl⟩
    | false => exact ⟨[';'], [], rfl⟩
  | cons c rest ih =>
    rcases scanClassName_cons fresh c with refused | ended | ⟨next, goesOn⟩
    · rw [refused] at h
      cases h
    · rw [ended] at h
      cases h
    · rw [goesOn] at h
      obtain ⟨more, name, scanned⟩ := ih (eq_error_of_map h)
      refine ⟨more, c :: name, ?_⟩
      rw [List.cons_append, goesOn, scanned]
      rfl

theorem scanClassName_stuck {fresh : Bool} {text : List Char}
    (h : scanClassName fresh text = .error .unexpectedChar) (more : List Char) :
    scanClassName fresh (text ++ more) = .error .unexpectedChar := by
  induction text generalizing fresh with
  | nil => cases h
  | cons c rest ih =>
    rw [List.cons_append]
    rcases scanClassName_cons fresh c with refused | ended | ⟨next, goesOn⟩
    · exact refused _
    · rw [ended] at h
      cases h
    · rw [goesOn] at h
      rw [goesOn, ih (eq_error_of_map h)]
      rfl

/-! ### Types -/

/-- A character decides what a scan of a type does with it, whatever follows. -/
theorem scanField_cons (c : Char) :
    (∀ rest, scanField (c :: rest) = .error .unexpectedChar) ∨
      (∃ t, ∀ rest, scanField (c :: rest) = .ok (t, rest)) ∨
      (∀ rest, scanField (c :: rest) = (scanField rest).map fun (t, left) => (.array t, left)) ∨
      ∀ rest, scanField (c :: rest) = (scanClassName true rest).map
        fun (name, left) => (.object (String.ofList name), left) := by
  by_cases bracket : c = '['
  · simp [scanField, bracket]
  by_cases object : c = 'L'
  · simp [scanField, object]
  cases letter : Primitive.ofLetter? c with
  | none => simp [scanField, bracket, object, letter]
  | some p => simp [scanField, bracket, object, letter]

theorem steady_scanField : Steady scanField where
  taken := Steady.taken_of_word scanField_eq_ok_iff
  completed {text} h := by
    induction text with
    | nil => exact ⟨['I'], .primitive .int, rfl⟩
    | cons c rest ih =>
      rcases scanField_cons c with refused | ⟨t, taken⟩ | array | object
      · rw [refused] at h
        cases h
      · rw [taken] at h
        cases h
      · rw [array] at h
        obtain ⟨more, t, scanned⟩ := ih (eq_error_of_map h)
        refine ⟨more, .array t, ?_⟩
        rw [List.cons_append, array, scanned]
        rfl
      · rw [object] at h
        obtain ⟨more, name, scanned⟩ := scanClassName_completed (eq_error_of_map h)
        refine ⟨more, .object (String.ofList name), ?_⟩
        rw [List.cons_append, object, scanned]
        rfl
  stuck {text} h more := by
    induction text with
    | nil => cases h
    | cons c rest ih =>
      rw [List.cons_append]
      rcases scanField_cons c with refused | ⟨t, taken⟩ | array | object
      · exact refused _
      · rw [taken] at h
        cases h
      · rw [array] at h
        rw [array, ih (eq_error_of_map h)]
        rfl
      · rw [object] at h
        rw [object, scanClassName_stuck (eq_error_of_map h)]
        rfl

theorem steady_scanType : Steady scanType where
  taken := Steady.taken_of_word scanType_eq_ok_iff
  completed {text} h := by
    match text with
    | [] => exact ⟨['V'], .primitive .void, rfl⟩
    | c :: rest =>
      by_cases isVoid : c = 'V'
      · subst isVoid
        cases h
      · rw [scanType_of_ne isVoid] at h
        obtain ⟨more, t, scanned⟩ := steady_scanField.completed h
        exact ⟨more, t, (scanType_of_ne isVoid (rest ++ more)).trans scanned⟩
  stuck {text} h more := by
    match text with
    | [] => cases h
    | c :: rest =>
      by_cases isVoid : c = 'V'
      · subst isVoid
        cases h
      · rw [scanType_of_ne isVoid] at h
        exact (scanType_of_ne isVoid (rest ++ more)).trans (steady_scanField.stuck h more)

/-! ### Methods -/

/-- What is taken off a text as the parameters of a method is their words and the `)` that ends
them. -/
theorem scanParameters_eq_ok_iff {text left : List Char} {ts : List TypeDescriptor} :
    scanParameters text = .ok (ts, left) ↔
      ∃ w, text = w ++ left ∧ ∃ v, w = v ++ [')'] ∧ FieldWords v ts := by
  constructor
  · intro h
    obtain ⟨v, rfl, words⟩ := fieldWords_of_scan h
    exact ⟨v ++ [')'], by simp, v, rfl, words⟩
  · rintro ⟨_, rfl, v, rfl, words⟩
    rw [List.append_assoc]
    exact scanParameters_of_fieldWords words left

theorem steady_scanParameters : Steady scanParameters where
  taken := Steady.taken_of_word scanParameters_eq_ok_iff
  completed {text} h := by
    -- Each parameter shortens the text, so the induction is on its length.
    induction hn : text.length using Nat.strongRecOn generalizing text with
    | ind n ih =>
      match text with
      | [] => exact ⟨[')'], [], scanParameters_end []⟩
      | c :: rest =>
        by_cases hc : c = ')'
        · subst hc
          rw [scanParameters_end] at h
          cases h
        rw [scanParameters_of_ne hc] at h
        match hf : scanField (c :: rest) with
        | .error why =>
          simp only [hf] at h
          cases h
          obtain ⟨more, t, scanned⟩ := steady_scanField.completed hf
          refine ⟨more ++ [')'], [t], ?_⟩
          have closed := steady_scanField.append_right scanned [')']
          rw [List.append_assoc, List.cons_append] at closed
          rw [List.cons_append, scanParameters_of_ne hc, closed]
          simp [scanParameters_end, Except.map]
        | .ok (t, after) =>
          simp only [hf] at h
          obtain ⟨more, ts, scanned⟩ := ih _ (hn ▸ scanField_shorter hf) (eq_error_of_map h) rfl
          refine ⟨more, t :: ts, ?_⟩
          have taken := steady_scanField.append_right hf more
          rw [List.cons_append] at taken
          rw [List.cons_append, scanParameters_of_ne hc, taken]
          simp [scanned, Except.map]
  stuck {text} h more := by
    induction hn : text.length using Nat.strongRecOn generalizing text with
    | ind n ih =>
      match text with
      | [] => simp [scanParameters, scanField] at h
      | c :: rest =>
        by_cases hc : c = ')'
        · subst hc
          rw [scanParameters_end] at h
          cases h
        rw [scanParameters_of_ne hc] at h
        rw [List.cons_append, scanParameters_of_ne hc, ← List.cons_append]
        match hf : scanField (c :: rest) with
        | .error why =>
          simp only [hf] at h
          cases h
          rw [steady_scanField.stuck hf more]
        | .ok (t, after) =>
          simp only [hf] at h
          rw [steady_scanField.append_right hf more]
          simp [ih _ (hn ▸ scanField_shorter hf) (eq_error_of_map h) rfl, Except.map]

/-- The parameters of a method and its result, one scan after the other. -/
theorem scanMethod_cons (rest : List Char) :
    scanMethod ('(' :: rest) =
      match scanParameters rest with
      | .error why => .error why
      | .ok (parameters, left) =>
        (scanType left).map fun (result, left) => (⟨parameters, result⟩, left) := rfl

theorem steady_scanMethod : Steady scanMethod where
  taken := Steady.taken_of_word scanMethod_eq_ok_iff
  completed {text} h := by
    cases text with
    | nil => exact ⟨['(', ')', 'V'], ⟨[], .primitive .void⟩, by cbv⟩
    | cons c rest =>
      by_cases opening : c = '('
      · subst opening
        rw [scanMethod_cons] at h
        cases hp : scanParameters rest with
        | error why =>
          simp only [hp] at h
          cases h
          obtain ⟨more, ts, scanned⟩ := steady_scanParameters.completed hp
          refine ⟨more ++ ['V'], ⟨ts, .primitive .void⟩, ?_⟩
          have closed := steady_scanParameters.append_right scanned ['V']
          rw [List.append_assoc] at closed
          rw [List.cons_append, scanMethod_cons, closed]
          rfl
        | ok scanned =>
          obtain ⟨ts, left⟩ := scanned
          simp only [hp] at h
          obtain ⟨more, t, scanned⟩ := steady_scanType.completed (eq_error_of_map h)
          refine ⟨more, ⟨ts, t⟩, ?_⟩
          rw [List.cons_append, scanMethod_cons, steady_scanParameters.append_right hp more]
          simp [scanned, Except.map]
      · simp [scanMethod, opening] at h
  stuck {text} h more := by
    cases text with
    | nil => cases h
    | cons c rest =>
      by_cases opening : c = '('
      · subst opening
        rw [scanMethod_cons] at h
        rw [List.cons_append, scanMethod_cons]
        cases hp : scanParameters rest with
        | error why =>
          simp only [hp] at h
          cases h
          rw [steady_scanParameters.stuck hp more]
        | ok scanned =>
          obtain ⟨ts, left⟩ := scanned
          simp only [hp] at h
          rw [steady_scanParameters.append_right hp more]
          simp [steady_scanType.stuck (eq_error_of_map h) more, Except.map]
      · simp [scanMethod, opening]

/-! ## The three forms -/

/-- What is taken off may be told in other words. -/
theorem Steady.map {α β : Type} {scan : List Char → Scan α} (h : Steady scan) (f : α → β) :
    Steady fun text => (scan text).map fun (a, left) => (f a, left) where
  taken {text left b} := by
    have told (text left : List Char) :
        (scan text).map (fun (a, left) => (f a, left)) = .ok (b, left) ↔
          ∃ a, scan text = .ok (a, left) ∧ f a = b := by
      match scan text with
      | .error why => simp [Except.map]
      | .ok (a, left') => grind [Except.map]
    have before (text' : List Char) (a : α) :
        scan text' = .ok (a, left) ↔ ∃ w, text' = w ++ left ∧ scan w = .ok (a, []) := h.taken
    simp only [told, before]
    grind
  completed ended := by
    obtain ⟨more, a, scanned⟩ := h.completed (eq_error_of_map ended)
    exact ⟨more, f a, by rw [scanned]; rfl⟩
  stuck refused more := by
    rw [h.stuck (eq_error_of_map refused) more]
    rfl

theorem whole_map {α β : Type} (scan : List Char → Scan α) (f : α → β) (text : String) :
    whole (fun text => (scan text).map fun (a, left) => (f a, left)) text =
      (whole scan text).map f := by
  unfold whole
  dsimp only
  match scan text.toList with
  | .ok (_, []) | .ok (_, _ :: _) | .error _ => rfl

/-- A text is of exactly one kind, seen from the texts that are read as a type, a field or a method,
and the reason of a refusal says of which: a descriptor and what follows it, the beginning of one,
or neither. -/
theorem classified_parse :
    Classified TypeDescriptor.parse ∧ Classified FieldDescriptor.parse ∧
      Classified MethodDescriptor.parse := by
  refine ⟨steady_scanType.classified, ?_, steady_scanMethod.classified⟩
  have field : FieldDescriptor.parse =
      whole fun text => (scanField text).map fun (t, left) => (FieldDescriptor.mk t, left) :=
    funext fun text => (whole_map scanField FieldDescriptor.mk text).symm
  rw [field]
  exact (steady_scanField.map FieldDescriptor.mk).classified

end HandleCache.Descriptor

import HandleCache.Descriptor.Parser

/-!
# The grammar of descriptors

Descriptors are words of a small grammar, and each word spells one tree:

- `Field` is one of the letters `B C D F I J S Z`, or `[` before a `Field`, or a class name between
  `L` and `;`, where a class name is segments with `/` between them, and a segment has at least one
  character and none of `.`, `;`, `[` and `/`
- `Type` is a `Field` or `V`
- `Method` is `Field`s between `(` and `)`, and a `Type` after them

A scanner takes exactly a word off the front of a text, whatever comes after it. From this both
directions follow, and also that a word spells one tree only: two derivations of one text would be
taken off it by the same scan.

## Main statements

- `scanField_eq_ok_iff`, `scanType_eq_ok_iff`, `scanMethod_eq_ok_iff`: what a scanner takes off
- `parses_grammar`: a text is read exactly if it is a word, and as the tree that it spells
-/

namespace HandleCache.Descriptor

/-! ## The grammar -/

/-- The letters of the types that have values. -/
def letters : List (Char × Primitive) :=
  [('B', .byte), ('C', .char), ('D', .double), ('F', .float), ('I', .int), ('J', .long),
   ('S', .short), ('Z', .boolean)]

/-- What stands between the `/` of a class name. -/
structure IsSegment (s : List Char) : Prop where
  nonempty : s ≠ []
  allowed : ∀ c ∈ s, c ∉ ['.', ';', '[', '/']

inductive ClassWord : List Char → Prop where
  | last {s : List Char} : IsSegment s → ClassWord s
  | more {s name : List Char} : IsSegment s → ClassWord name → ClassWord (s ++ '/' :: name)

/-- `FieldWord w t`: the word `w` of `Field` spells the type `t`. -/
inductive FieldWord : List Char → TypeDescriptor → Prop where
  | letter {c : Char} {p : Primitive} : (c, p) ∈ letters → FieldWord [c] (.primitive p)
  | array {w : List Char} {t : TypeDescriptor} : FieldWord w t → FieldWord ('[' :: w) (.array t)
  | object {name : List Char} :
      ClassWord name → FieldWord ('L' :: (name ++ [';'])) (.object (String.ofList name))

inductive TypeWord : List Char → TypeDescriptor → Prop where
  | field {w : List Char} {t : TypeDescriptor} : FieldWord w t → TypeWord w t
  | void : TypeWord ['V'] (.primitive .void)

/-- Words of `Field` side by side. -/
inductive FieldWords : List Char → List TypeDescriptor → Prop where
  | nil : FieldWords [] []
  | cons {w v : List Char} {t : TypeDescriptor} {ts : List TypeDescriptor} :
      FieldWord w t → FieldWords v ts → FieldWords (w ++ v) (t :: ts)

inductive MethodWord : List Char → MethodDescriptor → Prop where
  | mk {w v : List Char} {ts : List TypeDescriptor} {t : TypeDescriptor} :
      FieldWords w ts → TypeWord v t → MethodWord ('(' :: (w ++ ')' :: v)) ⟨ts, t⟩

/-! ## Letters -/

theorem ofLetter?_eq_some_iff {c : Char} {p : Primitive} :
    Primitive.ofLetter? c = some p ↔ (c, p) ∈ letters := by
  constructor
  · intro h
    unfold Primitive.ofLetter? at h
    split at h <;> simp_all [letters]
  · intro h
    simp only [letters, List.mem_cons, Prod.mk.injEq, List.not_mem_nil, or_false] at h
    rcases h with ⟨rfl, rfl⟩ | ⟨rfl, rfl⟩ | ⟨rfl, rfl⟩ | ⟨rfl, rfl⟩ | ⟨rfl, rfl⟩ | ⟨rfl, rfl⟩ |
      ⟨rfl, rfl⟩ | ⟨rfl, rfl⟩ <;> rfl

/-- No letter begins anything else that has a place in a method descriptor. -/
theorem ne_of_mem_letters {c : Char} {p : Primitive} (h : (c, p) ∈ letters) :
    c ≠ '[' ∧ c ≠ 'L' ∧ c ≠ 'V' ∧ c ≠ ')' := by
  simp only [letters, List.mem_cons, Prod.mk.injEq, List.not_mem_nil, or_false] at h
  rcases h with ⟨rfl, _⟩ | ⟨rfl, _⟩ | ⟨rfl, _⟩ | ⟨rfl, _⟩ | ⟨rfl, _⟩ | ⟨rfl, _⟩ | ⟨rfl, _⟩ |
    ⟨rfl, _⟩ <;> decide

/-! ## Class names -/

theorem IsSegment.ne {s : List Char} {c : Char} (h : IsSegment s) (hc : c ∈ s) :
    c ≠ '.' ∧ c ≠ ';' ∧ c ≠ '[' ∧ c ≠ '/' := by
  simpa using h.allowed c hc

/-- A segment may grow by a character that is allowed in it. -/
theorem IsSegment.concat {s : List Char} {c : Char}
    (hs : ∀ d ∈ s, d ∉ ['.', ';', '[', '/']) (hc : c ∉ ['.', ';', '[', '/']) :
    IsSegment (s ++ [c]) where
  nonempty := by simp
  allowed := by
    intro d hd
    rcases List.mem_append.mp hd with hd | hd
    · exact hs d hd
    · exact List.mem_singleton.mp hd ▸ hc

/-- The scan stands behind characters `s` of a segment, which is fresh if there are none yet: with
them, what is scanned up to the `;` is a class name. -/
theorem classWord_of_scan {fresh : Bool} {s text name left : List Char}
    (hs : ∀ d ∈ s, d ∉ ['.', ';', '[', '/']) (hf : fresh = s.isEmpty)
    (h : scanClassName fresh text = .ok (name, left)) :
    text = name ++ ';' :: left ∧ ClassWord (s ++ name) := by
  induction text generalizing fresh s name with
  | nil => simp [scanClassName] at h
  | cons c rest ih =>
    simp only [scanClassName] at h
    split at h
    -- The name ends here, so the segment must not be fresh.
    · next semicolon =>
      subst semicolon
      split at h
      · cases h
      · next stale =>
        cases h
        refine ⟨rfl, ?_⟩
        rw [List.append_nil]
        exact .last ⟨by simpa [hf] using stale, hs⟩
    · split at h
      -- A segment ends here, and the next one is fresh.
      · next slash =>
        subst slash
        split at h
        · cases h
        · next stale =>
          cases hr : scanClassName true rest with
          | error why => rw [hr] at h; cases h
          | ok scanned =>
            rw [hr] at h
            cases h
            obtain ⟨text, word⟩ := ih (s := []) (by simp) rfl hr
            refine ⟨by rw [text]; rfl, ?_⟩
            exact .more ⟨by simpa [hf] using stale, hs⟩ word
      · split at h
        · cases h
        -- The character belongs to the segment.
        · next semicolon slash others =>
          have allowed : c ∉ ['.', ';', '[', '/'] := by simp_all
          cases hr : scanClassName false rest with
          | error why => rw [hr] at h; cases h
          | ok scanned =>
            rw [hr] at h
            cases h
            obtain ⟨text, word⟩ :=
              ih (s := s ++ [c]) (IsSegment.concat hs allowed).allowed (by simp) hr
            refine ⟨by rw [text]; rfl, ?_⟩
            simpa using word

/-- A scan goes over a whole segment and is no more fresh behind it. -/
theorem scanClassName_segment {s : List Char} (hs : IsSegment s) (fresh : Bool)
    (rest : List Char) :
    scanClassName fresh (s ++ rest) =
      (scanClassName false rest).map fun (name, left) => (s ++ name, left) := by
  obtain ⟨nonempty, allowed⟩ := hs
  induction s generalizing fresh with
  | nil => exact absurd rfl nonempty
  | cons c s ih =>
    obtain ⟨dot, semicolon, bracket, slash⟩ :=
      IsSegment.ne ⟨nonempty, allowed⟩ (List.mem_cons_self (a := c) (l := s))
    have first : scanClassName fresh (c :: (s ++ rest)) =
        (scanClassName false (s ++ rest)).map fun (name, left) => (c :: name, left) := by
      simp only [scanClassName, semicolon, slash, dot, bracket, or_self, if_false]
    rw [List.cons_append, first]
    by_cases last : s = []
    · subst last
      simp
    · rw [ih false last fun d hd => allowed d (List.mem_cons_of_mem c hd)]
      cases scanClassName false rest <;> rfl

theorem scanClassName_of_classWord {name : List Char} (h : ClassWord name)
    (left : List Char) : scanClassName true (name ++ ';' :: left) = .ok (name, left) := by
  induction h with
  | last hs =>
    rw [scanClassName_segment hs]
    simp [scanClassName, Except.map]
  | @more s name hs _ ih =>
    rw [List.append_assoc, scanClassName_segment hs, List.cons_append]
    simp [scanClassName, ih, Except.map]

/-- What is taken off a text as a class name is one, up to the `;` behind it. -/
theorem scanClassName_eq_ok_iff {text name left : List Char} :
    scanClassName true text = .ok (name, left) ↔ text = name ++ ';' :: left ∧ ClassWord name := by
  constructor
  · intro h
    exact classWord_of_scan (s := []) (by simp) rfl h
  · rintro ⟨rfl, h⟩
    exact scanClassName_of_classWord h left

/-! ## Types -/

theorem fieldWord_of_scan {text left : List Char} {t : TypeDescriptor}
    (h : scanField text = .ok (t, left)) : ∃ w, text = w ++ left ∧ FieldWord w t := by
  induction text generalizing t left with
  | nil => simp [scanField] at h
  | cons c rest ih =>
    simp only [scanField] at h
    split at h
    · next bracket =>
      subst bracket
      cases hr : scanField rest with
      | error why => rw [hr] at h; cases h
      | ok scanned =>
        rw [hr] at h
        cases h
        obtain ⟨w, text, word⟩ := ih hr
        exact ⟨'[' :: w, by rw [text]; rfl, .array word⟩
    · split at h
      · next letter =>
        subst letter
        cases hr : scanClassName true rest with
        | error why => rw [hr] at h; cases h
        | ok scanned =>
          obtain ⟨name, after⟩ := scanned
          rw [hr] at h
          cases h
          obtain ⟨text, word⟩ := scanClassName_eq_ok_iff.mp hr
          exact ⟨'L' :: (name ++ [';']), by simp [text], .object word⟩
      · split at h
        · next p hp =>
          cases h
          exact ⟨[c], rfl, .letter (ofLetter?_eq_some_iff.mp hp)⟩
        · cases h

theorem scanField_of_fieldWord {w : List Char} {t : TypeDescriptor} (h : FieldWord w t)
    (left : List Char) : scanField (w ++ left) = .ok (t, left) := by
  induction h with
  | @letter c p hc =>
    obtain ⟨bracket, object, _⟩ := ne_of_mem_letters hc
    simp [scanField, bracket, object, ofLetter?_eq_some_iff.mpr hc]
  | array _ ih => simp [scanField, ih, Except.map]
  | @object name word =>
    have scanned := scanClassName_of_classWord word left
    simp [scanField, scanned, Except.map]

/-- What is taken off a text as a type with values is a word that spells it. -/
theorem scanField_eq_ok_iff {text left : List Char} {t : TypeDescriptor} :
    scanField text = .ok (t, left) ↔ ∃ w, text = w ++ left ∧ FieldWord w t := by
  constructor
  · exact fieldWord_of_scan
  · rintro ⟨w, rfl, h⟩
    exact scanField_of_fieldWord h left

/-- A type with values begins like one: neither with `V` nor with `)`. -/
theorem FieldWord.exists_cons {w : List Char} {t : TypeDescriptor} (h : FieldWord w t) :
    ∃ c rest, w = c :: rest ∧ c ≠ 'V' ∧ c ≠ ')' := by
  cases h with
  | @letter c p hc => exact ⟨c, [], rfl, (ne_of_mem_letters hc).2.2⟩
  | @array w t _ => exact ⟨'[', w, rfl, by decide, by decide⟩
  | @object name _ => exact ⟨'L', name ++ [';'], rfl, by decide, by decide⟩

theorem scanType_of_ne {c : Char} (hc : c ≠ 'V') (rest : List Char) :
    scanType (c :: rest) = scanField (c :: rest) := by
  unfold scanType
  split
  · next h => exact absurd (List.cons.inj h).1 hc
  · rfl

/-- What is taken off a text as a type is a word that spells it. -/
theorem scanType_eq_ok_iff {text left : List Char} {t : TypeDescriptor} :
    scanType text = .ok (t, left) ↔ ∃ w, text = w ++ left ∧ TypeWord w t := by
  constructor
  · intro h
    unfold scanType at h
    split at h
    · cases h
      exact ⟨['V'], rfl, .void⟩
    · obtain ⟨w, rfl, word⟩ := scanField_eq_ok_iff.mp h
      exact ⟨w, rfl, .field word⟩
  · rintro ⟨w, rfl, h⟩
    cases h with
    | field word =>
      obtain ⟨c, rest, rfl, notVoid, _⟩ := word.exists_cons
      rw [List.cons_append, scanType_of_ne notVoid]
      exact scanField_of_fieldWord word left
    | void => rfl

/-! ## Methods -/

theorem scanParameters_of_ne {c : Char} (hc : c ≠ ')') (rest : List Char) :
    scanParameters (c :: rest) =
      match scanField (c :: rest) with
      | .error why => .error why
      | .ok (t, left) => (scanParameters left).map fun (ts, left) => (t :: ts, left) := by
  rw [scanParameters]
  · split
    · next h => simp only [h]
    · next h => simp only [h]
  · intro rest' h
    exact hc (List.cons.inj h).1

theorem scanParameters_end (left : List Char) :
    scanParameters (')' :: left) = .ok ([], left) := by
  rw [scanParameters]

theorem fieldWords_of_scan {text left : List Char} {ts : List TypeDescriptor}
    (h : scanParameters text = .ok (ts, left)) :
    ∃ w, text = w ++ ')' :: left ∧ FieldWords w ts := by
  -- Each parameter shortens the text, so the induction is on its length.
  induction hn : text.length using Nat.strongRecOn generalizing text ts with
  | ind n ih =>
    match text with
    | [] => simp [scanParameters, scanField] at h
    | c :: rest =>
      by_cases hc : c = ')'
      · subst hc
        rw [scanParameters_end] at h
        cases h
        exact ⟨[], rfl, .nil⟩
      · rw [scanParameters_of_ne hc] at h
        cases hf : scanField (c :: rest) with
        | error why => rw [hf] at h; cases h
        | ok scanned =>
          obtain ⟨t, after⟩ := scanned
          rw [hf] at h
          cases hp : scanParameters after with
          | error why => simp only [hp] at h; cases h
          | ok others =>
            simp only [hp] at h
            cases h
            obtain ⟨v, rfl, words⟩ := ih _ (hn ▸ scanField_shorter hf) hp rfl
            obtain ⟨w, text, word⟩ := fieldWord_of_scan hf
            exact ⟨w ++ v, by rw [text, List.append_assoc], .cons word words⟩

theorem scanParameters_of_fieldWords {w : List Char} {ts : List TypeDescriptor}
    (h : FieldWords w ts) (left : List Char) :
    scanParameters (w ++ ')' :: left) = .ok (ts, left) := by
  induction h with
  | nil => exact scanParameters_end left
  | @cons w v t ts word _ ih =>
    have scanned := scanField_of_fieldWord word (v ++ ')' :: left)
    obtain ⟨c, rest, rfl, _, notEnd⟩ := word.exists_cons
    rw [List.append_assoc]
    rw [List.cons_append] at scanned ⊢
    rw [scanParameters_of_ne notEnd, scanned]
    simp [ih, Except.map]

/-- What is taken off a text as a method descriptor is a word that spells it. -/
theorem scanMethod_eq_ok_iff {text left : List Char} {d : MethodDescriptor} :
    scanMethod text = .ok (d, left) ↔ ∃ w, text = w ++ left ∧ MethodWord w d := by
  constructor
  · intro h
    match text with
    | [] => simp [scanMethod] at h
    | c :: rest =>
      simp only [scanMethod] at h
      split at h
      · next opening =>
        subst opening
        cases hp : scanParameters rest with
        | error why => simp only [hp] at h; cases h
        | ok scanned =>
          obtain ⟨ts, after⟩ := scanned
          simp only [hp] at h
          cases ht : scanType after with
          | error why => rw [ht] at h; cases h
          | ok result =>
            obtain ⟨t, left'⟩ := result
            rw [ht] at h
            cases h
            obtain ⟨w, rfl, words⟩ := fieldWords_of_scan hp
            obtain ⟨v, rfl, word⟩ := scanType_eq_ok_iff.mp ht
            exact ⟨'(' :: (w ++ ')' :: v), by simp, .mk words word⟩
      · cases h
  · rintro ⟨_, rfl, h⟩
    cases h with
    | @mk w v ts t words word =>
      have parameters := scanParameters_of_fieldWords words (v ++ left)
      have result : scanType (v ++ left) = .ok (t, left) := scanType_eq_ok_iff.mpr ⟨v, rfl, word⟩
      simp [scanMethod, parameters, result, Except.map]

/-! ## Whole texts -/

section Whole

variable {α : Type} {scan : List Char → Scan α} {word : List Char → α → Prop}

/-- A text is read as a whole by a scanner exactly if it is a word. -/
theorem whole_eq_ok_iff
    (taken : ∀ {text left a}, scan text = .ok (a, left) ↔ ∃ w, text = w ++ left ∧ word w a)
    {text : String} {a : α} : whole scan text = .ok a ↔ word text.toList a := by
  have all : scan text.toList = .ok (a, []) ↔ word text.toList a := by
    rw [taken]
    simp
  rw [← all]
  unfold whole
  split
  · next h => simp [h]
  · next h => simp [h]
  · next h => simp [h]

/-- A word spells one tree: the one that a scan takes off it. -/
theorem tree_unique
    (taken : ∀ {text left a}, scan text = .ok (a, left) ↔ ∃ w, text = w ++ left ∧ word w a)
    {w : List Char} {a b : α} (ha : word w a) (hb : word w b) : a = b := by
  have scanned : scan w = .ok (a, []) := taken.mpr ⟨w, (List.append_nil w).symm, ha⟩
  rw [taken.mpr ⟨w, (List.append_nil w).symm, hb⟩] at scanned
  cases scanned
  rfl

end Whole

/-- `parse` reads the words of `word`: it accepts these texts and no others, and answers the only
tree that such a text spells. -/
structure Reads {α : Type} (parse : String → Except ParseError α)
    (word : List Char → α → Prop) : Prop where
  accepts (text : String) : (∃ a, parse text = .ok a) ↔ ∃ a, word text.toList a
  spelled (text : String) (a : α) : parse text = .ok a → word text.toList a
  unique (w : List Char) (a b : α) : word w a → word w b → a = b

theorem Reads.of_iff {α : Type} {parse : String → Except ParseError α}
    {word : List Char → α → Prop} (read : ∀ text a, parse text = .ok a ↔ word text.toList a)
    (unique : ∀ w a b, word w a → word w b → a = b) : Reads parse word where
  accepts text := exists_congr (read text)
  spelled text a := (read text a).mp
  unique := unique

/-- A text is read as a type, a field or a method exactly if it is a word of `Type`, `Field` or
`Method`, and it is read as the one tree that it spells. -/
theorem parses_grammar :
    Reads TypeDescriptor.parse TypeWord ∧
      Reads FieldDescriptor.parse (fun w d => FieldWord w d.type) ∧
      Reads MethodDescriptor.parse MethodWord := by
  refine ⟨.of_iff (fun text t => ?_) fun w t u => ?_,
    .of_iff (fun text d => ?_) fun w d e hd he => ?_,
    .of_iff (fun text d => ?_) fun w d e => ?_⟩
  · exact whole_eq_ok_iff scanType_eq_ok_iff
  · exact tree_unique scanType_eq_ok_iff
  -- A field descriptor is nothing but its type.
  · have read : whole scanField text = .ok d.type ↔ FieldWord text.toList d.type :=
      whole_eq_ok_iff scanField_eq_ok_iff
    rw [← read, FieldDescriptor.parse]
    obtain ⟨t⟩ := d
    cases whole scanField text <;> simp [Except.map]
  · have same : d.type = e.type := tree_unique scanField_eq_ok_iff hd he
    cases d
    cases e
    exact congrArg FieldDescriptor.mk same
  · exact whole_eq_ok_iff scanMethod_eq_ok_iff
  · exact tree_unique scanMethod_eq_ok_iff

end HandleCache.Descriptor

import HandleCache.Proofs.Jni.Handover

/-!
# Which class stands behind the handles

The members of a binding are looked up in the class that its name stands for when it is resolved.
Classes come and go after that, and another class may take the name. What the cache makes sure of,
in whatever run, is that a call gets the class of the handles if the binding keeps it; a binding
that has to look its class up again takes what it finds.

## Contents

- `Found`: what a resolution has done so far
- `HandlesOf`: what stays true of a binding from its resolution on

## Main statements

- `class_behind_handles`: it stays true in every run
- `handles_of_another_class`: another class can be handed over with the handles
-/

namespace HandleCache.Jni

open HandleCache.Action

/-! ## Resolutions -/

/-- Whether a function looks a member up. -/
def Function.looksUp : Function → Bool
  | getMethodId | getStaticMethodId | getFieldId | getStaticFieldId => true
  | _ => false

/-- Since `m₀` the class was found by its name, all members were looked up in it, and this is kept
of it. -/
def Found (m₀ : Machine) (d : Declaration) (r : Reference) (retention : Retention)
    (kept : Retained host) (s : Machine) : Prop :=
  ∃ c es, m₀.world.visibleClass? d.className = some c ∧ s.Denotes r c ∧
    Retains s c retention kept ∧ s.trace = m₀.trace ++ es ∧
    ∀ e ∈ es, e.function.looksUp = true → ∃ rest, e.operands = .reference r :: rest

section

variable {m₀ s t : Machine} {d : Declaration} {r : Reference} {retention : Retention}
  {kept : Retained host} {f : Function} {operands : List Operand}

/-- What is no call leaves this as it is. -/
theorem Found.aside (h : Found m₀ d r retention kept s) (traced : t.trace = s.trace)
    (same : t.references = s.references) : Found m₀ d r retention kept t := by
  obtain ⟨c, es, seen, denotes, retains, before, looked⟩ := h
  have grows := Machine.Grows.of_eq same
  exact ⟨c, es, seen, denotes.grows grows, retains.grows grows, traced.trans before, looked⟩

theorem Found.called (h : Found m₀ d r retention kept s) (call : s.Called f operands t)
    (on : f.looksUp = true → ∃ rest, operands = .reference r :: rest) :
    Found m₀ d r retention kept t := by
  obtain ⟨c, es, seen, denotes, retains, traced, looked⟩ := h
  refine ⟨c, es ++ [⟨f, operands, s.exception.isSome⟩], seen, denotes.grows call.grows,
    retains.grows call.grows, ?_, ?_⟩
  · rw [call.traced, traced, List.append_assoc]
  · intro e he looksUp
    rcases List.mem_append.mp he with he | he
    · exact looked e he looksUp
    · rw [List.mem_singleton.mp he] at looksUp ⊢
      exact on looksUp

theorem meets_classNamed :
    Meets (· = m₀) (Host.classNamed (H := host) d.className)
      (fun r => Found m₀ d r .drop .nothing) fun _ _ => True := by
  refine .mapError (meets_lookup (T := fun _ => True) (meets_nonNull ?_ fun _ _ => trivial)
    fun _ _ _ => trivial)
  rintro s r rfl found
  obtain ⟨i, found', rfl⟩ := Option.map_eq_some_iff.mp found
  obtain ⟨c, seen, denotes⟩ := Machine.denotes_findClass found'
  refine ⟨c, [⟨.findClass, [.text d.className], s.exception.isSome⟩], seen, denotes, .drop,
    (Machine.called_findClass d.className s).traced, ?_⟩
  intro e he looksUp
  rw [List.mem_singleton.mp he] at looksUp
  cases looksUp

/-- A member is looked up in the class that was found. -/
theorem meets_getMember {isStatic : Bool} {missing name signature : String} {failure : Failure}
    {g : Failure → Fault Failure} {mk : MemberId → Handle host} :
    Meets (Found m₀ d r retention kept)
      (do
        let id ← Action.mapError g (lookup name signature (nonNull failure
          (Machine.getMember f isStatic missing r name signature)))
        pure (mk id))
      (fun _ => Found m₀ d r retention kept) fun _ _ => True := by
  refine Meets.bind (F := fun _ => Found m₀ d r retention kept) (.mapError
    (meets_lookup (T := fun _ => True) (meets_nonNull ?_ fun _ _ => trivial) fun _ _ _ => trivial))
    fun _ => .pure fun _ known => known
  intro s id known _
  exact known.called (Machine.called_getMember f isStatic missing r name signature s)
    fun _ => ⟨_, rfl⟩

theorem meets_lookupOperations (plans : List (Operation × Plan)) :
    Meets (Found m₀ d r retention kept)
      (Host.lookupOperations (H := host) r d.className plans)
      (fun _ => Found m₀ d r retention kept) fun _ _ => True := by
  induction plans with
  | nil => exact .pure fun _ known => known
  | cons first rest ih =>
    obtain ⟨op, plan⟩ := first
    refine Meets.bind (F := fun _ => Found m₀ d r retention kept) ?_ fun _ =>
      ih.bind fun _ => .pure fun _ known => known
    cases plan with
    | constructor => exact meets_getMember
    | method => exact meets_getMember
    | staticMethod => exact meets_getMember
    | field => exact meets_getMember
    | staticField => exact meets_getMember

/-- A lasting reference is made of the one that is out. -/
theorem Found.keep (h : Found m₀ d r .drop .nothing s) (call : s.Called f operands t)
    (runs : f.looksUp = false)
    (keeps : ∀ c age, s.Refers r .local (.classAt c age) → Retains t c retention kept) :
    Found m₀ d r retention kept t := by
  obtain ⟨c, es, seen, denotes, _, traced, looked⟩ :=
    h.called call fun looksUp => nomatch runs.symm.trans looksUp
  obtain ⟨c', _, seen', ⟨age, made⟩, _⟩ := h
  -- The name stood for one class at that time, so it is this one that the reference is to.
  obtain rfl : c' = c := by simpa [seen] using seen'.symm
  exact ⟨c', es, seen, denotes, keeps c' age made, traced, looked⟩

theorem meets_retain :
    Meets (Found m₀ d r .drop .nothing) (Host.retain (H := host) r d)
      (fun kept => Found m₀ d r d.retention kept) fun _ _ => True := by
  have machine : Meets (Found m₀ d r .drop .nothing) requireVirtualMachine
      (fun _ => Found m₀ d r .drop .nothing) fun _ _ => True :=
    (keeps_requireVirtualMachine fun _ known => known.aside rfl rfl).conseq
      (fun _ known => known) (fun _ _ known => known) fun _ _ _ => trivial
  refine Host.meets_retain (H := host) r d (fun drop _ known => by rwa [drop]) (fun weak => ?_)
    fun pin => ?_
  · rw [weak]
    refine machine.bind fun _ => ?_
    cases r with
    | none => exact .fail fun _ _ => trivial
    | some i =>
      refine meets_nonNull (fun s w known found => ?_) fun _ _ => trivial
      obtain ⟨j, found', rfl⟩ := Option.map_eq_some_iff.mp found
      refine known.keep (Machine.called_newReference .weak (some i) s) rfl fun c age made => ?_
      rcases Machine.refers_newReference .weak made with null | ⟨age', kept⟩
      · cases found'.symm.trans null
      · rw [found'] at kept
        exact .weak kept
  · rw [pin]
    refine machine.bind fun _ => .query fun s known => ?_
    refine known.keep (Machine.called_newReference .global r s) rfl fun c age made => ?_
    rcases Machine.refers_newReference .global made with null | ⟨age', kept⟩
    · rw [null]
      exact .nullPin
    · exact .pin kept

/-- A resolution that succeeds has found the class and looked all members up in it. -/
theorem meets_resolve (m₀ : Machine) (d : Declaration) :
    Meets (· = m₀) (Binding.resolve host d)
      (fun b s => b.declaration = d ∧ ∃ r, Found m₀ d r d.retention b.retained s)
      fun _ _ => True := by
  refine Binding.meets_resolve (H := host) (I := fun r => Found m₀ d r .drop .nothing)
    (F := fun kept s => ∃ r, Found m₀ d r d.retention kept s) d (fun _ _ _ => trivial)
    meets_classNamed (fun r plans => meets_lookupOperations plans) (fun r => ?_)
    (fun e r s known => known.aside rfl rfl) fun e kept s known => ?_
  · refine meets_retain.conseq (fun _ known => known) (fun kept s known => ?_) fun _ _ _ => trivial
    exact ⟨r, known.called (Machine.called_deleteReference .local r s) nofun⟩
  · exact known.imp fun r found => found.aside rfl rfl

end

/-- What stays true of a binding from its resolution on: `c` is the class behind its handles. -/
structure HandlesOf (c : Nat) (d : Declaration) (m₀ m₁ : Machine) (b : Binding host) : Prop where
  /-- When it was resolved, the name stood for this class. -/
  found : m₀.world.visibleClass? d.className = some c
  /-- All members were looked up in this class. -/
  looked : ∃ es, m₁.trace = m₀.trace ++ es ∧ ∀ e ∈ es, e.function.looksUp = true →
    ∃ r rest, e.operands = .reference r :: rest ∧ m₁.Denotes r c
  /-- In whatever run, a request makes one call at most, with what this call gets. -/
  calls : ∀ (run : List Happening) (ask : Ask host),
    ∃ es, (b.answer ask (m₁.after run)).2.trace = (m₁.after run).trace ++ es ∧
      CallsOnce Entry.runs (Behind ⟨c, d, (m₁.after run).world⟩ ask.isTrusted
        (b.answer ask (m₁.after run)).2) es
  /-- An object that is wrapped was accepted. -/
  wraps : ∀ (run : List Happening) (o g : Reference) (m : Machine),
    wrap b o (m₁.after run) = (.ok g, m) →
      ∃ es, m.trace = (m₁.after run).trace ++ es ∧
        Accepted ⟨c, d, (m₁.after run).world⟩ m es o

/-- The handles of a binding were looked up in one class. Whatever happens later, the class
reference that a call hands over with a handle is null or to the class that the call gets, and an
instance is accepted if it is of that class: the class of the handles if it is pinned or was not
looked up by name for the call, and otherwise the one that the name stands for by then. -/
theorem class_behind_handles {d : Declaration} {m₀ m₁ : Machine} {b : Binding host}
    (resolved : Binding.resolve host d m₀ = (.ok b, m₁)) : ∃ c, HandlesOf c d m₀ m₁ b := by
  have held := meets_resolve m₀ d m₀ rfl
  rw [resolved] at held
  obtain ⟨rfl, r, c, es, seen, denotes, retains, traced, looked⟩ := held
  have bound : ∀ run,
      Bound (m₁.after run) ⟨c, b.declaration, (m₁.after run).world⟩ b :=
    fun run => ⟨rfl, rfl, retains.grows (m₁.grows_after run)⟩
  refine ⟨c, seen, ⟨es, traced, fun e he looksUp => ?_⟩, fun run ask => ?_, ?_⟩
  · obtain ⟨rest, operands⟩ := looked e he looksUp
    exact ⟨r, rest, operands, denotes⟩
  · have done := meets_answer (bound run) ask _ (Since.start _)
    cases answered : b.answer ask (m₁.after run) with
    | mk a t =>
      rw [answered] at done
      cases a with
      | ok reply =>
        obtain ⟨es, traced, _, calls⟩ := done
        exact ⟨es, traced, calls⟩
      | error e =>
        obtain ⟨es, traced, _, calls⟩ := done
        exact ⟨es, traced, calls⟩
  · intro run o g m wrapped
    have accepted := meets_wrap (bound run) o _ (Since.start _)
    rw [wrapped] at accepted
    obtain ⟨es, traced, _, _, _, known⟩ := accepted
    exact ⟨es, traced, known⟩

/-! ## Two classes of one name -/

/-- A class of the name `a/A`, with a field of each sort that holds this number. -/
def numbered (n : Int32) (hidden : Bool) : WorldClass where
  name := "a/A"
  parent := none
  members := [⟨"x", "I", true, .constant (.int n)⟩, ⟨"v", "I", false, .constant (.int n)⟩]
  hidden

/-- Two classes of one name, of which the second is found, and an instance of the first. -/
def twins : Machine where
  world := ⟨[numbered 1 true, numbered 2 false], [⟨0, .void⟩]⟩
  references := [⟨.global, .object 0, 0⟩]

/-- The fields of the class that the name stands for. -/
def twin : Declaration := ⟨"a/A", [.staticField "x" "x" "I", .field "v" "v" "I"], .drop⟩

theorem class_behind_handles_twin :
    ∃ b m₁, Binding.resolve host twin twins = (.ok b, m₁) ∧ ∃ c, HandlesOf c twin twins m₁ b := by
  have resolved : Binding.resolve host twin twins = (.ok _, _) := rfl
  exact ⟨_, _, resolved, class_behind_handles resolved⟩

/-- The handles are of the second class. Then the first is shown again, and it is this one that is
handed over with the handle of the second; and an instance of the first is accepted and wrapped. -/
theorem handles_of_another_class : ∃ b m₁,
    Binding.resolve host twin twins = (.ok b, m₁) ∧ twins.world.visibleClass? "a/A" = some 1 ∧
    b.staticFieldId "x" = .ok ⟨1, 0⟩ ∧ twins.world.isInstance (some 0) 1 = false ∧
    let m := m₁.after [.change (.reveal "a/A")]
    (b.answer (.readStatic "x") m).1 = .ok (.value (.int 2)) ∧
    (b.answer (.readStatic "x") m).2.trace.drop m.trace.length =
      [⟨.findClass, [.text "a/A"], false⟩,
        ⟨.getStaticField (.primitive .int), [.reference (some 2), .member ⟨1, 0⟩], false⟩,
        ⟨.deleteLocalRef, [.reference (some 2)], false⟩] ∧
    (b.answer (.readStatic "x") m).2.class? (some 2) = some 0 ∧
    m.object? (some 0) = some 0 ∧
    (b.answer (.read false "v" (some 0 : Reference)) m).1 = .ok (.value (.int 2)) ∧
    (wrap b (some 0) m).1 = .ok (some 3) :=
  ⟨_, _, rfl, rfl, rfl, rfl, rfl, rfl, rfl, rfl, rfl, rfl⟩

end HandleCache.Jni

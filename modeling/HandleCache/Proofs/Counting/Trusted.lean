import HandleCache.Proofs.Counting.Lookups

/-!
# Requests that trust their instance

A request that takes its instance to be of the bound class leaves out one check. It goes through the
others in the same order and makes the same call. So all that could tell it from the request with
the check is the test of the class: a class reference is obtained, used and given back before the
call, which costs a look-up at most and touches nothing that the call works on.

## Contents

- `Machine.Even`: machines that differ at most in class look-ups and the journal
- `Machine.HasForeign`: an instance of another class

## Main statements

- `Checks.same_bind`: a check that two requests have in front
- `Home.requireInstance_eq_ok`, `Home.requireInstance_eq_error`: the test of the class
- `trusted_requests`: with and without the test a request comes to the same, unless its instance is
  of another class, for which the test refuses it
-/

namespace HandleCache.Counting

open HandleCache.Action

/-! ## Machines that are even -/

/-- The machines differ at most in how often classes were looked up and in what the journal was
told. -/
structure Machine.Even (m m' : Machine) : Prop extends m.Alike m' where
  livePins : m.livePins = m'.livePins

theorem Machine.Even.refl (m : Machine) : m.Even m := ⟨.refl m, rfl⟩

/-- A call answers alike on machines that are even. -/
theorem IsCall.agree_even {α : Type} {x : Machine.Step α} (call : IsCall x) :
    Agree Machine.Even x x := by
  intro m m' even
  rw [call m m rfl rfl, call m m' even.classes.symm even.objects.symm]
  exact ⟨rfl, { even with objects := rfl, calls := congrArg (· + 1) even.calls }⟩

section

variable {α β : Type} {m : Machine} {x : host.Request α} {f g : α → host.Request β}

/-- A check that two requests have in front leaves both on the machine as it was, or stops both. -/
theorem Checks.same_bind (check : Checks x)
    (next : ∀ v, x m = (.ok v, m) → Same Machine.Even (f v m) (g v m)) :
    Same Machine.Even ((x >>= f) m) ((x >>= g) m) := by
  apply Same.common Machine.Even.refl
  intro v t run
  cases (check m).answered rfl run
  exact next v run

/-- What a check lets through, it leaves as it was. -/
theorem Checks.eq_of_yields {v : α} (check : Checks x) (yields : Yields x m v) :
    x m = (.ok v, m) := by
  obtain ⟨m', run, -⟩ := yields.exists_eq
  rw [run, (check m).answered rfl run]

end

section

variable {d : Declaration} {b : Binding host} {c : Nat} {m : Machine} {name : String}
  {op : Operation} {o : ObjectNumber} {args : List Int32}

/-! ## The test of the class -/

/-- The reference is to an object, and its class is not the one of the declaration. -/
def Machine.HasForeign (m : Machine) (d : Declaration) (o : ObjectNumber) : Prop :=
  ∃ i x, o = some i ∧ m.objects[i]? = some x ∧ m.layout.class? d.className ≠ some x.owner

/-- Of the test of an object nothing is left but its cost, since the class reference that it takes
is given back. -/
theorem Home.testInstance_eq {i : Nat} {x : Instance} (home : Home d m.layout c b)
    (there : m.objects[i]? = some x) :
    ∃ m' : Machine, m'.Even m ∧
      b.withClass (fun c => Host.direct (host.isInstance (some i) c)) m =
        (.ok (x.owner == c), m') := by
  obtain ⟨j, obtained⟩ := home.obtainClass_eq
  let had : Machine := { m with
    classLookups := m.classLookups + m.price b
    liveClasses := m.liveClasses + 1
    journal := j }
  have found : had.instance? (some i) = some (i, x) := by
    simp [Machine.instance?, had, there]
  have run : Machine.isInstance (some i) c had = (.ok (x.owner == c), had) := by
    simp [Machine.isInstance, found]
  have tested : Host.direct (host.isInstance (some i) c) had = (.ok (x.owner == c), had) :=
    mapError_of_ok run
  have back : m.liveClasses + 1 - 1 = m.liveClasses := Int.add_sub_cancel ..
  refine ⟨{ had with liveClasses := had.liveClasses - 1 }, ?_, ?_⟩
  · exact ⟨⟨rfl, rfl, rfl, back, rfl, rfl⟩, rfl⟩
  · apply (bracket_of_ok obtained).trans
    exact congrArg (fun done => (done.1, host.releaseClass c done.2)) tested

theorem Home.requireInstance_eq_ok (home : Home d m.layout c b) (inst : m.HasInstance d o) :
    ∃ m' : Machine, m'.Even m ∧ b.requireInstance o m = (.ok (), m') := by
  obtain ⟨i, x, rfl, there, owner⟩ := inst
  obtain ⟨m', even, tested⟩ := home.testInstance_eq there
  have ofClass : (x.owner == c) = true := by
    simpa using Option.some.inj (owner.symm.trans home.class?)
  rw [ofClass] at tested
  exact ⟨m', even, bind_of_ok tested⟩

theorem Home.requireInstance_eq_error (home : Home d m.layout c b) (foreign : m.HasForeign d o) :
    ∃ m' : Machine, m'.Even m ∧
      b.requireInstance o m = (.error (.wrongClass d.className), m') := by
  obtain ⟨i, x, rfl, there, owner⟩ := foreign
  obtain ⟨m', even, tested⟩ := home.testInstance_eq there
  have other : (x.owner == c) = false := by
    rw [home.class?] at owner
    simpa using fun same => owner (congrArg some (Eq.symm same))
  rw [other] at tested
  refine ⟨m', even, (bind_of_ok tested).trans ?_⟩
  rw [← home.className]
  rfl

/-- An instance of another class is there. -/
theorem Machine.HasForeign.requirePresent_eq (foreign : m.HasForeign d o) :
    b.requirePresent op o m = (.ok (), m) := by
  obtain ⟨i, x, rfl, -⟩ := foreign
  rfl

/-! ## With and without the test -/

/-- Past the test of an instance of the class, a call is made as without it. -/
theorem Home.even_tested {x : Machine.Step Value} (home : Home d m.layout c b)
    (inst : m.HasInstance d o) (call : IsCall x) :
    Same Machine.Even ((b.requireInstance o >>= fun _ => Host.direct x) m)
      (Host.direct (H := host) x m) := by
  obtain ⟨m', even, passed⟩ := home.requireInstance_eq_ok inst
  exact Same.after passed (call.agree_even.mapError m' m even)

/-- Nothing comes past the test of an instance of another class. -/
theorem Home.even_refused {x : host.Request Value} (home : Home d m.layout c b)
    (foreign : m.HasForeign d o) :
    Same Machine.Even ((b.requireInstance o >>= fun _ => x) m)
      ((fail (.wrongClass d.className) : host.Request Value) m) := by
  obtain ⟨m', even, refused⟩ := home.requireInstance_eq_error foreign
  have stops : (b.requireInstance o >>= fun _ => x) m = (.error (.wrongClass d.className), m') :=
    bind_of_error refused
  rw [stops]
  exact ⟨rfl, even⟩

/-- What is there and was told to be null or of the class is of the class. -/
theorem hasInstance_of_present {m' : Machine} (known : o = none ∨ m.HasInstance d o)
    (present : b.requirePresent op o m = (.ok (), m')) : m.HasInstance d o := by
  rcases known with rfl | inst
  · cases present
  · exact inst

/-- The checks in front of the test are those that a call without it makes. -/
theorem Home.even_call (home : Home d m.layout c b) (known : o = none ∨ m.HasInstance d o) :
    Same Machine.Even (b.call name o args m) (b.callTrusted name o args m) := by
  apply (checks_methodNamed name).same_bind
  intro row _
  apply (checks_requirePresent o).same_bind
  intro _ present
  have inst := hasInstance_of_present known present
  apply (checks_requireArguments _ args).same_bind
  intro _ _
  exact home.even_tested inst (isCall_runMember o _ args)

theorem Home.even_read (home : Home d m.layout c b) (known : o = none ∨ m.HasInstance d o) :
    Same Machine.Even (b.read name o m) (b.readTrusted name o m) := by
  apply (checks_fieldNamed name).same_bind
  intro row _
  apply (checks_requirePresent o).same_bind
  intro _ present
  have inst := hasInstance_of_present known present
  exact home.even_tested inst (isCall_runMember o _ [])

/-- A call that all other checks let through is refused by the test, for an instance of another
class. -/
theorem Home.refused_call (home : Home d m.layout c b) (foreign : m.HasForeign d o)
    (declared : Declares d name .method op) (takes : Takes op args) :
    Same Machine.Even (b.call name o args m)
      ((fail (.wrongClass d.className) : host.Request Value) m) := by
  obtain ⟨id, t, row, parsed, -⟩ := home.methodNamed declared
  have fits : b.requireArguments op t args m = (.ok (), m) :=
    (checks_requireArguments t args).eq_of_yields (takes.yields_requireArguments parsed)
  apply Same.after (congrArg (·, m) row)
  apply Same.after foreign.requirePresent_eq
  apply Same.after fits
  exact home.even_refused foreign

theorem Home.refused_read (home : Home d m.layout c b) (foreign : m.HasForeign d o)
    (declared : Declares d name .field op) :
    Same Machine.Even (b.read name o m)
      ((fail (.wrongClass d.className) : host.Request Value) m) := by
  obtain ⟨id, t, row, -⟩ := home.fieldNamed declared
  apply Same.after (congrArg (·, m) row)
  apply Same.after foreign.requirePresent_eq
  exact home.even_refused foreign

/-- After any run, a request about an instance of the class, or about null, has the same answer
whether it tests the instance or trusts it, errors included, and leaves the same machine but for
class look-ups. About an instance of another class, a request with the test that passes all other
checks is refused for its class, and but for class look-ups leaves the machine as it was. -/
theorem trusted_requests {d : Declaration} {m₀ m₁ : Machine} {b : Binding host}
    (resolved : Binding.resolve host d m₀ = (.ok b, m₁)) (run : List Happening) :
    let m := m₁.after run
    (∀ (name : String) (o : ObjectNumber), o = none ∨ m.HasInstance d o →
      (∀ args, Same Machine.Even (b.answer (.call false name o args) m)
        (b.answer (.call true name o args) m)) ∧
      Same Machine.Even (b.answer (.read false name o) m) (b.answer (.read true name o) m)) ∧
    ∀ (name : String) (o : ObjectNumber) (op : Operation), m.HasForeign d o →
      (∀ args, Declares d name .method op → Takes op args →
        Same Machine.Even (b.answer (.call false name o args) m)
          (.error (.wrongClass d.className), m)) ∧
      (Declares d name .field op →
        Same Machine.Even (b.answer (.read false name o) m)
          (.error (.wrongClass d.className), m)) := by
  obtain ⟨stays, c, home⟩ := home_of_resolve resolved
  intro m
  have later : Home d m.layout c b := by rwa [layout_after, stays]
  constructor
  · intro name o known
    exact ⟨fun args => (later.even_call known).reply, (later.even_read known).reply⟩
  · intro name o op foreign
    constructor
    · exact fun args declared takes => (later.refused_call foreign declared takes).reply
    · exact fun declared => (later.refused_read foreign declared).reply

/-- Points that can be made. -/
def newPoint : Declaration where
  className := "test/Point"
  operations := [.constructor "init" "(I)V"]

theorem plans_newPoint : newPoint.plans (ε := host.Failure) =
    .ok [(.constructor "init" "(I)V", .constructor ⟨[.primitive .int], .primitive .void⟩)] := by
  cbv

/-- A counter and a point are taken for counters, after the class of counters was unloaded. To test
the counter costs a look-up. -/
theorem trusted_requests_pointForCounter : ∃ b m₁ p m₁',
    Binding.resolve host { counter with retention := .weak } {} = (.ok b, m₁) ∧
    Binding.resolve host newPoint {} = (.ok p, m₁') ∧
    let run : List Happening :=
      [.ask b (madeWith 40), .ask p (madeWith 7), .feature (.unload "test/Counter")]
    let m := m₁.after run
    let trusted : Ask host := .call true "add" (some 0 : ObjectNumber) [(2 : Int32)]
    let wrong : Ask host := .call false "add" (some 1 : ObjectNumber) [(2 : Int32)]
    (b.answer (added 2) m).1 = .ok (.value (.int 42)) ∧
    (b.answer (added 2) m).2.classLookups = (b.answer trusted m).2.classLookups + 1 ∧
    Same Machine.Even (b.answer (added 2) m) (b.answer trusted m) ∧
    Same Machine.Even (b.answer wrong m) (.error (.wrongClass "test/Counter"), m) := by
  have resolved : Binding.resolve host { counter with retention := .weak } {} = (.ok _, _) :=
    (Progress.resolve_of_found (plans_counter .weak) rfl).trans rfl
  have points : Binding.resolve host newPoint {} = (.ok _, _) :=
    (Progress.resolve_of_found plans_newPoint rfl).trans rfl
  refine ⟨_, _, _, _, resolved, points, ?_⟩
  intro run m trusted wrong
  obtain ⟨even, refused⟩ := trusted_requests resolved run
  have takes : Takes (.method "add" "add" "(I)I") [2] :=
    ⟨⟨[.primitive .int], .primitive .int⟩, by cbv, rfl, by decide⟩
  have ofClass : m.HasInstance { counter with retention := .weak } (some 0) :=
    ⟨0, ⟨0, 40⟩, rfl, rfl, rfl⟩
  have foreign : m.HasForeign { counter with retention := .weak } (some 1) :=
    ⟨1, ⟨1, 7⟩, rfl, rfl, by decide⟩
  refine ⟨rfl, rfl, (even "add" (some 0) (.inr ofClass)).1 _, ?_⟩
  exact (refused "add" (some 1) (.method "add" "add" "(I)I") foreign).1 [2] ⟨rfl, rfl⟩ takes

end

end HandleCache.Counting

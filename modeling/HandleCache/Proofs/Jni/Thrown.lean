import HandleCache.Proofs.Jni.Beside
import HandleCache.Proofs.Jni.Constructors
import HandleCache.Proofs.Jni.Exceptions
import HandleCache.Proofs.Jni.Pending
import HandleCache.Proofs.Jni.Wrapped

/-!
# What members throw

A call looks things up before a member is run, and deletes references afterwards. An exception of a
look-up is taken away on the spot; one that the member throws has to come through all that follows.
So it matters in which order things are done: when the member is run nothing is pending, and of what
is done after it nothing makes or takes away an exception.

## Contents

- `Call`, `Invocation`: calls, and the runs of members that they ask for
- `Invocation.thrown?`: what a member throws on a machine
- `Machine.Quiet`, `Ran`: no member was run, or this one was
- `Forgets`: a call shows in nothing but the world once its exception is taken away
- `Course`: the courses that a call can take

## Main statements

- `Invocation.exception_run`: what is pending after a member was run
- `Machine.Owes.forgets`: references that are gone show in nothing
- `meets_run_checked`, `meets_run_nonNull`: what comes of running a member
- `exceptions_of_calls`: every call takes one of the courses
-/

namespace HandleCache.Jni

open HandleCache.Action

/-! ## Calls and the members that they run -/

/-- A call, as a program makes it. Calls of a wrapped object are calls of a trusted instance. -/
inductive Call where
  | method (trusted : Bool) (name : String) (o : Reference) (args : List (Value Reference))
  | static (name : String) (args : List (Value Reference))
  | create (name : String) (args : List (Value Reference))
  /-- Makes an object to be wrapped. -/
  | wrapNew (name : String) (args : List (Value Reference))

/-- The run of a member that a call asks for. -/
inductive Invocation where
  | method (o : Reference) (id : MemberId) (k : Kind) (args : List (Value Reference))
  | static (id : MemberId) (k : Kind) (args : List (Value Reference))
  | constructor (id : MemberId) (args : List (Value Reference))

/-- Makes the call. -/
def Call.perform (b : Binding host) : Call → host.Request (Reply host)
  | .method trusted name o args => b.answer (.call trusted name o args)
  | .static name args => b.answer (.callStatic name args)
  | .create name args => b.answer (.create name args)
  | .wrapNew name args => do return .object (← Jni.wrapNew b name args)

/-- What is to be run for the call, by the table of the binding. -/
def Call.invocation (b : Binding host) : Call → Except (Fault host.Failure) Invocation
  | .method _ name o args =>
    (b.methodNamed name).map fun v => .method o v.2.1 (Kind.ofType v.2.2.result) args
  | .static name args =>
    (b.staticMethodNamed name).map fun v => .static v.2.1 (Kind.ofType v.2.2.result) args
  | .create name args | .wrapNew name args =>
    (b.constructorNamed name).map fun v => .constructor v.2.1 args

namespace Invocation

/-- The function by which the member is run. -/
def function : Invocation → Function
  | method _ _ k _ => .callMethod k
  | static _ k _ => .callStaticMethod k
  | constructor _ _ => .newObject

/-- The member that is run. -/
def member : Invocation → MemberId
  | method _ id _ _ | static id _ _ | constructor id _ => id

/-- The exception that is left when it is run on a machine with nothing pending. -/
def thrown? (i : Invocation) (m : Machine) : Option String :=
  m.befalling i.function (m.world.throws? i.member)

/-- What it is called with, `c` being a reference to the class. -/
def operands (c : Reference) : Invocation → List Operand
  | method o id _ args => [.reference o, .member id, .arguments args]
  | static id _ args | constructor id args => [.reference c, .member id, .arguments args]

/-- The machine after the member was run, `c` being a reference to the class. -/
def run (c : Reference) : Invocation → Machine → Machine
  | method o id k args, m => (m.callMethod o id k args).2
  | static id k args, m => (m.callStatic c id k args).2
  | constructor id args, m => (m.newObject c id args).2

variable {m : Machine}

theorem runs_function (i : Invocation) : i.function.runs = true := by
  cases i <;> rfl

theorem called (i : Invocation) (c : Reference) (m : Machine) :
    m.Called i.function (i.operands c) (i.run c m) := by
  cases i with
  | method o id k args => exact m.called_callMethod o id k args
  | static id k args => exact m.called_callStatic c id k args
  | constructor id args => exact m.called_newObject c id args

/-- What is pending after a member was run. -/
theorem exception_run (i : Invocation) (c : Reference) (clear : m.exception = none) :
    (i.run c m).exception = i.thrown? m := by
  cases i with
  | method o id k args => exact m.exception_callMethod o id k args clear
  | static id k args => exact m.exception_callStatic c id k args clear
  | constructor id args => exact m.exception_newObject c id args clear

/-- A member that throws has made no reference. -/
theorem references_of_threw (i : Invocation) (c : Reference) {x : String}
    (clear : m.exception = none) (threw : (i.run c m).exception = some x) :
    (i.run c m).references = m.references := by
  cases i with
  | method o id k args => exact (m.makes_callMethod o id k args).references_of_threw clear threw
  | static id k args => exact (m.makes_callStatic c id k args).references_of_threw clear threw
  | constructor id args => exact (m.makes_newObject c id args).references_of_threw clear threw

end Invocation

namespace Machine

variable {m s t u : Machine} {f : Function} {operands : List Operand}

/-- The functions that run members have names of their own. -/
theorem name_ne_of_runs {g : Function} (h : f.runs = false) (runs : g.runs = true) :
    f.name ≠ g.name := by
  let others : List String := ["FindClass", "GetMethodID", "GetStaticMethodID", "GetFieldID",
    "GetStaticFieldID", "NewLocalRef", "NewGlobalRef", "NewWeakGlobalRef", "DeleteLocalRef",
    "DeleteGlobalRef", "DeleteWeakGlobalRef", "IsInstanceOf", "ExceptionClear", "GetJavaVM"]
  have among : f.name ∈ others := by
    cases f with
    | callMethod _ | callStaticMethod _ | newObject | getField _ | getStaticField _ => cases h
    | _ => decide
  have apart : g.name ∉ others := by
    cases g with
    | callMethod k | callStaticMethod k | getField k | getStaticField k =>
      rcases k with ⟨⟨⟩⟩ | _ <;> decide
    | newObject => decide
    | _ => cases runs
  exact fun same => apart (same ▸ among)

/-- No member was run since, and nothing has changed in the world, nor in what is to befall the
functions that run members. -/
structure Quiet (m t : Machine) : Prop where
  calls : m.Calls (fun e => e.function.runs = false) t
  world : t.world = m.world
  fates : ∀ f : Function, f.runs = true → t.fate? f = m.fate? f

theorem Quiet.refl (m : Machine) : m.Quiet m := ⟨Calls.refl m _, rfl, fun _ _ => rfl⟩

theorem Quiet.called (h : m.Quiet s) (call : s.Called f operands t) (runs : f.runs = false) :
    m.Quiet t where
  calls := h.calls.called call runs
  world := (call.world runs).trans h.world
  fates g gRuns := (call.fate?_eq (name_ne_of_runs runs gRuns)).trans (h.fates g gRuns)

/-- The journal is of no account. -/
theorem Quiet.note (h : m.Quiet s) (e : LogEntry) : m.Quiet { s with journal := s.journal ++ [e] } :=
  ⟨h.calls, h.world, h.fates⟩

/-- The virtual machine was asked for. -/
theorem Quiet.asked (h : m.Quiet s) :
    m.Quiet { s with queue := (next Function.getVirtualMachine.name s.queue).2 } where
  calls := h.calls
  world := h.world
  fates g runs := (next_next_of_ne (name_ne_of_runs (f := .getVirtualMachine) rfl runs) s.queue).trans
    (h.fates g runs)

/-- What a member throws is what it would have thrown before. -/
theorem Quiet.thrown?_eq (h : m.Quiet s) (i : Invocation) : i.thrown? s = i.thrown? m := by
  unfold Invocation.thrown? befalling
  rw [h.fates i.function i.runs_function, h.world]

/-- When an object is found to be of a class, the test has left nothing else behind. -/
theorem exception_isInstanceOf {o c : Reference} (said : (m.isInstanceOf o c).1 = true) :
    (m.isInstanceOf o c).2.exception = m.exception := by
  unfold isInstanceOf at said ⊢
  split
  · next h =>
    rw [h] at said
    cases said
  · next h =>
    have same := exception_of_enter h
    split <;> exact same

end Machine

/-- From `m` on this was run, once and with nothing pending, and no other member. -/
def Ran (m : Machine) (i : Invocation) (t : Machine) : Prop :=
  ∃ c u, m.Quiet u ∧ u.exception = none ∧ (i.run c u).Quiet t

/-- Once the pending exception is taken away, whatever happens comes to the same as on `m`, had only
the world changed and what the machine remembers of calls. The references that are made are others
by number, for as many as were made meanwhile. -/
def Forgets (m t : Machine) : Prop :=
  ∀ (run : List Happening) (next : Happening),
    let n := m.references.length
    let k := t.references.length - n
    let s := Machine.after { t with exception := none } (run.map (Happening.rename (shifting n k)))
    let s' := Machine.after
      { m with world := t.world, queue := t.queue, trace := t.trace, journal := t.journal } run
    ((next.rename (shifting n k)).perform s).1 =
        (next.perform s').1.map (Yield.rename (shifting n k)) ∧
      Beside n k ((next.rename (shifting n k)).perform s).2 (next.perform s').2

/-- The courses that a call can take, by what is to be run for it. -/
inductive Course {α : Type} (asked : Except (Fault host.Failure) Invocation) (m : Machine) :
    Except (Fault host.Failure) α → Machine → Prop where
  /-- No member is run. -/
  | stopped {fault : Fault host.Failure} {t : Machine} (quiet : m.Quiet t) :
      Course asked m (.error fault) t
  /-- The member is run and returns, and nothing is pending afterwards. -/
  | returned {i : Invocation} {answer : Except (Fault host.Failure) α} {t : Machine}
      (ask : asked = .ok i) (mild : i.thrown? m = none) (ran : Ran m i t)
      (clear : t.exception = none) : Course asked m answer t
  /-- The member is run and throws. The exception is still pending afterwards, and nothing else
  remains of the call. -/
  | threw {i : Invocation} {x : String} {t : Machine} (ask : asked = .ok i)
      (throws : i.thrown? m = some x) (ran : Ran m i t) (pending : t.exception = some x)
      (owes : m.Owes [] t) (forgets : Forgets m t) :
      Course asked m (.error (.host .exceptionThrown)) t

section

variable {m s t : Machine} {i : Invocation} {x : String} {α β : Type}
  {asked : Except (Fault host.Failure) Invocation} {due : List (Nat × ReferenceKind)}

/-- The references that were made since are gone, so that they show in nothing but numbers. -/
theorem Machine.Owes.forgets (owes : m.Owes [] t) (clear : m.exception = none) : Forgets m t := by
  intro run next
  dsimp only
  have length := owes.old.length_le
  have beside : Beside m.references.length (t.references.length - m.references.length)
      { t with exception := none }
      { m with world := t.world, queue := t.queue, trace := t.trace, journal := t.journal } := by
    refine ⟨rfl, clear.symm, rfl, rfl, rfl, Nat.le_refl _, by dsimp only; omega, fun r => ?_⟩
    cases r with
    | none => rfl
    | some i =>
      by_cases old : i < m.references.length
      · rw [shift_of_lt _ old]
        have kept : t.references[i]? = some m.references[i] :=
          List.prefix_iff_getElem?.mp owes.old i old
        exact kept.trans (List.getElem?_eq_getElem old).symm
      · rw [shift_of_le _ (Nat.not_lt.mp old)]
        show t.references[i + (t.references.length - m.references.length)]? = m.references[i]?
        rw [List.getElem?_eq_none (by omega), List.getElem?_eq_none (by omega)]
  exact mirrors_perform next _ _ (beside.after run)

/-! ## Before and after a member is run -/

/-- No member was run so far, and only what is due is left of what was done. -/
structure Poised (m : Machine) (due : List (Nat × ReferenceKind)) (s : Machine) : Prop where
  quiet : m.Quiet s
  clear : s.exception = none
  mild : s.Mild
  owes : m.Owes due s

/-- The member was run and has returned. -/
structure Returned (m : Machine) (i : Invocation) (s : Machine) : Prop where
  unthrown : i.thrown? m = none
  ran : Ran m i s
  clear : s.exception = none
  mild : s.Mild

/-- The member was run and has thrown, and only what is due is left of what was done. -/
structure Threw (m : Machine) (i : Invocation) (x : String) (due : List (Nat × ReferenceKind))
    (s : Machine) : Prop where
  throws : i.thrown? m = some x
  ran : Ran m i s
  pending : s.exception = some x
  mild : s.Mild
  owes : m.Owes due s

theorem Ran.called {f : Function} {operands : List Operand} (h : Ran m i s)
    (call : s.Called f operands t) (runs : f.runs = false) : Ran m i t := by
  obtain ⟨c, u, before, clear, after⟩ := h
  exact ⟨c, u, before, clear, after.called call runs⟩

theorem Poised.start (clear : m.exception = none) (mild : m.Mild) : Poised m [] m :=
  ⟨.refl m, clear, mild, .refl m⟩

theorem Poised.drop {c : Reference} (h : Poised m (owing .local c due) s) :
    Poised m due (dropLocal c s) :=
  have call := s.called_deleteReference .local c
  ⟨h.quiet.called call rfl, (h.mild.deleteLocal c).trans h.clear, h.mild.taken call.queue,
    h.owes.drop⟩

theorem Returned.drop (h : Returned m i s) (c : Reference) : Returned m i (dropLocal c s) :=
  have call := s.called_deleteReference .local c
  ⟨h.unthrown, h.ran.called call rfl, (h.mild.deleteLocal c).trans h.clear, h.mild.taken call.queue⟩

theorem Threw.drop {c : Reference} (h : Threw m i x (owing .local c due) s) :
    Threw m i x due (dropLocal c s) :=
  have call := s.called_deleteReference .local c
  ⟨h.throws, h.ran.called call rfl, (h.mild.deleteLocal c).trans h.pending, h.mild.taken call.queue,
    h.owes.drop⟩

/-- A member that is run now ends as it would have ended at first. -/
theorem Poised.exception_run (h : Poised m due s) (i : Invocation) (c : Reference) :
    (i.run c s).exception = i.thrown? m :=
  (i.exception_run c h.clear).trans (h.quiet.thrown?_eq i)

theorem Poised.returned (h : Poised m due s) (c : Reference)
    (clear : (i.run c s).exception = none) : Returned m i (i.run c s) :=
  ⟨(h.exception_run i c).symm.trans clear, ⟨c, s, h.quiet, h.clear, .refl _⟩, clear,
    h.mild.taken (i.called c s).queue⟩

theorem Poised.threw (h : Poised m due s) (c : Reference)
    (pending : (i.run c s).exception = some x) : Threw m i x due (i.run c s) :=
  ⟨(h.exception_run i c).symm.trans pending, ⟨c, s, h.quiet, h.clear, .refl _⟩, pending,
    h.mild.taken (i.called c s).queue, h.owes.of_references (i.references_of_threw c h.clear pending)⟩

/-! ## Courses -/

theorem Returned.course (h : Returned m i s) (answer : Except (Fault host.Failure) α) :
    Course (.ok i) m answer s :=
  .returned rfl h.unthrown h.ran h.clear

theorem Threw.course (h : Threw m i x [] s) (clear : m.exception = none) :
    Course (.ok i) m (.error (.host .exceptionThrown) : Except (Fault host.Failure) α) s :=
  .threw rfl h.throws h.ran h.pending h.owes (h.owes.forgets clear)

/-- An answer that is told in other words. -/
theorem Course.reply {answer : Except (Fault host.Failure) α} {g : α → β}
    (h : Course asked m answer t) : Course asked m (answer.map g) t := by
  cases h with
  | stopped quiet => exact .stopped quiet
  | returned ask mild ran clear => exact .returned ask mild ran clear
  | threw ask throws ran pending owes forgets => exact .threw ask throws ran pending owes forgets

/-- From where `K` holds the action takes one of the courses. -/
abbrev Takes (asked : Except (Fault host.Failure) Invocation) (m : Machine) (K : Machine → Prop)
    (y : host.Request α) : Prop :=
  Meets K y (fun v s => Course asked m (.ok v : Except (Fault host.Failure) α) s)
    fun e s => Course asked m (.error e : Except (Fault host.Failure) α) s

theorem Takes.reply {K : Machine → Prop} {y : host.Request α} {g : α → β} (h : Takes asked m K y) :
    Takes asked m K (y >>= fun v => pure (g v)) := by
  refine Meets.bind (F := fun v s => Course asked m (.ok v : Except (Fault host.Failure) α) s) ?_
    fun v => .pure fun _ course => course.reply (g := g)
  exact h.conseq (fun _ known => known) (fun _ _ course => course) fun _ _ course =>
    course.reply (g := g)

/-! ## Running a member -/

/-- What comes of running a member: it returns, or it throws and its answer is lost. -/
theorem meets_run_checked (i : Invocation) (c : Reference) {f : Machine → α × Machine}
    (runs : ∀ s, (f s).2 = i.run c s) :
    Meets (Poised m due) (checked f) (fun _ => Returned m i)
      fun e s => e = .exceptionThrown ∧ ∃ x, Threw m i x due s := by
  refine meets_checked_cases (fun s h clear => ?_) fun s x h pending => ?_
  · rw [runs] at clear ⊢
    exact h.returned c clear
  · rw [runs] at pending ⊢
    exact ⟨rfl, x, h.threw c pending⟩

/-- The same of a constructor, which may also yield nothing. -/
theorem meets_run_nonNull (i : Invocation) (c : Reference) {f : Machine → Option α × Machine}
    {failure : Failure} (runs : ∀ s, (f s).2 = i.run c s) :
    Meets (Poised m due) (nonNull failure f) (fun _ => Returned m i)
      fun e s => Returned m i s ∨ e = .exceptionThrown ∧ ∃ x, Threw m i x due s := by
  refine meets_nonNull_cases (fun s v h clear _ => ?_) (fun s h clear _ => .inl ?_)
    fun s x h pending => .inr ?_
  · rw [runs] at clear ⊢
    exact h.returned c clear
  · rw [runs] at clear ⊢
    exact h.returned c clear
  · rw [runs] at pending ⊢
    exact ⟨rfl, x, h.threw c pending⟩

/-! ## Classes -/

theorem keeps_quiet_obtainClass (b : Binding host) : Keeps m.Quiet b.obtainClass := by
  refine b.meets_obtainClass (fun _ => ?_) (fun p _ => .query fun s h => ?_)
    (fun w _ => .query fun s h => ?_) (fun _ h => h) fun e s h => h.note e
  · refine meets_lookup (T := m.Quiet) (meets_nonNull (fun s _ h _ => ?_) fun s h => ?_)
      fun s told h => ?_
    · exact h.called (s.called_findClass _) rfl
    · exact h.called (s.called_findClass _) rfl
    · exact (h.note told).called (Machine.called_exceptionClear _) rfl
  · exact h.called (s.called_newReference .local p) rfl
  · have made := h.called (s.called_newReference .local w) rfl
    exact ⟨fun _ _ => made, fun _ => made⟩

theorem meets_obtainClass_poised (b : Binding host) (clear : m.exception = none) (mild : m.Mild) :
    Meets (· = m) b.obtainClass (fun c => Poised m (owing .local c [])) fun _ => m.Quiet := by
  have docile : m.Docile := fun x next => (mild x).1 (Machine.mem_of_next next)
  have steady : Keeps (Steady m) b.obtainClass := keeps_steady_obtainClass b
  have quiet : Keeps m.Quiet b.obtainClass := keeps_quiet_obtainClass b
  refine (((owes_obtainClass b clear docile).and steady).and quiet).conseq ?_ (fun c s h => ?_)
    fun _ s h => h.2
  · rintro _ rfl
    exact ⟨⟨rfl, .start clear mild⟩, .refl _⟩
  · exact ⟨h.2, h.1.1.2, h.1.2.mild, h.1.1.1⟩

/-- To test an instance is to run no member, and what has been had for it is gone again. -/
theorem meets_requireInstance_poised (b : Binding host) (o : Reference) (clear : m.exception = none)
    (mild : m.Mild) : Meets (· = m) (b.requireInstance o) (fun _ => Poised m []) fun _ => m.Quiet := by
  refine b.meets_requireInstance o (meets_obtainClass_poised b clear mild) fun c => .query fun s h => ?_
  have call := s.called_isInstanceOf o c
  have quiet : m.Quiet (dropLocal c (s.isInstanceOf o c).2) :=
    (h.quiet.called call rfl).called (Machine.called_deleteReference .local c _) rfl
  split
  · next said =>
    have tested : Poised m (owing .local c []) (s.isInstanceOf o c).2 :=
      ⟨h.quiet.called call rfl, (Machine.exception_isInstanceOf said).trans h.clear,
        h.mild.taken call.queue, h.owes.of_references (s.references_isInstanceOf o c)⟩
    exact tested.drop
  · exact quiet

/-! ## Calls -/

theorem takes_callMethod (clear : m.exception = none) (o : Reference) (id : MemberId)
    (d : MethodDescriptor) (args : List (Value Reference)) :
    Takes (.ok (.method o id (Kind.ofType d.result) args)) m (Poised m [])
      (Host.direct (H := host) (host.callMethod o id d args)) := by
  refine .mapError_told ?_
  refine (meets_run_checked (.method o id (Kind.ofType d.result) args) none fun _ => rfl).conseq
    (fun _ h => h) (fun v _ h => h.course _) ?_
  rintro _ s ⟨rfl, x, threw⟩
  exact threw.course clear

variable (b : Binding host)

/-- What a check refuses is refused before a member is run. -/
theorem takes_check {x : host.Request Unit} {y : Unit → host.Request α} (check : Keeps (· = m) x)
    (h : Takes asked m (· = m) (y ())) : Takes asked m (· = m) (x >>= y) := by
  refine Meets.bind (F := fun _ s => s = m) ?_ fun _ => h
  exact check.conseq (fun _ h => h) (fun _ _ h => h) fun _ s same => .stopped (same ▸ .refl m)

/-- What is not in the table is refused at once. -/
theorem takes_named {γ : Type} {named : Except (Fault host.Failure) γ} {f : γ → Invocation}
    {y : γ → host.Request α} (h : ∀ v, Takes (.ok (f v)) m (· = m) (y v)) :
    Takes (named.map f) m (· = m) (Action.ofExcept named >>= y) := by
  cases named with
  | ok v => exact h v
  | error fault => exact fun s same => .stopped (same ▸ .refl m)

theorem takes_call (clear : m.exception = none) (mild : m.Mild) (trusted : Bool) (name : String)
    (o : Reference) (args : List (Value Reference)) :
    Takes ((Call.method trusted name o args).invocation b) m (· = m)
      ((Call.method trusted name o args).perform b) := by
  have present (op : Operation) : Keeps (· = m) (b.requirePresent op o) :=
    b.keeps_requirePresent op fun _ h => h
  have fits (op : Operation) (d : MethodDescriptor) : Keeps (· = m) (b.requireArguments op d args) :=
    b.keeps_requireArguments op d args fun _ _ _ h => h
  cases trusted with
  | true =>
    refine Takes.reply (takes_named fun v => takes_check (present v.1) (takes_check (fits v.1 v.2.2) ?_))
    refine (takes_callMethod clear o v.2.1 v.2.2 args).conseq ?_ (fun _ _ h => h) fun _ _ h => h
    rintro _ rfl
    exact .start clear mild
  | false =>
    refine Takes.reply (takes_named fun v => takes_check (present v.1) (takes_check (fits v.1 v.2.2) ?_))
    refine Meets.bind (F := fun _ => Poised m []) ?_ fun _ => takes_callMethod clear o v.2.1 v.2.2 args
    exact (meets_requireInstance_poised b o clear mild).conseq (fun _ h => h) (fun _ _ h => h)
      fun _ _ quiet => .stopped quiet

/-- The class reference is deleted whatever comes of the call, and what is pending stays so. -/
theorem takes_callStatic (clear : m.exception = none) (mild : m.Mild) (name : String)
    (args : List (Value Reference)) :
    Takes ((Call.static name args).invocation b) m (· = m) ((Call.static name args).perform b) := by
  have fits (op : Operation) (d : MethodDescriptor) : Keeps (· = m) (b.requireArguments op d args) :=
    b.keeps_requireArguments op d args fun _ _ _ h => h
  refine Takes.reply (takes_named fun v => takes_check (fits v.1 v.2.2) ?_)
  have obtained := meets_obtainClass_poised b clear mild
  refine Meets.bracket (F := fun c => Poised m (owing .local c [])) ?_ fun c => .mapError_told ?_
  · exact obtained.conseq (fun _ h => h) (fun _ _ h => h) fun _ _ quiet => .stopped quiet
  · refine (meets_run_checked (.static v.2.1 (Kind.ofType v.2.2.result) args) c fun _ => rfl).conseq
      (fun _ h => h) (fun v _ h => (h.drop c).course _) ?_
    rintro _ s ⟨rfl, x, threw⟩
    exact threw.drop.course clear

/-- The same of a constructor; a new object is answered with nothing pending. -/
theorem meets_create_returned (clear : m.exception = none) (mild : m.Mild) (name : String)
    (args : List (Value Reference)) :
    Meets (· = m) (b.create name args)
      (fun _ s => ∃ i, (Call.create name args).invocation b = .ok i ∧ Returned m i s)
      fun e s => Course ((Call.create name args).invocation b) m
        (.error e : Except (Fault host.Failure) Reference) s := by
  have obtained := (meets_obtainClass_poised b clear mild).conseq (fun _ h => h) (fun _ _ h => h)
    fun e s quiet => show Course ((Call.create name args).invocation b) m
      (.error e : Except (Fault host.Failure) Reference) s from .stopped quiet
  refine b.meets_create name args (fun _ _ _ h => h) ?_ obtained fun c op id d named => ?_
  · rintro fault s - rfl
    exact .stopped (.refl s)
  · have ask : (Call.create name args).invocation b = .ok (.constructor id args) :=
      congrArg (Except.map fun v : Operation × MemberId × MethodDescriptor =>
        Invocation.constructor v.2.1 args) named
    have ran : Meets (Poised m (owing .local c []))
        (nonNull (.nullPointer "NewObjectA result") (someReference (Machine.newObject c id args)))
        (fun _ => Returned m (.constructor id args)) _ :=
      meets_run_nonNull (.constructor id args) c fun _ => rfl
    rw [ask]
    refine ran.conseq (fun _ h => h) (fun _ s h => ⟨_, rfl, h.drop c⟩) ?_
    rintro e s (returned | ⟨rfl, x, threw⟩)
    · exact (returned.drop c).course _
    · exact threw.drop.course clear

theorem takes_create (clear : m.exception = none) (mild : m.Mild) (name : String)
    (args : List (Value Reference)) :
    Takes ((Call.create name args).invocation b) m (· = m) ((Call.create name args).perform b) := by
  refine Takes.reply ((meets_create_returned b clear mild name args).conseq (fun _ h => h) ?_
    fun _ _ h => h)
  rintro o s ⟨i, ask, returned⟩
  rw [ask]
  exact returned.course _

/-- To hold an object globally leaves nothing pending. -/
theorem keeps_returned_holdGlobally (fine : ¬ m.Fails .newGlobalRef) (o : Reference) :
    Meets (fun s => Returned m i s ∧ m.Awaits s) (holdGlobally o) (fun _ => Returned m i)
      fun _ => Returned m i := by
  refine .mapError (Meets.bind (F := fun _ s => Returned m i s ∧ m.Awaits s) ?_ fun _ => .query ?_)
  · have asked : Keeps (fun s => Returned m i s ∧ m.Awaits s) requireVirtualMachine := by
      refine keeps_requireVirtualMachine fun s ⟨h, awaits⟩ => ?_
      obtain ⟨c, u, before, clear, after⟩ := h.ran
      exact ⟨⟨h.unthrown, ⟨c, u, before, clear, after.asked⟩, h.clear, h.mild.taken rfl⟩,
        (Machine.stable_awaits m).asked awaits⟩
    exact asked.conseq (fun _ h => h) (fun _ _ h => h) fun _ _ h => h.1
  · rintro s ⟨h, awaits⟩
    have call := s.called_newReference .global o
    refine ⟨h.unthrown, h.ran.called call rfl, ?_, h.mild.taken call.queue⟩
    rw [Machine.exception_newReference, Machine.exception_enter]
    split
    · next x struck =>
      have fails : s.Fails .newGlobalRef := ⟨_, struck, nofun⟩
      exact absurd ((awaits.fails_iff rfl).mp fails) fine
    · exact h.clear

/-- The local reference to an object that was made to be wrapped is deleted as well. -/
theorem takes_wrapNew (clear : m.exception = none) (mild : m.Mild) (fine : ¬ m.Fails .newGlobalRef)
    (name : String) (args : List (Value Reference)) :
    Takes ((Call.wrapNew name args).invocation b) m (· = m) ((Call.wrapNew name args).perform b) := by
  have awaits : Keeps m.Awaits (b.create name args) :=
    ((Machine.stable_awaits m).routine.service b).create name args
  have made := (meets_create_returned b clear mild name args).and awaits
  refine Takes.reply (Meets.bracket (F := fun _ s =>
    ∃ i, (Call.wrapNew name args).invocation b = .ok i ∧ Returned m i s ∧ m.Awaits s) ?_ fun o => ?_)
  · refine made.conseq ?_ ?_ fun _ _ h => h.1
    · rintro _ rfl
      exact ⟨rfl, .refl _⟩
    · rintro o s ⟨⟨i, ask, returned⟩, awaits⟩
      exact ⟨i, ask, returned, awaits⟩
  · rintro s ⟨i, ask, h⟩
    have held := keeps_returned_holdGlobally fine o s h
    rw [ask]
    cases run : holdGlobally o s with
    | mk answer t =>
      rw [run] at held
      cases answer with
      | ok g => exact (held.drop o).course _
      | error fault => exact (held.drop o).course _

/-! ## Exceptions of calls -/

/-- A member that throws leaves one course, if it is run. -/
theorem Course.of_throws {answer : Except (Fault host.Failure) α} (h : Course asked m answer t)
    (ask : asked = .ok i) (throws : i.thrown? m = some x) (run : ¬ m.Quiet t) :
    answer = .error (.host .exceptionThrown) ∧ t.exception = some x ∧ Forgets m t := by
  cases h with
  | stopped quiet => exact absurd quiet run
  | returned ask' mild ran clear =>
    cases ask.symm.trans ask'
    cases throws.symm.trans mild
  | threw ask' throws' ran pending owes forgets =>
    cases ask.symm.trans ask'
    exact ⟨rfl, pending.trans (throws'.symm.trans throws), forgets⟩

/-- Made with nothing pending, where to make and to delete local references throws nothing and to
make a global one does not go wrong, every call takes one of the courses. So when its member is run
and throws, this is what the caller is told, which is neither misuse nor a fault of resolution, and
the exception is still pending though the class reference was deleted meanwhile; and once it is taken
away, whatever is done next comes to the same as if the call had only done what its member did to
the world. And a call that answers leaves nothing pending. -/
theorem exceptions_of_calls (m : Machine) (clear : m.exception = none) (mild : m.Mild)
    (fine : ¬ m.Fails .newGlobalRef) (b : Binding host) (call : Call) :
    let answer := (call.perform b m).1
    let t := (call.perform b m).2
    Course (call.invocation b) m answer t ∧
      (∀ i x, call.invocation b = .ok i → i.thrown? m = some x → ¬ m.Quiet t →
        answer = .error (.host .exceptionThrown) ∧ t.exception = some x ∧ Forgets m t) ∧
      (∀ v, answer = .ok v → t.exception = none) ∧
      (Fault.host Failure.exceptionThrown).isMisuse = false ∧
      (Fault.host Failure.exceptionThrown).isResolution = false := by
  have takes : Takes (call.invocation b) m (· = m) (call.perform b) := by
    cases call with
    | method trusted name o args => exact takes_call b clear mild trusted name o args
    | static name args => exact takes_callStatic b clear mild name args
    | create name args => exact takes_create b clear mild name args
    | wrapNew name args => exact takes_wrapNew b clear mild fine name args
  have course : Course (call.invocation b) m (call.perform b m).1 (call.perform b m).2 := by
    have taken := takes m rfl
    cases run : call.perform b m with
    | mk answer t =>
      rw [run] at taken
      cases answer with
      | ok v => exact taken
      | error fault => exact taken
  refine ⟨course, fun i x ask throws run => course.of_throws ask throws run, fun v answered => ?_,
    rfl, rfl⟩
  generalize (call.perform b m).1 = answer at course answered
  subst answered
  cases course with
  | returned ask mild ran clear => exact clear

end

/-- A world with one class, whose constructor throws. -/
def minefield : World where
  classes := [{
    name := "a/A"
    parent := none
    members := [⟨"<init>", "()V", false, .throws "java/lang/Error"⟩] }]

/-- An object is to be made and wrapped, with a reference to its class that is deleted before the
caller is told; once the exception is taken away the call shows in nothing. -/
theorem exceptions_of_calls_minefield : ∃ b m,
    Binding.resolve host (makes "<init>" "()V") { world := minefield } = (.ok b, m) ∧
      let t := ((Call.wrapNew "make" []).perform b m).2
      ((Call.wrapNew "make" []).perform b m).1 = .error (.host .exceptionThrown) ∧
      t.exception = some "java/lang/Error" ∧ t.references.live .local = 0 ∧ Forgets m t := by
  obtain ⟨b, m, resolved, clear, empty, live, before, after, ask⟩ : ∃ b m,
      Binding.resolve host (makes "<init>" "()V") { world := minefield } = (.ok b, m) ∧
        let t := ((Call.wrapNew "make" []).perform b m).2
        m.exception = none ∧ m.queue = [] ∧ t.references.live .local = 0 ∧
        m.trace.countP (·.function.runs) = 0 ∧ t.trace.countP (·.function.runs) = 1 ∧
        ∃ i, (Call.wrapNew "make" []).invocation b = .ok i ∧
          i.thrown? m = some "java/lang/Error" :=
    ⟨_, _, (Progress.resolve_of_found (plans_makes _).1 rfl).trans rfl, rfl, rfl, rfl, rfl, rfl, _,
      rfl, rfl⟩
  obtain ⟨i, asked, throws⟩ := ask
  have mild : m.Mild := by simp [Machine.Mild, empty]
  have fine : ¬ m.Fails .newGlobalRef := by simp [Machine.Fails, Machine.fate?, Machine.next, empty]
  -- One member was run.
  have run : ¬ m.Quiet ((Call.wrapNew "make" []).perform b m).2 := by
    rintro ⟨⟨es, traced, quiet⟩, -, -⟩
    have none : es.countP (·.function.runs) = 0 := List.countP_eq_zero.mpr (by simpa using quiet)
    rw [traced, List.countP_append, before, none] at after
    cases after
  obtain ⟨-, threw, -⟩ := exceptions_of_calls m clear mild fine b (.wrapNew "make" [])
  obtain ⟨told, pending, forgets⟩ := threw i _ asked throws run
  exact ⟨b, m, resolved, told, pending, live, forgets⟩

end HandleCache.Jni

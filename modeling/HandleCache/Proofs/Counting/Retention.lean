import HandleCache.Binding.Progress
import HandleCache.Proofs.Counting.Cached

/-!
# What is kept of the class makes no difference

Bindings of declarations that differ in the retention alone have one table. What they do to obtain
the class differs, but neither can be told from the other by what it answers, however long it is
used and whatever happens in between. Only what it costs to obtain the class can differ.

## Contents

- `Machine.Alike`: machines that differ at most in class look-ups, pins and the journal
- `Turn`, `Binding.play`: a run of requests to one binding, with what happens in between

## Main statements

- `agreement_alike`: the machine does not tell alike machines apart
- `alike_resolve`: resolutions that differ in the retention leave alike machines and one table
- `alike_play`: bindings at home with one table answer a run alike
- `cached_calls`: a binding answers as look-ups would, whatever it keeps
-/

namespace HandleCache.Counting

open HandleCache.Action

/-! ## Machines that are alike -/

/-- The machines differ at most in how often classes were looked up, in the pins that are out and in
what the journal was told. -/
structure Machine.Alike (m m' : Machine) : Prop where
  classes : m.classes = m'.classes
  objects : m.objects = m'.objects
  memberLookups : m.memberLookups = m'.memberLookups
  liveClasses : m.liveClasses = m'.liveClasses
  calls : m.calls = m'.calls
  pinsFail : m.pinsFail = m'.pinsFail

namespace Machine.Alike

variable {m m' m'' : Machine}

theorem refl (m : Machine) : m.Alike m := ⟨rfl, rfl, rfl, rfl, rfl, rfl⟩

theorem symm (h : m.Alike m') : m'.Alike m :=
  ⟨h.classes.symm, h.objects.symm, h.memberLookups.symm, h.liveClasses.symm, h.calls.symm,
    h.pinsFail.symm⟩

theorem trans (h : m.Alike m') (h' : m'.Alike m'') : m.Alike m'' :=
  ⟨h.classes.trans h'.classes, h.objects.trans h'.objects,
    h.memberLookups.trans h'.memberLookups, h.liveClasses.trans h'.liveClasses,
    h.calls.trans h'.calls, h.pinsFail.trans h'.pinsFail⟩

theorem layout (h : m.Alike m') : m.layout = m'.layout := by
  simp only [Machine.layout, h.classes]

end Machine.Alike

theorem IsCall.agree_alike {α : Type} {x : Machine.Step α} (call : IsCall x) :
    Agree Machine.Alike x x := by
  intro m m' alike
  rw [call m m rfl rfl, call m m' alike.classes.symm alike.objects.symm]
  exact ⟨rfl, { alike with objects := rfl, calls := congrArg (· + 1) alike.calls }⟩

theorem agree_findClass (name : String) :
    Agree Machine.Alike (Machine.findClass name) (Machine.findClass name) := by
  intro m m' alike
  cases found : m.layout.class? name with
  | some c =>
    rw [Machine.findClass_of_class? found, Machine.findClass_of_class? (alike.layout ▸ found)]
    exact ⟨rfl, { alike with liveClasses := congrArg (· + 1) alike.liveClasses }⟩
  | none =>
    rw [Machine.findClass_of_none found, Machine.findClass_of_none (alike.layout ▸ found)]
    exact ⟨rfl, { alike with }⟩

theorem agree_findMember (missing : Failure) (isStatic : Bool) (c : Nat) (name signature : String) :
    Agree Machine.Alike (Machine.findMember missing isStatic c name signature)
      (Machine.findMember missing isStatic c name signature) := by
  rintro ⟨classes⟩ ⟨classes'⟩ ⟨same, objects, lookups, live, calls, fails⟩
  cases same
  have counted := congrArg (· + 1) lookups
  unfold Machine.findMember
  dsimp only
  cases classes[c]? with
  | none => exact ⟨rfl, rfl, objects, counted, live, calls, fails⟩
  | some info =>
    dsimp only
    split
    · exact ⟨rfl, rfl, objects, counted, live, calls, fails⟩
    · exact ⟨rfl, rfl, objects, counted, live, calls, fails⟩

theorem agree_strengthen (c : Nat) :
    Agree Machine.Alike (Machine.strengthen c) (Machine.strengthen c) := by
  intro m m' alike
  cases there : m.classes[c]? with
  | none =>
    have there' : m'.classes[c]? = none := alike.classes ▸ there
    simp only [Machine.strengthen, there, there']
    exact ⟨rfl, alike⟩
  | some info =>
    have there' : m'.classes[c]? = some info := alike.classes ▸ there
    by_cases gone : info.unloaded = true
    · rw [Machine.strengthen_of_unloaded there gone, Machine.strengthen_of_unloaded there' gone]
      exact ⟨rfl, alike⟩
    · rw [Machine.strengthen_of_loaded there gone, Machine.strengthen_of_loaded there' gone]
      exact ⟨rfl, { alike with liveClasses := congrArg (· + 1) alike.liveClasses }⟩

theorem agree_pin (c : Nat) : Agree Machine.Alike (Machine.pin c) (Machine.pin c) := by
  intro m m' alike
  unfold Machine.pin
  by_cases full : m.pinsFail = true
  · rw [if_pos full, if_pos (alike.pinsFail ▸ full)]
    exact ⟨rfl, alike⟩
  · rw [if_neg full, if_neg (alike.pinsFail ▸ full)]
    exact ⟨rfl, { alike with }⟩

theorem agree_isInstance (o : ObjectNumber) (c : Nat) :
    Agree Machine.Alike (Machine.isInstance o c) (Machine.isInstance o c) := by
  intro m m' alike
  cases o with
  | none => exact ⟨rfl, alike⟩
  | some i =>
    have there : m.instance? (some i) = m'.instance? (some i) := by
      simp only [Machine.instance?, alike.objects]
    unfold Machine.isInstance
    dsimp only
    rw [there]
    cases m'.instance? (some i) with
    | none => exact ⟨rfl, alike⟩
    | some found => exact ⟨rfl, alike⟩

/-- Nothing that the machine answers tells alike machines apart. -/
theorem agreement_alike : host.Agreement Machine.Alike where
  findClass := agree_findClass
  findMethod c n s := agree_findMember (.noMethod n s) false c n s
  findStaticMethod c n s := agree_findMember (.noMethod n s) true c n s
  findField c n s := agree_findMember (.noField n s) false c n s
  findStaticField c n s := agree_findMember (.noField n s) true c n s
  callMethod o id _ args := (isCall_runMember o id args).agree_alike
  callStatic _ id _ args := (isCall_runMember none id args).agree_alike
  newObject _ id _ args := (isCall_make id args).agree_alike
  readField o id _ := (isCall_runMember o id []).agree_alike
  readStatic _ id _ := (isCall_runMember none id []).agree_alike
  releaseClass _ _ _ alike := { alike with liveClasses := congrArg (· - 1) alike.liveClasses }
  pin := agree_pin
  weaken _ _ _ alike := ⟨rfl, alike⟩
  classOfPin _ _ _ alike :=
    ⟨rfl, { alike with liveClasses := congrArg (· + 1) alike.liveClasses }⟩
  classOfWeak := agree_strengthen
  isNull _ _ _ alike := ⟨rfl, alike⟩
  isInstance := agree_isInstance
  accepts _ _ _ _ alike := ⟨rfl, alike⟩
  note _ _ _ alike := { alike with }

theorem alike_afterOne {m m' : Machine} (alike : m.Alike m') (h : Happening) :
    (m.afterOne h).Alike (m'.afterOne h) := by
  cases h with
  | resolve d => exact (agreement_alike.resolve d m m' alike).state
  | ask b ask =>
    exact (agreement_alike.answer (.refl b) (agreement_alike.obtainClass b) ask m m' alike).state
  | release b =>
    show (b.release m).Alike (b.release m')
    unfold Binding.release
    cases b.retained with
    | nothing => exact alike
    | weakly c => exact alike
    | pinned c => exact { alike with }
  | feature f =>
    cases f with
    | unload name =>
      have same : (m.unload name).classes = (m'.unload name).classes := by
        simp only [Machine.unload, alike.classes]
      exact { alike with classes := same }
    | failPins on => exact { alike with pinsFail := rfl }
    | session => exact alike

/-! ## Resolutions that differ in the retention -/

section

variable {d : Declaration} {r : Retention} {m m₀ m₁ m₁' : Machine} {b b' : Binding host} {c : Nat}
  {l : Layout}

/-- To make what is to be kept takes a pin at most. -/
theorem keeps_alike_retain (c : Nat) (d : Declaration) :
    Keeps (·.Alike m) (Host.retain (H := host) c d) := by
  unfold Host.retain
  cases d.retention with
  | drop => exact .pure fun _ alike => alike
  | weak => exact fun _ alike => alike
  | global =>
    have pinned : Keeps (·.Alike m) (Machine.pin c) := by
      intro t alike
      unfold Machine.pin
      by_cases full : t.pinsFail = true
      · rw [if_pos full]
        exact alike
      · rw [if_neg full]
        exact { alike with }
    exact pinned.mapError.bind fun _ => .pure fun _ alike => alike

theorem alike_of_retain {kept : Except (Fault host.Failure) (Retained host)}
    (h : Host.retain (H := host) c d m = (kept, m₁)) : m₁.Alike m := by
  have alike := (keeps_alike_retain c d).state (.refl m)
  rwa [h] at alike

/-- Resolutions that differ in the retention make the same look-ups, and so the same table. -/
theorem alike_resolve (resolved : Binding.resolve host d m₀ = (.ok b, m₁))
    (resolved' : Binding.resolve host { d with retention := r } m₀ = (.ok b', m₁')) :
    b.SameTable b' ∧ m₁.Alike m₁' := by
  obtain ⟨plans, found, looked, kept⟩ := Progress.succeeds_of_resolve resolved
  obtain ⟨plans', found', looked', kept'⟩ := Progress.succeeds_of_resolve resolved'
  cases plans.symm.trans plans'
  cases found.symm.trans found'
  cases looked.symm.trans looked'
  have both := (alike_of_retain kept).trans (alike_of_retain kept').symm
  refine ⟨⟨rfl, rfl⟩, ?_⟩
  exact { both with liveClasses := congrArg (· - 1) both.liveClasses }

/-- Bindings at home obtain their class alike, whatever they keep of it. -/
theorem agree_obtainClass {d' : Declaration} (home : Home d l c b) (home' : Home d' l c b') :
    Agree (fun m m' => m.Alike m' ∧ m.layout = l) b.obtainClass b'.obtainClass := by
  rintro m m' ⟨alike, layout⟩
  subst layout
  rw [alike.layout] at home'
  obtain ⟨j, run⟩ := home.obtainClass_eq
  obtain ⟨j', run'⟩ := home'.obtainClass_eq
  rw [run, run']
  exact ⟨rfl, { alike with liveClasses := congrArg (· + 1) alike.liveClasses }, rfl⟩

end

/-! ## Runs -/

/-- One turn of a run with a binding: it is asked for something, or something else happens. -/
inductive Turn where
  | ask (ask : Ask host)
  | meanwhile (h : Happening)

end HandleCache.Counting

namespace HandleCache.Binding

open Counting

/-- The answers of a binding along a run, and the machine after it. -/
def play (b : Binding host) : List Turn → Machine →
    List (Except (Fault host.Failure) (Reply host)) × Machine
  | [], m => ([], m)
  | .ask ask :: rest, m =>
    let (answer, m) := b.answer ask m
    let (answers, m) := b.play rest m
    (answer :: answers, m)
  | .meanwhile h :: rest, m => b.play rest (m.afterOne h)

end HandleCache.Binding

namespace HandleCache.Counting

section

variable {d d' : Declaration} {b b' : Binding host} {c : Nat} {l : Layout} {m m' : Machine}

/-- Bindings at home with one table answer a run alike, turn by turn, and leave alike machines. -/
theorem alike_play (home : Home d l c b) (home' : Home d' l c b') (same : b.SameTable b')
    (turns : List Turn) (alike : m.Alike m') (layout : m.layout = l) :
    (b.play turns m).1 = (b'.play turns m').1 ∧
      (b.play turns m).2.Alike (b'.play turns m').2 := by
  -- The bindings stay at home, since no turn changes the layout.
  induction turns generalizing m m' with
  | nil => exact ⟨rfl, alike⟩
  | cons turn rest ih =>
    cases turn with
    | ask ask =>
      have agreement := agreement_alike.and (discipline_layout l)
      obtain ⟨answer, alike', layout'⟩ :=
        agreement.answer same (agree_obtainClass home home') ask m m' ⟨alike, layout⟩
      obtain ⟨answers, after⟩ := ih alike' layout'
      exact ⟨congrArg₂ List.cons answer answers, after⟩
    | meanwhile h => exact ih (alike_afterOne alike h) ((layout_afterOne m h).trans layout)

theorem home_of_resolve {m₀ m₁ : Machine} (resolved : Binding.resolve host d m₀ = (.ok b, m₁)) :
    m₁.layout = m₀.layout ∧ ∃ c, Home d m₀.layout c b := by
  have known := home_resolve m₀.layout d m₀ rfl
  rwa [resolved] at known

end

/-! ## Cached calls -/

/-- A binding that was resolved answers, at any time later and whatever its retention is, as a
program does that looks the class and the member up for each request: to a request that passes the
checks it gives the same answer, and leaves the same heap. And a run of requests to a binding is
answered alike, with another retention, by one that was resolved in its place. -/
theorem cached_calls {d : Declaration} {m₀ m₁ : Machine} {b : Binding host}
    (resolved : Binding.resolve host d m₀ = (.ok b, m₁)) :
    (∀ (run : List Happening) (ask : Ask host), Passes d (m₁.after run) ask →
      Same Machine.SameHeap (b.answer ask (m₁.after run)) (d.uncached ask (m₁.after run))) ∧
    ∀ (r : Retention) (b' : Binding host) (m₁' : Machine),
      Binding.resolve host { d with retention := r } m₀ = (.ok b', m₁') →
      ∀ turns : List Turn, (b.play turns m₁).1 = (b'.play turns m₁').1 ∧
        (b.play turns m₁).2.Alike (b'.play turns m₁').2 := by
  obtain ⟨stays, c, home⟩ := home_of_resolve resolved
  constructor
  · intro run ask passes
    have later : Home d (m₁.after run).layout c b := by rwa [layout_after, stays]
    exact later.same_uncached passes
  · intro r b' m₁' resolved' turns
    obtain ⟨-, c', home'⟩ := home_of_resolve resolved'
    obtain ⟨same, alike⟩ := alike_resolve resolved resolved'
    cases home.class?.symm.trans home'.class?
    exact alike_play home home' same turns alike stays

/-- Counters that can be made and added to. -/
def counter : Declaration where
  className := "test/Counter"
  operations := [.constructor "init" "(I)V", .method "add" "add" "(I)I"]

/-- A new counter that holds this number. -/
def madeWith (n : Int32) : Ask host := .create "init" [n]

/-- This number is added to the first counter. -/
def added (n : Int32) : Ask host := .call false "add" (some 0 : ObjectNumber) [n]

theorem plans_counter (r : Retention) : ({ counter with retention := r }).plans (ε := host.Failure) =
    .ok [(.constructor "init" "(I)V", .constructor ⟨[.primitive .int], .primitive .void⟩),
      (.method "add" "add" "(I)I", .method ⟨[.primitive .int], .primitive .int⟩)] := by
  cbv

/-- A counter that was made through its binding is added to after its class was unloaded; and the
same is done through a binding that kept a weak reference. -/
theorem cached_calls_counter : ∃ b m₁ b' m₁',
    Binding.resolve host counter {} = (.ok b, m₁) ∧
    Binding.resolve host { counter with retention := .weak } {} = (.ok b', m₁') ∧
    let run : List Happening := [.ask b (madeWith 40), .feature (.unload "test/Counter")]
    let turns : List Turn :=
      [.ask (madeWith 40), .meanwhile (.feature (.unload "test/Counter")), .ask (added 2)]
    Passes counter (m₁.after run) (added 2) ∧
    (b.answer (added 2) (m₁.after run)).1 = .ok (.value (.int 42)) ∧
    Same Machine.SameHeap (b.answer (added 2) (m₁.after run))
      (counter.uncached (added 2) (m₁.after run)) ∧
    (b.play turns m₁).1 = (b'.play turns m₁').1 ∧
    (b.play turns m₁).2.Alike (b'.play turns m₁').2 := by
  have resolved : Binding.resolve host counter {} = (.ok _, _) :=
    (Progress.resolve_of_found (plans_counter .drop) rfl).trans rfl
  have resolved' : Binding.resolve host { counter with retention := .weak } {} = (.ok _, _) :=
    (Progress.resolve_of_found (plans_counter .weak) rfl).trans rfl
  obtain ⟨uncached, retention⟩ := cached_calls resolved
  refine ⟨_, _, _, _, resolved, resolved', ?_⟩
  refine ⟨?passes, rfl, uncached _ _ ?passes, retention .weak _ _ resolved' _⟩
  have takes : Takes (.method "add" "add" "(I)I") [2] :=
    ⟨⟨[.primitive .int], .primitive .int⟩, by cbv, rfl, by decide⟩
  exact .call ⟨rfl, rfl⟩ takes ⟨0, ⟨0, 40⟩, rfl, rfl, rfl⟩

end HandleCache.Counting

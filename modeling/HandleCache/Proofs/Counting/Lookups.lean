import HandleCache.Proofs.Counting.Retention

/-!
# How often a binding looks its class up

A binding saves look-ups: its members are never looked up again, and its class only where nothing is
kept of it, or what was kept is a weak reference to a class that was unloaded since. A request that
is refused in front of the class, or that takes its instance to be of the class, does not look it up
in any case.

## Contents

- `Fault.precedesClass`: faults of the checks in front of the class
- `Machine.Intact`: what requests to bindings leave of a machine
- `Machine.hasUnloaded`: whether a class was unloaded, by its name
- `Checks`, `Pays`, `LooksUp`: how many class look-ups an action makes
- `Free`: why a request makes none

## Main statements

- `routine_intact`: requests to bindings look no members up
- `hasUnloaded_after`: a class is unloaded after a run if it was before or was in the run
- `Home.looksUp_answer`: each request pays for its class once, if it comes to that
- `lookup_cost`: what each request costs, after any run
-/

namespace HandleCache

/-- Whether the fault is one of the checks in front of everything that the class is needed for. -/
def Fault.precedesClass {ε : Type} : Fault ε → Bool
  | .unknownOperation .. | .wrongKind .. | .nullInstance .. | .argumentCount ..
  | .argumentType .. => true
  | _ => false

namespace Counting

open HandleCache.Action

/-! ## What requests to bindings leave alone -/

/-- Of the machine `m₀` all is left but class look-ups, objects, calls and the journal, and there is
this class reference out on top of those that were, or none. -/
structure Machine.Intact (m₀ : Machine) (out : Option Nat) (m : Machine) : Prop where
  classes : m.classes = m₀.classes
  pinsFail : m.pinsFail = m₀.pinsFail
  memberLookups : m.memberLookups = m₀.memberLookups
  livePins : m.livePins = m₀.livePins
  liveClasses : m.liveClasses = m₀.liveClasses + if out.isSome then 1 else 0

section

variable {m₀ : Machine}

theorem Machine.Intact.refl (m : Machine) : m.Intact none m :=
  ⟨rfl, rfl, rfl, rfl, (Int.add_zero _).symm⟩

/-- One class reference more is out than before. -/
theorem Machine.Intact.handOut {m m' : Machine} (intact : m₀.Intact none m) (c : Nat)
    (classes : m'.classes = m.classes) (pinsFail : m'.pinsFail = m.pinsFail)
    (memberLookups : m'.memberLookups = m.memberLookups) (livePins : m'.livePins = m.livePins)
    (liveClasses : m'.liveClasses = m.liveClasses + 1) : m₀.Intact (some c) m' where
  classes := classes.trans intact.classes
  pinsFail := pinsFail.trans intact.pinsFail
  memberLookups := memberLookups.trans intact.memberLookups
  livePins := livePins.trans intact.livePins
  liveClasses := by simp [liveClasses, intact.liveClasses]

theorem Machine.Intact.giveBack {m : Machine} {c : Nat} (intact : m₀.Intact (some c) m) :
    m₀.Intact none { m with liveClasses := m.liveClasses - 1 } :=
  { intact with liveClasses := by simp [intact.liveClasses] }

theorem IsCall.keeps_intact {α : Type} {x : Machine.Step α} (call : IsCall x) (out : Option Nat) :
    Keeps (m₀.Intact out) x := by
  intro m intact
  rw [call m m rfl rfl]
  cases (x m).1 with
  | ok v => exact { intact with }
  | error e => exact { intact with }

theorem meets_intact_findClass (name : String) :
    Meets (m₀.Intact none) (Machine.findClass name) (fun c => m₀.Intact (some c))
      fun _ => m₀.Intact none := by
  intro m intact
  cases found : m.layout.class? name with
  | some c =>
    rw [Machine.findClass_of_class? found]
    exact intact.handOut c rfl rfl rfl rfl rfl
  | none =>
    rw [Machine.findClass_of_none found]
    exact { intact with }

theorem meets_intact_strengthen (c : Nat) :
    Meets (m₀.Intact none) (Machine.strengthen c) m₀.Intact fun _ => m₀.Intact none := by
  intro m intact
  cases there : m.classes[c]? with
  | none => simpa [Machine.strengthen, there] using intact
  | some info =>
    by_cases gone : info.unloaded = true
    · rw [Machine.strengthen_of_unloaded there gone]
      exact intact
    · rw [Machine.strengthen_of_loaded there gone]
      exact intact.handOut c rfl rfl rfl rfl rfl

theorem isInstance_state (o : ObjectNumber) (c : Nat) (m : Machine) :
    (Machine.isInstance o c m).2 = m := by
  unfold Machine.isInstance
  split
  · rfl
  · split <;> rfl

theorem keeps_isInstance (K : Machine → Prop) (o : ObjectNumber) (c : Nat) :
    Keeps K (Machine.isInstance o c) := by
  intro m held
  have stays := isInstance_state o c m
  cases run : Machine.isInstance o c m with
  | mk answer t =>
    rw [run] at stays
    cases stays
    cases answer with
    | ok v => exact held
    | error e => exact held

/-- Requests to bindings look no members up, make no pins, and give back the class references that
they take. -/
theorem routine_intact (m₀ : Machine) : host.Routine m₀.Intact where
  findClass := meets_intact_findClass
  classOfPin c _ intact := intact.handOut c rfl rfl rfl rfl rfl
  classOfWeak := meets_intact_strengthen
  releaseClass _ _ intact := intact.giveBack
  isInstance o c := keeps_isInstance _ o c
  callStatic c id _ args := (isCall_runMember none id args).keeps_intact (some c)
  newObject c id _ args := (isCall_make id args).keeps_intact (some c)
  readStatic c id _ := (isCall_runMember none id []).keeps_intact (some c)
  callMethod o id _ args := (isCall_runMember o id args).keeps_intact none
  readField o id _ := (isCall_runMember o id []).keeps_intact none
  isNull _ _ intact := intact
  accepts _ _ _ intact := intact
  note _ _ _ intact := { intact with }

theorem intact_answer (b : Binding host) (ask : Ask host) (m : Machine) :
    m.Intact none (b.answer ask m).2 :=
  ((routine_intact m).answer b ask).state (.refl m)

end

/-! ## What was unloaded -/

/-- Whether weak references to the class of this name are cleared. -/
def Machine.hasUnloaded (m : Machine) (name : String) : Bool :=
  (m.classes.find? (·.name == name)).any (·.unloaded)

section

variable {m : Machine} {name : String} {c : Nat}

theorem Machine.isUnloaded_of_class? (h : m.layout.class? name = some c) :
    m.isUnloaded c = m.hasUnloaded name := by
  rw [class?_layout] at h
  rw [isUnloaded, hasUnloaded, List.find?_eq_bind_findIdx?_getElem?, h]
  rfl

theorem ofClasses_hasUnloaded (name : String) (u : Bool) : OfClasses (·.hasUnloaded name = u) := by
  rintro m m' same rfl
  simp only [Machine.hasUnloaded, same]

/-- To unload a class leaves the others as they are. -/
theorem Machine.hasUnloaded_unload_of_ne {other : String} (different : name ≠ other) :
    (m.unload other).hasUnloaded name = m.hasUnloaded name := by
  unfold hasUnloaded unload
  induction m.classes with
  | nil => rfl
  | cons info rest ih =>
    by_cases unloads : info.name = other
    · have skipped : (info.name == name) = false := by simpa [unloads] using Ne.symm different
      simpa [List.find?_cons, unloads, skipped, Ne.symm different] using ih
    · by_cases named : info.name = name
      · simp [named, different]
      · simpa [List.find?_cons, unloads, named] using ih

/-- A class that there is has been unloaded once it is unloaded. -/
theorem Machine.hasUnloaded_unload (known : m.layout.class? name = some c) :
    (m.unload name).hasUnloaded name = true := by
  rw [class?_layout] at known
  unfold hasUnloaded unload
  have there : (m.classes.find? (·.name == name)).isSome := by
    rw [List.find?_isSome]
    obtain ⟨bound, named, -⟩ := List.findIdx?_eq_some_iff_getElem.mp known
    exact ⟨_, List.getElem_mem bound, named⟩
  obtain ⟨info, found⟩ := Option.isSome_iff_exists.mp there
  have named : info.name = name := by simpa using List.find?_some found
  have same : ((fun x : ClassInfo => x.name == name) ∘ fun x : ClassInfo =>
      if x.name = name then { x with unloaded := true } else x) = (·.name == name) := by
    funext x
    dsimp only [Function.comp_apply]
    split <;> rfl
  rw [List.find?_map, same, found]
  simp [named]

/-- Whatever else happens, what was unloaded is so for good, and nothing else is. -/
theorem hasUnloaded_afterOne (known : m.layout.class? name = some c) (h : Happening) :
    (m.afterOne h).hasUnloaded name = true ↔
      m.hasUnloaded name = true ∨ h = .feature (.unload name) := by
  cases h with
  | resolve d =>
    have stays := (discipline_classes (ofClasses_hasUnloaded name (m.hasUnloaded name))).resolve d
    simp [Machine.afterOne, stays.state (s := m) rfl]
  | ask b ask =>
    have stays := ofClasses_hasUnloaded name _ m _ (intact_answer b ask m).classes rfl
    simp [Machine.afterOne, stays]
  | release b =>
    have stays := ofClasses_hasUnloaded name _ m _ (classes_release b m) rfl
    simp [Machine.afterOne, stays]
  | feature f =>
    cases f with
    | failPins on => simp [Machine.afterOne, Feature.apply, Machine.hasUnloaded]
    | session => simp [Machine.afterOne, Feature.apply]
    | unload other =>
      by_cases same : name = other
      · subst same
        simp [Machine.afterOne, Feature.apply, Machine.hasUnloaded_unload known]
      · simp [Machine.afterOne, Feature.apply, Machine.hasUnloaded_unload_of_ne same, Ne.symm same]

/-- A class is unloaded after a run exactly if it was in front of it, or was in the course of it. -/
theorem hasUnloaded_after (known : m.layout.class? name = some c) (run : List Happening) :
    (m.after run).hasUnloaded name = true ↔
      m.hasUnloaded name = true ∨ Happening.feature (.unload name) ∈ run := by
  induction run generalizing m with
  | nil => simp [Machine.after]
  | cons first rest ih =>
    have later : (m.afterOne first).layout.class? name = some c := by rwa [layout_afterOne]
    show ((m.afterOne first).after rest).hasUnloaded name = true ↔ _
    rw [ih later, hasUnloaded_afterOne known, List.mem_cons, or_assoc]
    simp only [eq_comm]

end

/-! ## What an action pays -/

section

variable {α β : Type} {m : Machine} {n : Nat}

/-- The action is a check in front of the class: it changes nothing, and its faults are of that
kind. -/
def Checks (x : host.Request α) : Prop :=
  ∀ m, Meets (· = m) x (fun _ t => t = m) fun f t => t = m ∧ f.precedesClass = true

/-- The action makes so many class look-ups on the machine, whether it answers or stops, and is not
stopped by a check in front of the class. -/
def Pays (m : Machine) (n : Nat) (x : host.Request α) : Prop :=
  Meets (· = m) x (fun _ t => t.classLookups = m.classLookups + n)
    fun f t => t.classLookups = m.classLookups + n ∧ f.precedesClass = false

/-- The action makes so many class look-ups on the machine, but none if it is refused in front of
the class. -/
def LooksUp (m : Machine) (n : Nat) (x : host.Request α) : Prop :=
  Meets (· = m) x (fun _ t => t.classLookups = m.classLookups + n)
    fun f t => t.classLookups = m.classLookups + if f.precedesClass then 0 else n

variable {x : host.Request α} {f : α → host.Request β}

theorem Pays.looksUp (h : Pays m n x) : LooksUp m n x :=
  h.conseq (fun _ same => same) (fun _ _ paid => paid) fun _ _ stopped => by
    simp [stopped.1, stopped.2]

/-- A check may come first. -/
theorem Checks.bind (check : Checks x) (h : ∀ v, LooksUp m n (f v)) : LooksUp m n (x >>= f) := by
  refine Meets.bind ((check m).conseq (fun _ same => same) (fun _ _ same => same) ?_) h
  rintro fault t ⟨rfl, early⟩
  simp [early]

/-- What makes no look-up may follow. -/
theorem Pays.bind (h : Pays m n x) (free : ∀ v t, Pays t 0 (f v)) : Pays m n (x >>= f) := by
  refine Meets.bind h fun v t paid => ?_
  exact (free v t).conseq (fun _ same => same) (fun _ _ later => later.trans paid)
    (fun _ _ later => ⟨later.1.trans paid, later.2⟩) t rfl

/-- What is refused in front of the class costs nothing. -/
theorem LooksUp.refused {fault : Fault host.Failure} (h : LooksUp m n x)
    (stopped : (x m).1 = .error fault) (early : fault.precedesClass = true) :
    (x m).2.classLookups = m.classLookups := by
  have cost := h m rfl
  cases run : x m with
  | mk answer t =>
    rw [run] at cost stopped
    cases stopped
    simpa [early] using cost

/-- What is not, costs what it is to cost. -/
theorem LooksUp.spent (h : LooksUp m n x)
    (late : ∀ fault, (x m).1 = .error fault → fault.precedesClass = false) :
    (x m).2.classLookups = m.classLookups + n := by
  have cost := h m rfl
  cases run : x m with
  | mk answer t =>
    rw [run] at cost late
    cases answer with
    | ok v => exact cost
    | error fault => simpa [late fault rfl] using cost

theorem LooksUp.unspent (h : LooksUp m 0 x) : (x m).2.classLookups = m.classLookups := by
  by_cases early : ∃ fault, (x m).1 = .error fault ∧ fault.precedesClass = true
  · obtain ⟨fault, stopped, early⟩ := early
    exact h.refused stopped early
  · exact h.spent fun fault stopped => by simpa using fun is => early ⟨fault, stopped, is⟩

/-- An answer may be told in other words. -/
theorem LooksUp.reply {γ : Type} {g : α → γ} (h : LooksUp m n x) :
    LooksUp m n (x >>= fun v => pure (g v)) :=
  Meets.bind h fun _ => .pure fun _ paid => paid

/-! ## Calls and checks -/

theorem pays_direct {y : Machine.Step α} (leaves : ∀ t, (y t).2.classLookups = t.classLookups)
    (t : Machine) : Pays t 0 (Host.direct (H := host) y) := by
  rintro s rfl
  have same := leaves s
  simp only [Host.direct, Action.mapError]
  cases run : y s with
  | mk answer t' =>
    rw [run] at same
    cases answer with
    | ok v => exact same
    | error e => exact ⟨same, rfl⟩

/-- A call looks no class up. -/
theorem IsCall.pays {y : Machine.Step α} (call : IsCall y) (t : Machine) :
    Pays t 0 (Host.direct (H := host) y) :=
  pays_direct (fun t => by rw [call t t rfl rfl]) t

variable {b : Binding host} {op : Operation}

theorem checks_ofExcept {a : Except (Fault host.Failure) α}
    (kinds : ∀ fault, a = .error fault → fault.precedesClass = true) :
    Checks (Action.ofExcept a) := by
  rintro m s rfl
  cases a with
  | ok v => rfl
  | error fault => exact ⟨rfl, kinds fault rfl⟩

/-- The table is consulted in front of the class. -/
theorem checks_operation {name : String}
    {g : ResolvedOperation host → Except (Fault host.Failure) α}
    (kinds : ∀ r fault, g r = .error fault → fault.precedesClass = true) :
    Checks (Action.ofExcept (b.operation name >>= g)) := by
  apply checks_ofExcept
  intro fault stopped
  unfold Binding.operation at stopped
  cases row : b.find? name with
  | none =>
    rw [row] at stopped
    cases stopped
    rfl
  | some r =>
    rw [row] at stopped
    exact kinds r fault stopped

theorem checks_methodNamed (name : String) : Checks (Action.ofExcept (b.methodNamed name)) := by
  apply checks_operation
  intro r fault stopped
  split at stopped <;> cases stopped
  rfl

theorem checks_fieldNamed (name : String) : Checks (Action.ofExcept (b.fieldNamed name)) := by
  apply checks_operation
  intro r fault stopped
  split at stopped <;> cases stopped
  rfl

theorem checks_staticMethodNamed (name : String) :
    Checks (Action.ofExcept (b.staticMethodNamed name)) := by
  apply checks_operation
  intro r fault stopped
  split at stopped <;> cases stopped
  rfl

theorem checks_constructorNamed (name : String) :
    Checks (Action.ofExcept (b.constructorNamed name)) := by
  apply checks_operation
  intro r fault stopped
  split at stopped <;> cases stopped
  rfl

theorem checks_staticFieldNamed (name : String) :
    Checks (Action.ofExcept (b.staticFieldNamed name)) := by
  apply checks_operation
  intro r fault stopped
  split at stopped <;> cases stopped
  rfl

theorem checks_requirePresent (o : ObjectNumber) : Checks (b.requirePresent op o) := by
  rintro m _ rfl
  cases o with
  | none => exact ⟨rfl, rfl⟩
  | some i => rfl

theorem checks_requireArguments (d : MethodDescriptor) (args : List Int32) :
    Checks (b.requireArguments op d args) := by
  intro m
  apply b.meets_requireArguments op d args
  · exact fun _ _ _ same => same
  · exact fun _ same => ⟨same, rfl⟩
  · exact fun _ _ _ same => ⟨same, rfl⟩

/-! ## Requests -/

variable {d : Declaration} {l : Layout} {c : Nat}

/-- The class is paid for once, and its use is free. -/
theorem Home.pays_withClass {use : Nat → host.Request α} (home : Home d m.layout c b)
    (free : ∀ c t, Pays t 0 (use c)) : Pays m (m.price b) (b.withClass use) := by
  obtain ⟨j, obtained⟩ := home.obtainClass_eq
  refine Meets.bracket (F := fun _ t => t.classLookups = m.classLookups + m.price b) ?_ ?_
  · rintro s rfl
    rw [obtained]
  · intro c t paid
    exact (free c t).conseq (fun _ same => same) (fun _ _ later => later.trans paid)
      (fun _ _ later => ⟨later.1.trans paid, later.2⟩) t rfl

theorem Home.pays_requireInstance (home : Home d m.layout c b) (o : ObjectNumber) :
    Pays m (m.price b) (b.requireInstance o) := by
  have tested (c : Nat) (t : Machine) : Pays t 0 (Host.direct (host.isInstance o c)) :=
    pays_direct (fun t => congrArg Machine.classLookups (isInstance_state o c t)) t
  refine (home.pays_withClass tested).bind fun ofClass t => ?_
  cases ofClass with
  | true => exact .pure fun _ same => congrArg Machine.classLookups same
  | false => exact .fail fun _ same => ⟨congrArg Machine.classLookups same, rfl⟩

/-- Each request pays for its class once if it comes to that, and a request that takes its instance
to be of the class does not. -/
theorem Home.looksUp_answer (home : Home d m.layout c b) (ask : Ask host) :
    LooksUp m (if ask.isTrusted then 0 else m.price b) (b.answer ask) := by
  match ask with
  | .call true name o args =>
    refine LooksUp.reply ((checks_methodNamed name).bind fun v => ?_)
    refine (checks_requirePresent o).bind fun _ => (checks_requireArguments _ args).bind fun _ => ?_
    exact ((isCall_runMember o _ args).pays m).looksUp
  | .call false name o args =>
    refine LooksUp.reply ((checks_methodNamed name).bind fun v => ?_)
    refine (checks_requirePresent o).bind fun _ => (checks_requireArguments _ args).bind fun _ => ?_
    exact ((home.pays_requireInstance o).bind fun _ => (isCall_runMember o _ args).pays).looksUp
  | .callStatic name args =>
    refine LooksUp.reply ((checks_staticMethodNamed name).bind fun v => ?_)
    refine (checks_requireArguments _ args).bind fun _ => ?_
    exact (home.pays_withClass fun _ => (isCall_runMember none _ args).pays).looksUp
  | .create name args =>
    refine LooksUp.reply ((checks_constructorNamed name).bind fun v => ?_)
    refine (checks_requireArguments _ args).bind fun _ => ?_
    exact (home.pays_withClass fun _ => (isCall_make _ args).pays).looksUp
  | .read true name o =>
    refine LooksUp.reply ((checks_fieldNamed name).bind fun v => ?_)
    refine (checks_requirePresent o).bind fun _ => ?_
    exact ((isCall_runMember o _ []).pays m).looksUp
  | .read false name o =>
    refine LooksUp.reply ((checks_fieldNamed name).bind fun v => ?_)
    refine (checks_requirePresent o).bind fun _ => ?_
    exact ((home.pays_requireInstance o).bind fun _ => (isCall_runMember o _ []).pays).looksUp
  | .readStatic name =>
    refine LooksUp.reply ((checks_staticFieldNamed name).bind fun v => ?_)
    exact (home.pays_withClass fun _ => (isCall_runMember none _ []).pays).looksUp
  | .acquire =>
    refine (home.pays_withClass fun _ t => ?_).looksUp
    exact .pure fun _ same => congrArg Machine.classLookups same

end

/-! ## The cost of each request -/

/-- Why a request to a binding that was resolved on `m` makes no class look-up after the run. -/
inductive Free (d : Declaration) (m : Machine) (run : List Happening) (ask : Ask host)
    (answer : Except (Fault host.Failure) (Reply host)) : Prop where
  /-- A check in front of the class refuses it. -/
  | refused {fault : Fault host.Failure} :
      answer = .error fault → fault.precedesClass = true → Free d m run ask answer
  /-- Its instance is taken to be of the class. -/
  | trusted : ask.isTrusted = true → Free d m run ask answer
  | pinned : d.retention = .global → Free d m run ask answer
  /-- The class was not unloaded, neither before nor in the course of the run. -/
  | loaded : d.retention = .weak → m.hasUnloaded d.className = false →
      Happening.feature (.unload d.className) ∉ run → Free d m run ask answer

section

variable {d : Declaration} {b : Binding host} {c : Nat} {m m₀ m₁ : Machine}

/-- The class of a binding at home is free if it is pinned, or kept weakly and still loaded, and
takes one look-up otherwise. -/
theorem Home.price_cases (home : Home d m.layout c b) :
    m.price b = 0 ∧ (d.retention = .global ∨
        d.retention = .weak ∧ m.hasUnloaded d.className = false) ∨
      m.price b = 1 ∧ (d.retention = .drop ∨
        d.retention = .weak ∧ m.hasUnloaded d.className = true) := by
  have unloaded := Machine.isUnloaded_of_class? home.class?
  have kept := home.kept
  unfold Machine.price
  generalize b.retained = retained at kept ⊢
  generalize d.retention = retention at kept ⊢
  cases kept with
  | nothing => simp
  | pinned => simp
  | weakly => cases gone : m.hasUnloaded d.className <;> simp [unloaded, gone]

/-- After any run, a request to a binding looks no member up. It makes no class look-up if it is
refused in front of the class, if it takes its instance to be of the class, if the class is pinned,
or if it is kept weakly and was not unloaded; and it makes one otherwise. -/
theorem lookup_cost (resolved : Binding.resolve host d m₀ = (.ok b, m₁)) (run : List Happening)
    (ask : Ask host) :
    let m := m₁.after run
    let result := b.answer ask m
    result.2.memberLookups = m.memberLookups ∧
      (Free d m₁ run ask result.1 → result.2.classLookups = m.classLookups) ∧
      (¬Free d m₁ run ask result.1 → result.2.classLookups = m.classLookups + 1) := by
  obtain ⟨stays, c, home⟩ := home_of_resolve resolved
  rw [← stays] at home
  intro m result
  have later : Home d m.layout c b := by rwa [layout_after]
  have unloaded : m.hasUnloaded d.className = true ↔ _ := hasUnloaded_after home.class? run
  have cost := later.looksUp_answer ask
  refine ⟨(intact_answer b ask m).memberLookups, fun free => ?_, fun dear => ?_⟩
  · -- Whatever makes it free, there is nothing to be paid, or it does not come to that.
    have unspent (nothing : (if ask.isTrusted then 0 else m.price b) = 0) :
        result.2.classLookups = m.classLookups := by
      rw [nothing] at cost
      exact cost.unspent
    cases free with
    | refused stopped early => exact cost.refused stopped early
    | trusted trust => exact unspent (if_pos trust)
    | pinned strong =>
      rcases later.price_cases with ⟨price, -⟩ | ⟨-, kept | ⟨kept, -⟩⟩
      · exact unspent (by simp [price])
      · cases strong.symm.trans kept
      · cases strong.symm.trans kept
    | loaded weak before during =>
      rcases later.price_cases with ⟨price, -⟩ | ⟨-, kept | ⟨-, gone⟩⟩
      · exact unspent (by simp [price])
      · cases weak.symm.trans kept
      · rcases unloaded.mp gone with was | is
        · cases was.symm.trans before
        · exact absurd is during
  · have untrusted : ask.isTrusted = false := by simpa using fun trust => dear (.trusted trust)
    have late (fault : Fault host.Failure) (stopped : result.1 = .error fault) :
        fault.precedesClass = false := by
      simpa using fun early => dear (.refused stopped early)
    have spent := cost.spent late
    rcases later.price_cases with ⟨-, strong | ⟨weak, loaded⟩⟩ | ⟨price, -⟩
    · exact absurd (.pinned strong) dear
    · -- A class that is loaded now was so all the time.
      have never := mt unloaded.mpr (by simp [loaded])
      rw [not_or, Bool.not_eq_true] at never
      exact absurd (.loaded weak never.1 never.2) dear
    · simpa [untrusted, price] using spent

/-- A counter that is kept weakly costs a look-up once it was unloaded, and not if the request is
refused because there is no such operation. -/
theorem lookup_cost_unloadedCounter : ∃ b m₁,
    Binding.resolve host { counter with retention := .weak } {} = (.ok b, m₁) ∧
    let run : List Happening := [.ask b (madeWith 40), .feature (.unload "test/Counter")]
    let m := m₁.after run
    let unknown : Ask host := .create "make" []
    (b.answer (added 2) m).2.memberLookups = 2 ∧
    m.classLookups = 1 ∧ (b.answer (added 2) m).2.classLookups = 2 ∧
    (b.answer unknown m).1 = .error (.unknownOperation "test/Counter" "make") ∧
    (b.answer unknown m).2.classLookups = 1 := by
  have resolved : Binding.resolve host { counter with retention := .weak } {} = (.ok _, _) :=
    (Progress.resolve_of_found (plans_counter .weak) rfl).trans rfl
  refine ⟨_, _, resolved, ?_⟩
  intro run m unknown
  obtain ⟨members, -, dear⟩ := lookup_cost resolved run (added 2)
  obtain ⟨-, free, -⟩ := lookup_cost resolved run unknown
  refine ⟨members.trans rfl, rfl, (dear ?_).trans rfl, rfl, (free (.refused rfl rfl)).trans rfl⟩
  intro reason
  cases reason with
  | refused stopped => cases stopped
  | trusted trust => cases trust
  | pinned strong => cases strong
  | loaded weak before during => simp [run, counter] at during

end

end Counting

end HandleCache

import HandleCache.Proofs.Ownership.Store

/-!
# Workspaces in the course of a deal

Each step keeps its workspace in order: the bindings that come into variables, and those that the
cells of registries and deferred bindings come to yield, are such as may be held.

## Contents

- `Midway`: a workspace in the course of a deal

## Main statements

- `Midway.heir`: what is held then may be held
- `keeps_perform`: each step keeps the workspace in order
- `Deal.keeps_perform`: so does each deal
-/

namespace HandleCache.Script.Variables

variable {α : Type} {vars : Variables α} {v : String × α}

theorem exists_of_get? {name : String} {a : α} (h : vars.get? name = some a) :
    ∃ v ∈ vars, v.2 = a := by
  obtain ⟨v, found, rfl⟩ := Option.map_eq_some_iff.mp h
  exact ⟨v, List.mem_of_find?_eq_some found, rfl⟩

theorem mem_of_mem_erase {name : String} (h : v ∈ vars.erase name) : v ∈ vars :=
  (List.mem_filter.mp h).1

theorem mem_put {name : String} {a : α} (h : v ∈ vars.put name a) : v.2 = a ∨ v ∈ vars := by
  rcases List.mem_cons.mp h with rfl | old
  · exact .inl rfl
  · exact .inr (mem_of_mem_erase old)

theorem mem_keep {name : Option String} {a : α} (h : v ∈ vars.keep name a) :
    v.2 = a ∨ v ∈ vars := by
  cases name with
  | none => exact .inr h
  | some name => exact mem_put h

end HandleCache.Script.Variables

namespace HandleCache.Counting

open HandleCache.Action Script

/-! ## Requests that make and drop no pins -/

section

variable {α : Type} {b : Binding host}

theorem Neutral.of_answer {x : host.Request α} {reply : α → Reply host} (ask : Ask host)
    (asked : b.answer ask = x >>= fun v => pure (reply v)) : Neutral x := by
  intro m
  have intact := intact_answer b ask m
  rw [asked] at intact
  have state := state_reply (g := reply) x m
  exact ⟨(congrArg Machine.livePins state).symm.trans intact.livePins,
    (congrArg Machine.liveClasses state).symm.trans (by simpa using intact.liveClasses)⟩

/-- What leaves the machine as it is is neutral. -/
theorem Neutral.of_same {x : host.Request α} (same : ∀ m, (x m).2 = m) : Neutral x :=
  fun m => by rw [same m]; exact ⟨rfl, rfl⟩

theorem Neutral.of_keeps {x : host.Request α}
    (h : ∀ m : Machine, Keeps (m.Intact none) x) : Neutral x := by
  intro m
  have intact := (h m).state (.refl m)
  exact ⟨intact.livePins, by simpa using intact.liveClasses⟩

theorem neutral_handleText (kind : MemberKind) (operation : String) :
    Neutral (dialect.handleText kind b operation) := by
  have written {ι : Type} (id : Except (Fault host.Failure) ι) (text : Machine → ι → String) :
      Neutral (Dialect.handleText.written (H := host) id text) := by
    refine .of_same fun m => ?_
    cases id with
    | ok id => rfl
    | error fault => rfl
  cases kind with
  | method => exact written _ _
  | staticMethod => exact written _ _
  | field => exact written _ _
  | staticField => exact written _ _

theorem neutral_acquire (text : Machine → Nat → String) :
    Neutral (b.withClass fun c => Action.query fun h => (text h c, h)) :=
  .of_keeps fun m => ((routine_intact m).service b).withClass fun _ => .query fun _ intact => intact

/-- Member look-ups count nothing else. -/
theorem keeps_lookupMember (p l : Int) (c : Nat) (kind : MemberKind) (name signature : String) :
    Keeps (fun m => m.livePins = p ∧ m.liveClasses = l)
      (dialect.lookupMember c kind name signature) := by
  have found (missing : Failure) (isStatic : Bool) :
      Keeps (fun m => m.livePins = p ∧ m.liveClasses = l)
        (Machine.findMember missing isStatic c name signature) := by
    intro m known
    unfold Machine.findMember
    dsimp only
    cases m.classes[c]? with
    | none => exact known
    | some info =>
      dsimp only
      cases info.members.findIdx? fun x =>
          x.name == name && x.signature == signature && x.isStatic == isStatic with
      | none => exact known
      | some i => exact known
  cases kind with
  | method => exact (found _ _).bind fun _ => .query fun _ known => known
  | staticMethod => exact (found _ _).bind fun _ => .query fun _ known => known
  | field => exact (found _ _).bind fun _ => .query fun _ known => known
  | staticField => exact (found _ _).bind fun _ => .query fun _ known => known

/-- A scope gives its class reference back, whatever is looked up within. -/
theorem neutral_scope (className : String) (members : List (MemberKind × String × String)) :
    Neutral (dialect.scope className members) := by
  intro m
  let K (out : Int) (t : Machine) : Prop :=
    t.livePins = m.livePins ∧ t.liveClasses = m.liveClasses + out
  have obtained : Meets (· = m) (Machine.findClass className) (fun _ => K 1) fun _ => K 0 := by
    rintro t rfl
    cases found : t.layout.class? className with
    | some c =>
      rw [Machine.findClass_of_class? found]
      exact ⟨rfl, rfl⟩
    | none =>
      rw [Machine.findClass_of_none found]
      exact ⟨rfl, (Int.add_zero _).symm⟩
  have looked (c : Nat) : Keeps (K 1) (members.mapM fun p =>
      dialect.lookupMember c p.1 p.2.1 p.2.2) :=
    (Answers.mapM fun _ _ => .of_keeps (keeps_lookupMember _ _ c _ _ _)).keeps
  have balanced : Meets (· = m) (dialect.scope className members) (fun _ => K 0) fun _ => K 0 := by
    refine .mapError (obtained.bracket fun c => ?_)
    have used : Keeps (K 1) _ := (looked c).bind fun handles =>
      .query (g := fun h => (Answer.scope (showClass c) handles, h)) fun _ known => known
    have released (t : Machine) (known : K 1 t) : K 0 { t with liveClasses := t.liveClasses - 1 } :=
      ⟨known.1, by simp [known.2]⟩
    exact used.conseq (fun _ known => known) (fun _ => released) fun _ => released
  have after := balanced m rfl
  cases run : dialect.scope className members m with
  | mk answer t =>
    rw [run] at after
    cases answer with
    | ok v => exact ⟨after.1, after.2.trans (Int.add_zero _)⟩
    | error fault => exact ⟨after.1, after.2.trans (Int.add_zero _)⟩

end

/-! ## Workspaces -/

/-- The workspace in the course of a deal that began with `ws₀`; `m` is the machine that it all
began with. -/
structure Midway (m : Machine) (ws₀ ws : Workspace host Unit) : Prop where
  store : InOrder m ws₀ ws.store
  /-- Nothing is given back before the deal is over. -/
  released : ws.released = ws₀.released
  bindings : ∀ v ∈ ws.bindings, Heir ws₀ v.2
  registries : ∀ v ∈ ws.registries, Registered ws₀ v.2
  lasting : ∀ l ∈ ws.lasting, Covered ws₀ l.cell
  deferred : ∀ v ∈ ws.deferred, v.2 ∈ ws.lasting

section

variable {m : Machine} {ws₀ ws : Workspace host Unit} {α : Type} {P : α → Prop}

/-- What is held in the course of a deal was held when it began, or was made since. -/
theorem Midway.heir (midway : Midway m ws₀ ws) {b : BindingId} (held : ws.holds b = true) :
    Heir ws₀ b := by
  simp only [Workspace.holds, Bool.or_eq_true] at held
  rcases held with (held | held) | held
  · obtain ⟨v, there, same⟩ := List.any_eq_true.mp held
    rw [← eq_of_beq same]
    exact midway.bindings v there
  · obtain ⟨v, there, kept⟩ := List.any_eq_true.mp held
    obtain ⟨entry, mem, content⟩ := List.mem_filterMap.mp (List.contains_iff_mem.mp kept)
    exact midway.store.heir_of_binding (midway.registries v there entry mem) content
  · obtain ⟨l, there, resolved⟩ := List.any_eq_true.mp held
    exact midway.store.heir_of_binding (midway.lasting l there) (eq_of_beq resolved)

/-! ## Small actions -/

theorem answers_onStore {x : Store.Request host α} (h : Answers (InOrder m ws₀) x P) :
    Answers (Midway m ws₀) (Work.onStore x) P := by
  intro ws midway
  have after := h ws.store midway.store
  simp only [Work.onStore, Action.mapError]
  cases run : x ws.store with
  | mk answer t =>
    rw [run] at after
    cases answer with
    | ok v => exact ⟨{ midway with store := after.1 }, after.2⟩
    | error fault => exact { midway with store := after }

theorem keeps_onHost {x : host.Request α} (h : Neutral x) : Keeps (Midway m ws₀) (Work.onHost x) :=
  (answers_onStore (.of_keeps h.keeps_onHost)).keeps

theorem answers_gets {f : Workspace host Unit → α} (h : ∀ ws, Midway m ws₀ ws → P (f ws)) :
    Answers (Midway m ws₀) (Work.gets f) P :=
  .query fun ws midway => ⟨midway, h ws midway⟩

theorem keeps_given (entry : Given α) :
    Answers (Midway m ws₀) (Work.given (H := host) (ξ := Unit) entry) fun _ => True :=
  .ofExcept fun _ _ => trivial

theorem answers_valueNamed {vars : Workspace host Unit → Variables α} {missing : Refusal}
    {name : String} (h : ∀ ws, Midway m ws₀ ws → ∀ v ∈ vars ws, P v.2) :
    Answers (Midway m ws₀) (Work.valueNamed vars missing name) P := by
  intro ws midway
  unfold Work.valueNamed
  cases found : (vars ws).get? name with
  | none => exact midway
  | some a =>
    obtain ⟨v, there, rfl⟩ := Variables.exists_of_get? found
    exact ⟨midway, h ws midway v there⟩

theorem answers_valueOf {vars : Workspace host Unit → Variables α} {missing : Refusal}
    {name : Given String} (h : ∀ ws, Midway m ws₀ ws → ∀ v ∈ vars ws, P v.2) :
    Answers (Midway m ws₀) (Work.valueOf vars missing name) P :=
  (keeps_given name).bind fun _ _ => answers_valueNamed h

theorem answers_deferred (name : Given String) :
    Answers (Midway m ws₀) (Script.deferred name) (Covered ws₀ ·.cell) :=
  answers_valueOf fun _ midway v there => midway.lasting _ (midway.deferred v there)

theorem keeps_bindingOf (b : BindingId) :
    Answers (Midway m ws₀) (Work.bindingOf b) fun _ => True := by
  intro ws midway
  unfold Work.bindingOf
  cases ws.store.binding? b with
  | none => exact midway
  | some binding => exact ⟨midway, trivial⟩

theorem keeps_binding (name : Given String) :
    Answers (Midway m ws₀) (Work.binding (ξ := Unit) name) fun _ => True :=
  (answers_valueOf (P := fun _ => True) fun _ _ _ _ => trivial).bind fun b _ => keeps_bindingOf b

theorem keeps_arguments (texts : List String) :
    Answers (Midway m ws₀) (dialect.arguments texts) fun _ => True := by
  intro ws midway
  unfold Dialect.arguments
  cases texts.mapM (dialect.readArgument ws.objects.get?) with
  | none => exact midway
  | some args => exact ⟨midway, trivial⟩

theorem keeps_keepBinding {b : BindingId} (heir : Heir ws₀ b) (keep : Option String) :
    Answers (Midway m ws₀) (Work.keepBinding keep b) fun _ => True := by
  intro ws midway
  refine ⟨{ midway with bindings := fun v there => ?_ }, trivial⟩
  rcases Variables.mem_keep there with new | old
  · rwa [new]
  · exact midway.bindings v old

theorem keeps_answerBinding {b : BindingId} (heir : Heir ws₀ b) (keep : Option String) :
    Answers (Midway m ws₀) (answerBinding keep b) fun _ => True :=
  (keeps_bindingOf b).bind fun _ _ => (keeps_keepBinding heir keep).bind fun _ _ => .pure trivial

theorem keeps_answerText (text : Machine → String) :
    Answers (Midway m ws₀) (Dialect.answerText (H := host) text) fun _ => True :=
  answers_gets fun _ _ => trivial

theorem keeps_answerObject (keep : Option String) (o : ObjectNumber) :
    Answers (Midway m ws₀) (dialect.answerObject keep o) fun _ => True := by
  have kept : Answers (Midway m ws₀) (Work.keepObject keep o) fun _ => True :=
    fun ws midway => ⟨{ midway with }, trivial⟩
  exact kept.bind fun _ _ => keeps_answerText _

theorem keeps_answerValue (keep : Option String) (v : Value) :
    Answers (Midway m ws₀) (dialect.answerValue keep v) fun _ => True := by
  cases v with
  | object o => exact keeps_answerObject keep o
  | int i =>
    have told : Answers (Midway m ws₀)
        (Dialect.answerText (H := host) fun h => dialect.showValue h (.int i)) fun _ => True :=
      keeps_answerText _
    exact Answers.bind (x := pure ()) (P := fun _ => True) (.pure trivial) fun _ _ => told

/-! ## Registries -/

theorem answers_onRegistry {name : String} {x : Shared.Request host α}
    (h : Answers (SharedInOrder m ws₀) x P) : Answers (Midway m ws₀) (onRegistry name x) P := by
  intro ws midway
  unfold onRegistry
  cases known : ws.registries.get? name with
  | none => exact midway
  | some r =>
    obtain ⟨v, there, rfl⟩ := Variables.exists_of_get? known
    have after := h (ws.shared v.2) ⟨midway.store, midway.registries v there⟩
    have kept {t : Shared host} (shared : SharedInOrder m ws₀ t) :
        Midway m ws₀ { ws with
          registries := ws.registries.put name t.registry, store := t.store } := by
      refine { midway with store := shared.store, registries := fun w mem => ?_ }
      rcases Variables.mem_put mem with new | old
      · rw [new]
        exact shared.registry
      · exact midway.registries w old
    dsimp only
    cases run : x (ws.shared v.2) with
    | mk answer t =>
      rw [run] at after
      cases answer with
      | ok a => exact ⟨kept after.1, after.2⟩
      | error fault => exact kept after

theorem keeps_registryName (name : Given String) :
    Answers (Midway m ws₀) (registryName name) fun _ => True := by
  refine (keeps_given name).bind fun r _ => ?_
  have there : Answers (Midway m ws₀) (Work.valueNamed (·.registries) .noSuchRegistry r)
      fun _ => True := answers_valueNamed fun _ _ _ _ => trivial
  exact there.bind fun _ _ => .pure trivial

theorem keeps_makeRegistry (keep : Given String) (ds : List Declaration) :
    Answers (Midway m ws₀) (Step.perform.makeRegistry keep ds) fun _ => True := by
  refine (answers_onStore (answers_ofDeclarations ds)).bind fun r registered => ?_
  refine (keeps_given keep).bind fun name _ => ?_
  have kept : Answers (Midway m ws₀) (Action.modify fun ws : Workspace host Unit =>
      { ws with registries := ws.registries.put name r } : Work host Unit Unit)
      fun _ => True := by
    intro ws midway
    refine ⟨{ midway with registries := fun v mem => ?_ }, trivial⟩
    rcases Variables.mem_put mem with new | old
    · rwa [new]
    · exact midway.registries v old
  exact kept.bind fun _ _ => .pure trivial

/-! ## Steps -/

theorem keeps_declaration (name : Given String) :
    Answers (Midway m ws₀) (Work.declaration name) fun _ => True :=
  answers_valueOf fun _ _ _ _ => trivial

theorem keeps_object (name : String) :
    Answers (Midway m ws₀) (Work.object name) fun _ => True :=
  answers_valueNamed fun _ _ _ _ => trivial

theorem answers_onHost {x : host.Request α} (h : Neutral x) :
    Answers (Midway m ws₀) (Work.onHost x) fun _ => True :=
  .of_keeps (keeps_onHost h)

/-- A variable that is taken away holds nothing any more, and the others hold what they held. -/
theorem keeps_forget {β : Type} {vars : Workspace host Unit → Variables β}
    {change : Variables β → Workspace host Unit → Workspace host Unit}
    (kept : ∀ ws name, Midway m ws₀ ws → Midway m ws₀ (change ((vars ws).erase name) ws))
    (name : String) : Answers (Midway m ws₀) (forget vars change name) fun _ => True :=
  fun ws midway => ⟨kept ws name midway, trivial⟩

/-- The cell of a new deferred binding was not there when the deal began. -/
theorem keeps_defer (d : Declaration) (name : String) :
    Answers (Midway m ws₀) (Action.query fun ws : Workspace host Unit =>
      let (l, store) := Deferred.ofDeclaration d ws.store
      (l, { ws with
        store := store
        deferred := ws.deferred.put name l
        lasting := ws.lasting ++ [l] }) : Work host Unit Deferred) fun _ => True := by
  intro ws midway
  obtain ⟨order, covered⟩ := midway.store.newCell
  refine ⟨{ midway with store := order, lasting := ?_, deferred := ?_ }, trivial⟩
  · intro l mem
    rcases List.mem_append.mp mem with old | new
    · exact midway.lasting l old
    · rw [List.mem_singleton.mp new]
      exact covered
  · intro v mem
    rcases Variables.mem_put mem with new | old
    · exact List.mem_append_right _ (by simp [new])
    · exact List.mem_append_left _ (midway.deferred v old)

theorem keeps_feature (f : Feature) :
    Answers (Midway m ws₀) (dialect.perform f) fun _ => True := by
  intro ws midway
  refine ⟨{ midway with store := midway.store.onHost ?_ ?_ }, trivial⟩
  · cases f <;> rfl
  · cases f <;> rfl

/-- Each step keeps the workspace in order. -/
theorem keeps_perform (step : Step Feature) :
    Answers (Midway m ws₀) (step.perform dialect) fun _ => True := by
  cases step with
  | resolve declaration keep =>
    refine (keeps_declaration declaration).bind fun d _ => ?_
    exact (answers_onStore (answers_resolve d)).bind fun b new =>
      keeps_answerBinding (.inr new) keep
  | describe binding => exact (keeps_binding binding).bind fun _ _ => .pure trivial
  | contains binding operation =>
    refine (keeps_binding binding).bind fun _ _ => ?_
    exact (keeps_given operation).bind fun _ _ => .pure trivial
  | handle kind binding operation =>
    refine (keeps_binding binding).bind fun b _ => (keeps_given operation).bind fun name _ => ?_
    exact (answers_onHost (neutral_handleText kind name)).bind fun _ _ => .pure trivial
  | call trusted binding operation instanceName arguments keep =>
    refine (keeps_binding binding).bind fun b _ => (keeps_given operation).bind fun name _ => ?_
    refine (keeps_arguments arguments).bind fun args _ => (keeps_object _).bind fun o _ => ?_
    refine Answers.bind (P := fun _ => True) ?_ fun v _ => keeps_answerValue keep v
    cases trusted with
    | true => exact answers_onHost (.of_answer (.call true name o args) rfl)
    | false => exact answers_onHost (.of_answer (.call false name o args) rfl)
  | callStatic binding operation arguments keep =>
    refine (keeps_binding binding).bind fun b _ => (keeps_given operation).bind fun name _ => ?_
    refine (keeps_arguments arguments).bind fun args _ => ?_
    have called : Answers (Midway m ws₀) (Work.onHost (b.callStatic name args)) fun _ => True :=
      answers_onHost (.of_answer (.callStatic name args) rfl)
    exact called.bind fun v _ => keeps_answerValue keep v
  | create binding operation arguments keep =>
    refine (keeps_binding binding).bind fun b _ => (keeps_given operation).bind fun name _ => ?_
    refine (keeps_arguments arguments).bind fun args _ => ?_
    have called : Answers (Midway m ws₀) (Work.onHost (b.create name args)) fun _ => True :=
      answers_onHost (.of_answer (.create name args) rfl)
    exact called.bind fun o _ => keeps_answerObject keep o
  | read trusted binding operation instanceName arguments keep =>
    refine (keeps_binding binding).bind fun b _ => (keeps_given operation).bind fun name _ => ?_
    refine (keeps_arguments arguments).bind fun args _ => (keeps_object _).bind fun o _ => ?_
    refine Answers.bind (P := fun _ => True) ?_ fun v _ => keeps_answerValue keep v
    cases trusted with
    | true => exact answers_onHost (.of_answer (.read true name o) rfl)
    | false => exact answers_onHost (.of_answer (.read false name o) rfl)
  | readStatic binding operation arguments keep =>
    refine (keeps_binding binding).bind fun b _ => (keeps_given operation).bind fun name _ => ?_
    refine (keeps_arguments arguments).bind fun args _ => ?_
    have called : Answers (Midway m ws₀) (Work.onHost (b.readStatic name)) fun _ => True :=
      answers_onHost (.of_answer (.readStatic name) rfl)
    exact called.bind fun v _ => keeps_answerValue keep v
  | acquire binding =>
    refine (keeps_binding binding).bind fun b _ => ?_
    exact (answers_onHost (neutral_acquire _)).bind fun _ _ => .pure trivial
  | scope className members =>
    refine (keeps_given className).bind fun name _ => (keeps_given members).bind fun ms _ => ?_
    exact answers_onHost (neutral_scope name ms)
  | same first second =>
    have there (name : Given String) :
        Answers (Midway m ws₀) (Work.bindingId name) fun _ => True :=
      answers_valueOf fun _ _ _ _ => trivial
    exact (there first).bind fun _ _ => (there second).bind fun _ _ => .pure trivial
  | drop name kind =>
    refine (keeps_given name).bind fun name _ => (keeps_given kind).bind fun kind _ => ?_
    cases kind with
    | binding =>
      refine keeps_forget (fun ws name midway => ?_) name
      exact { midway with
        bindings := fun v mem => midway.bindings v (Variables.mem_of_mem_erase mem) }
    | registry =>
      refine keeps_forget (fun ws name midway => ?_) name
      exact { midway with
        registries := fun v mem => midway.registries v (Variables.mem_of_mem_erase mem) }
  | registry keep => exact keeps_makeRegistry keep []
  | registryOf keep names =>
    have named : Answers (Midway m ws₀) (declarations names) fun _ => True :=
      (Answers.mapM (P := fun _ => True) fun _ _ =>
        answers_valueNamed fun _ _ _ _ => trivial).imp fun _ _ => trivial
    exact named.bind fun ds _ => keeps_makeRegistry keep ds
  | request r declaration keep =>
    refine (keeps_declaration declaration).bind fun d _ => (keeps_registryName r).bind fun r _ => ?_
    exact (answers_onRegistry (answers_request d)).bind fun b heir => keeps_answerBinding heir keep
  | named r className keep =>
    refine (keeps_registryName r).bind fun r _ => (keeps_given className).bind fun name _ => ?_
    exact (answers_onRegistry (answers_named name)).bind fun b heir => keeps_answerBinding heir keep
  | preload r =>
    refine (keeps_registryName r).bind fun r _ => ?_
    have visited : Keeps (SharedInOrder m ws₀) (Registry.preload (H := host)) :=
      fun s shared => keeps_preloadAlong shared.pending s shared
    exact (answers_onRegistry (.of_keeps visited)).bind fun _ _ => .pure trivial
  | peek r className keep =>
    refine (keeps_registryName r).bind fun r _ => (keeps_given className).bind fun name _ => ?_
    have found : Answers (SharedInOrder m ws₀)
        (Action.query fun s => (Registry.peek s name, s) : Shared.Request host (Option BindingId))
        fun found => ∀ b, found = some b → Heir ws₀ b :=
      .query fun s shared => ⟨shared, fun b there => shared.peek there⟩
    refine (answers_onRegistry found).bind fun found heir => ?_
    cases found with
    | some b => exact keeps_answerBinding (heir b rfl) keep
    | none => exact .pure trivial
  | describeRegistry r =>
    have there : Answers (Midway m ws₀) (Work.valueOf (·.registries) .noSuchRegistry r)
        fun _ => True := answers_valueOf fun _ _ _ _ => trivial
    exact there.bind fun _ _ => .pure trivial
  | defer declaration keep =>
    refine (keeps_declaration declaration).bind fun d _ => (keeps_given keep).bind fun name _ => ?_
    exact (keeps_defer d name).bind fun l _ => answers_gets fun _ _ => trivial
  | force name keep =>
    refine (answers_deferred name).bind fun l covered => ?_
    exact (answers_onStore (answers_fill covered l.declaration)).bind fun b heir =>
      keeps_answerBinding heir keep
  | describeDeferred name keep =>
    refine (answers_deferred name).bind fun l covered => ?_
    have found : Answers (Midway m ws₀) (Work.gets fun ws => l.resolved? ws.store)
        fun found => ∀ b, found = some b → Heir ws₀ b :=
      answers_gets fun ws midway b resolved => midway.store.heir_of_binding covered resolved
    refine found.bind fun found heir => ?_
    refine Answers.bind (P := fun _ => True) ?_ fun _ _ => answers_gets fun _ _ => trivial
    cases found with
    | none => exact .pure trivial
    | some b =>
      refine Answers.bind (P := fun _ => True) ?_ fun _ _ => .pure trivial
      refine (keeps_keepBinding (heir b rfl) keep).bind fun _ _ => ?_
      exact (keeps_bindingOf b).bind fun _ _ => .pure trivial
  | classType name keep =>
    refine (answers_deferred name).bind fun l covered => ?_
    refine (answers_onStore (answers_fill covered l.declaration)).bind fun b heir => ?_
    refine (keeps_keepBinding heir keep).bind fun _ _ => ?_
    exact (keeps_bindingOf b).bind fun _ _ => .pure trivial
  | special f => exact keeps_feature f

/-- Each deal keeps the workspace in order. -/
theorem Deal.keeps_perform (deal : Deal) :
    Answers (Midway m ws₀) deal.perform fun _ => True := by
  cases deal with
  | step s => exact HandleCache.Counting.keeps_perform s
  | preloadAlong r a =>
    have visited : Keeps (SharedInOrder m ws₀)
        fun s : Shared host => Registry.preloadAlong (a.order s.pending) s :=
      fun s shared => keeps_preloadAlong
        (fun e mem => shared.pending e ((a.perm s.pending).mem_iff.mp mem)) s shared
    exact (answers_onRegistry (.of_keeps visited)).bind fun _ _ => .pure trivial

end

end HandleCache.Counting

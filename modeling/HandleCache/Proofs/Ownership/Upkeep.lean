import HandleCache.Proofs.Requests.Discipline
import HandleCache.Script.Run

/-!
# What all steps of scripts keep

What is said of the host of a workspace, of the bindings made on it and of what only scripts on this
kind of host have does not depend on the variables, the cells and the registries. So it is kept by
every step if it is kept by what a step can do to these three: requests to bindings, resolutions,
and what only scripts on this kind of host can do.

## Contents

- `Kept`: what is said of a workspace
- `Upkeep`: what requests and resolutions have to do for it to be kept

## Main statements

- `Upkeep.perform`: every step keeps it
- `Upkeep.preloadAlong`: so does a registry that resolves what it knows in any order
-/

namespace HandleCache.Script

open HandleCache.Action

variable {H : Host} {ξ χ α β : Type} {D : Dialect H ξ χ} {I : H.State → List (Binding H) → ξ → Prop}

/-- What is said of the host of a workspace, of its bindings and of what only scripts on this kind
of host have. -/
def Kept (I : H.State → List (Binding H) → ξ → Prop) (ws : Workspace H ξ) : Prop :=
  I ws.store.host ws.store.bindings ws.extra

/-- What requests and resolutions have to do for this to be kept. -/
structure Upkeep (I : H.State → List (Binding H) → ξ → Prop) : Prop where
  /-- From wherever it holds, all requests keep to a discipline under which it holds. -/
  requests {h : H.State} {bs : List (Binding H)} {x : ξ} : I h bs x →
    ∃ R, H.Discipline R ∧ R none h ∧ ∀ h', R none h' → I h' bs x
  resolve (d : Declaration) (bs : List (Binding H)) (x : ξ) :
    Meets (fun h => I h bs x) (Binding.resolve H d) (fun b h => I h (bs ++ [b]) x)
      fun _ h => I h bs x

/-! ## Actions that change nothing of it -/

section

variable {x : Work H ξ α}

theorem keeps_of_same (same : ∀ ws, (x ws).2 = ws) : Keeps (Kept I) x :=
  .of_state fun ws kept => (same ws).symm ▸ kept

theorem keeps_gets (f : Workspace H ξ → α) : Keeps (Kept I) (Work.gets f) :=
  keeps_of_same fun _ => rfl

theorem keeps_given (entry : Given α) : Keeps (Kept I) (Work.given (H := H) (ξ := ξ) entry) :=
  keeps_of_same fun _ => rfl

theorem keeps_valueNamed (vars : Workspace H ξ → Variables α) (missing : Refusal) (name : String) :
    Keeps (Kept I) (Work.valueNamed vars missing name) := by
  refine keeps_of_same fun ws => ?_
  unfold Work.valueNamed
  split <;> rfl

theorem keeps_valueOf (vars : Workspace H ξ → Variables α) (missing : Refusal)
    (name : Given String) : Keeps (Kept I) (Work.valueOf vars missing name) :=
  (keeps_given name).bind fun name => keeps_valueNamed vars missing name

theorem keeps_bindingOf (b : BindingId) : Keeps (Kept I) (Work.bindingOf (H := H) (ξ := ξ) b) := by
  refine keeps_of_same fun ws => ?_
  unfold Work.bindingOf
  split <;> rfl

theorem keeps_binding (name : Given String) :
    Keeps (Kept I) (Work.binding (H := H) (ξ := ξ) name) :=
  (keeps_valueOf _ _ name).bind keeps_bindingOf

theorem keeps_arguments (texts : List String) : Keeps (Kept I) (D.arguments texts) := by
  refine keeps_of_same fun ws => ?_
  unfold Dialect.arguments
  split <;> rfl

theorem keeps_keepBinding (keep : Option String) (b : BindingId) :
    Keeps (Kept I) (Work.keepBinding (H := H) (ξ := ξ) keep b) :=
  fun _ kept => kept

theorem keeps_keepObject (keep : Option String) (o : H.Object) :
    Keeps (Kept I) (Work.keepObject (H := H) (ξ := ξ) keep o) :=
  fun _ kept => kept

theorem keeps_answerObject (keep : Option String) (o : H.Object) :
    Keeps (Kept I) (D.answerObject keep o) :=
  (keeps_keepObject keep o).bind fun _ => keeps_gets _

theorem keeps_answerValue (keep : Option String) (v : H.Value) :
    Keeps (Kept I) (D.answerValue keep v) := by
  unfold Dialect.answerValue
  split
  · exact (keeps_keepObject keep _).bind fun _ => keeps_gets _
  · have told : Keeps (Kept I) (Dialect.answerText (H := H) (ξ := ξ) fun h => D.showValue h v) :=
      keeps_gets _
    exact Meets.bind (x := pure ()) (F := fun _ => Kept I) (.pure fun _ kept => kept) fun _ => told

theorem keeps_answerBinding (keep : Option String) (b : BindingId) :
    Keeps (Kept I) (answerBinding (H := H) (ξ := ξ) keep b) :=
  (keeps_bindingOf b).bind fun _ => (keeps_keepBinding keep b).bind fun _ =>
    .pure fun _ kept => kept

theorem keeps_registryName (name : Given String) :
    Keeps (Kept I) (registryName (H := H) (ξ := ξ) name) :=
  (keeps_given name).bind fun _ => (keeps_valueNamed _ _ _).bind fun _ => .pure fun _ kept => kept

theorem keeps_declarations (names : List String) :
    Keeps (Kept I) (declarations (H := H) (ξ := ξ) names) :=
  (Answers.mapM (P := fun _ => True) fun _ _ => .of_keeps (keeps_valueNamed _ _ _)).keeps

/-- A variable is taken away. -/
theorem keeps_forget {vars : Workspace H ξ → Variables α}
    {change : Variables α → Workspace H ξ → Workspace H ξ} {name : String}
    (kept : ∀ ws, Kept I ws → Kept I (change ((vars ws).erase name) ws)) :
    Keeps (Kept I) (forget vars change name) :=
  fun ws held => kept ws held

end

/-! ## Actions on the host and on the store -/

/-- What is said of a store, with what only scripts on this kind of host have. -/
def Stored (I : H.State → List (Binding H) → ξ → Prop) (x : ξ) (s : Store H) : Prop :=
  I s.host s.bindings x

theorem keeps_onStore {y : Store.Request H α} (h : ∀ x, Keeps (Stored I x) y) :
    Keeps (Kept I) (Work.onStore y) := by
  intro ws kept
  have after := (h ws.extra).state kept
  simp only [Work.onStore, Action.mapError]
  cases run : y ws.store with
  | mk answer t =>
    rw [run] at after
    cases answer with
    | ok v => exact after
    | error fault => exact after

theorem keeps_onHost {y : H.Request α} (h : ∀ bs x, Keeps (fun h => I h bs x) y) :
    Keeps (Kept I) (Work.onHost y) :=
  keeps_onStore fun x => .of_state fun s kept => (h s.bindings x).state kept

/-- What a request leads to, told of the workspace. -/
theorem meets_onHost {y : H.Request α} {K S : Workspace H ξ → Prop} {F : α → Workspace H ξ → Prop}
    (h : ∀ ws, K ws → Meets (· = ws.store.host) y
      (fun a t => F a { ws with store := { ws.store with host := t } })
      fun _ t => S { ws with store := { ws.store with host := t } }) :
    Meets K (Work.onHost y) F fun _ => S := by
  intro ws known
  have after := h ws known ws.store.host rfl
  simp only [Work.onHost, Work.onStore, Store.onHost, Action.mapError]
  cases run : y ws.store.host with
  | mk answer t =>
    rw [run] at after
    cases answer with
    | ok v => exact after
    | error fault => exact after

namespace Upkeep

variable {bs : List (Binding H)} {x : ξ}

/-- Whatever is kept by all that the requests of the host keep. -/
theorem keeps {y : H.Request α} (U : Upkeep I) (h : ∀ R, H.Discipline R → Keeps (R none) y)
    (bs : List (Binding H)) (x : ξ) : Keeps (fun h => I h bs x) y := by
  intro s held
  obtain ⟨R, discipline, start, back⟩ := U.requests held
  have after := (h R discipline).conseq (fun _ h => h) (fun _ => back) fun _ => back
  exact after s start

theorem keeps_tell (U : Upkeep I) (e : LogEntry) :
    Keeps (fun h => I h bs x) (Host.tell (H := H) e) :=
  U.keeps (fun _ R h held => R.note e none h held) bs x

theorem keeps_resolve (U : Upkeep I) (d : Declaration) (x : ξ) :
    Keeps (Stored I x) (Store.resolve d) := by
  intro s kept
  have after := U.resolve d s.bindings x s.host kept
  unfold Store.resolve
  cases run : Binding.resolve H d s.host with
  | mk answer h =>
    rw [run] at after
    cases answer with
    | ok b => exact after
    | error fault => exact after

theorem keeps_attempt (U : Upkeep I) (c : CellId) (d : Declaration) (x : ξ) :
    Keeps (Stored I x) (Store.attempt c d) := by
  intro s kept
  have after := U.keeps_resolve d x s kept
  unfold Store.attempt
  cases run : Store.resolve d s with
  | mk answer t =>
    rw [run] at after
    cases answer with
    | ok b => exact after
    | error fault => exact after

theorem keeps_fill (U : Upkeep I) (c : CellId) (d : Declaration) (x : ξ) :
    Keeps (Stored I x) (Store.fill c d) := by
  intro s kept
  unfold Store.fill
  cases (s.cell c).binding? with
  | some b => exact kept
  | none => exact U.keeps_attempt c d x s kept

end Upkeep

/-! ## Registries -/

/-- The same of a registry with its store. -/
def SharedKept (I : H.State → List (Binding H) → ξ → Prop) (x : ξ) (s : Shared H) : Prop :=
  Stored I x s.store

theorem keeps_onRegistry {name : String} {y : Shared.Request H α}
    (h : ∀ x, Keeps (SharedKept I x) y) : Keeps (Kept I) (onRegistry (ξ := ξ) name y) := by
  refine .of_state fun ws kept => ?_
  unfold onRegistry
  cases ws.registries.get? name with
  | none => exact kept
  | some r => exact (h ws.extra).state (s := ws.shared r) kept

namespace Upkeep

variable {x : ξ}

theorem keeps_shared_tell (U : Upkeep I) (e : LogEntry) :
    Keeps (SharedKept I x) (Shared.tell (H := H) e) :=
  fun s kept =>
    have told : Keeps (fun h => I h s.store.bindings x) (Host.tell e) := U.keeps_tell e
    told s.store.host kept

theorem keeps_shared_attempt (U : Upkeep I) (c : CellId) (d : Declaration) :
    Keeps (SharedKept I x) (Shared.attempt c d) := by
  intro s kept
  have after := U.keeps_attempt c d x s.store kept
  unfold Shared.attempt
  cases run : Store.attempt c d s.store with
  | mk answer t =>
    rw [run] at after
    cases answer with
    | ok b => exact after
    | error fault => exact after

theorem keeps_settle (U : Upkeep I) (c : CellId) (d : Declaration) :
    Keeps (SharedKept I x) (Shared.settle c d) := by
  intro s kept
  unfold Shared.settle
  cases (s.store.cell c).binding? with
  | some b => exact U.keeps_shared_tell _ s kept
  | none => exact U.keeps_shared_attempt c d s kept

theorem keeps_locate (d : Declaration) : Keeps (SharedKept I x) (Shared.locate d) := by
  intro s kept
  unfold Shared.locate
  cases s.registry.find? d.className with
  | some entry =>
    by_cases same : entry.declaration = d
    · simpa [same] using kept
    · simpa [same] using kept
  | none => exact kept

theorem withdraw (U : Upkeep I) {s : Shared H} (kept : SharedKept I x s) (name : String)
    (c : CellId) : SharedKept I x (Shared.withdraw name c s) := by
  unfold Shared.withdraw
  split
  · split
    · exact U.keeps_shared_tell _ s kept
    · exact kept
  · exact kept

theorem keeps_request (U : Upkeep I) (d : Declaration) :
    Keeps (SharedKept I x) (Registry.request d) := by
  refine (keeps_locate d).bind fun entry s kept => ?_
  have after := U.keeps_settle entry.cell d s kept
  cases run : Shared.settle entry.cell d s with
  | mk answer t =>
    rw [run] at after
    cases answer with
    | ok b => exact after
    | error fault =>
      dsimp only
      split
      · exact after
      · exact U.withdraw after _ _

theorem keeps_named (U : Upkeep I) (name : String) :
    Keeps (SharedKept I x) (Registry.named name) := by
  intro s kept
  unfold Registry.named
  cases s.registry.find? name with
  | some entry => exact U.keeps_settle entry.cell entry.declaration s kept
  | none => exact kept

/-- A registry may visit what it knows in any order. -/
theorem preloadAlong (U : Upkeep I) (visit : List Registration) :
    Keeps (SharedKept I x) (Registry.preloadAlong visit) := by
  refine (U.keeps_shared_tell _).bind fun _ => ?_
  induction visit with
  | nil => exact .pure fun _ kept => kept
  | cons entry rest ih =>
    exact (U.keeps_settle entry.cell entry.declaration).bind fun _ => ih

end Upkeep

theorem sharedKept_predeclare {x : ξ} {s : Shared H} (kept : SharedKept I x s)
    (ds : List Declaration) : SharedKept I x (Registry.predeclare ds s) := by
  induction ds generalizing s with
  | nil => exact kept
  | cons d rest ih => exact ih kept

theorem keeps_ofDeclarations (ds : List Declaration) (x : ξ) :
    Keeps (Stored I x) (Registry.ofDeclarations (H := H) ds) := by
  intro s kept
  unfold Registry.ofDeclarations
  cases Registry.distinct (ε := H.Failure) [] ds with
  | error fault => exact kept
  | ok known => exact sharedKept_predeclare (s := { store := s }) kept known

theorem keeps_makeRegistry (keep : Given String) (ds : List Declaration) :
    Keeps (Kept I) (Step.perform.makeRegistry (H := H) (ξ := ξ) keep ds) := by
  refine (keeps_onStore (keeps_ofDeclarations ds)).bind fun r => (keeps_given keep).bind fun name => ?_
  exact Meets.bind (F := fun _ => Kept I) (fun _ kept => kept) fun _ => .pure fun _ kept => kept

/-! ## Steps -/

namespace Upkeep

variable {bs : List (Binding H)} {x : ξ}

theorem answer (U : Upkeep I) (b : Binding H) (ask : Ask H) (bs : List (Binding H)) (x : ξ) :
    Keeps (fun h => I h bs x) (b.answer ask) :=
  U.keeps (fun _ R => R.answer b ask) bs x

/-- A request to a binding, whatever its answer is made into. -/
theorem keeps_asked (U : Upkeep I) {b : Binding H} {y : H.Request α}
    {reply : α → Reply H} (ask : Ask H) (asked : b.answer ask = y >>= fun v => pure (reply v)) :
    Keeps (Kept I) (Work.onHost y) := by
  refine keeps_onHost fun bs x => .of_state fun h held => ?_
  have after := (U.answer b ask bs x).state held
  rwa [asked, state_reply] at after

theorem keeps_handleText (D : Dialect H ξ χ) (kind : MemberKind) (b : Binding H)
    (operation : String) : Keeps (fun h => I h bs x) (D.handleText kind b operation) := by
  have written {ι : Type} (id : Except (Fault H.Failure) ι) (text : H.State → ι → String) :
      Keeps (fun h => I h bs x) (Dialect.handleText.written (H := H) id text) := by
    intro h held
    cases id with
    | ok id => exact held
    | error fault => exact held
  cases kind with
  | method => exact written _ _
  | staticMethod => exact written _ _
  | field => exact written _ _
  | staticField => exact written _ _

/-- A scope gives its class reference back, whatever is looked up within. -/
theorem keeps_scope (U : Upkeep I) (className : String)
    (members : List (MemberKind × String × String)) :
    Keeps (fun h => I h bs x) (D.scope className members) := by
  refine U.keeps (fun R discipline => ?_) bs x
  have looked (c : H.ClassRef) (kind : MemberKind) (name signature : String) :
      Keeps (R (some c)) (D.lookupMember c kind name signature) := by
    cases kind with
    | method => exact (discipline.findMethod c _ _).bind fun _ => .query fun _ h => h
    | staticMethod => exact (discipline.findStaticMethod c _ _).bind fun _ => .query fun _ h => h
    | field => exact (discipline.findField c _ _).bind fun _ => .query fun _ h => h
    | staticField => exact (discipline.findStaticField c _ _).bind fun _ => .query fun _ h => h
  refine .mapError ((discipline.findClass className).bracket fun c => ?_)
  have all : Keeps (R (some c)) (members.mapM fun p => D.lookupMember c p.1 p.2.1 p.2.2) :=
    (Answers.mapM (P := fun _ => True) fun _ _ => .of_keeps (looked c _ _ _)).keeps
  have used : Keeps (R (some c)) _ := all.bind fun handles =>
    .query (g := fun h => (Answer.scope (D.showClass h c) handles, h)) fun _ h => h
  exact used.conseq (fun _ h => h) (fun _ => discipline.releaseClass c)
    fun _ => discipline.releaseClass c

/-- Every step keeps it if those do that only scripts on this kind of host can take. -/
theorem perform (U : Upkeep I) (special : ∀ s, Keeps (Kept I) (D.perform s)) (step : Step χ) :
    Keeps (Kept I) (step.perform D) := by
  cases step with
  | resolve declaration keep =>
    refine (keeps_valueOf _ _ declaration).bind fun d => ?_
    exact (keeps_onStore (U.keeps_resolve d)).bind fun b => keeps_answerBinding keep b
  | describe binding => exact (keeps_binding binding).bind fun _ => .pure fun _ kept => kept
  | contains binding operation =>
    refine (keeps_binding binding).bind fun _ => ?_
    exact (keeps_given operation).bind fun _ => .pure fun _ kept => kept
  | handle kind binding operation =>
    refine (keeps_binding binding).bind fun b => (keeps_given operation).bind fun name => ?_
    exact (keeps_onHost fun _ _ => keeps_handleText D kind b name).bind fun _ =>
      .pure fun _ kept => kept
  | call trusted binding operation instanceName arguments keep =>
    refine (keeps_binding binding).bind fun b => (keeps_given operation).bind fun name => ?_
    refine (keeps_arguments arguments).bind fun args => (keeps_valueNamed _ _ _).bind fun o => ?_
    refine Meets.bind (F := fun _ => Kept I) ?_ fun v => keeps_answerValue keep v
    cases trusted with
    | true => exact U.keeps_asked (.call true name o args) rfl
    | false => exact U.keeps_asked (.call false name o args) rfl
  | callStatic binding operation arguments keep =>
    refine (keeps_binding binding).bind fun b => (keeps_given operation).bind fun name => ?_
    refine (keeps_arguments arguments).bind fun args => ?_
    exact (U.keeps_asked (b := b) (.callStatic name args) rfl).bind fun v =>
      keeps_answerValue keep v
  | create binding operation arguments keep =>
    refine (keeps_binding binding).bind fun b => (keeps_given operation).bind fun name => ?_
    refine (keeps_arguments arguments).bind fun args => ?_
    exact (U.keeps_asked (b := b) (.create name args) rfl).bind fun o =>
      keeps_answerObject keep o
  | read trusted binding operation instanceName arguments keep =>
    refine (keeps_binding binding).bind fun b => (keeps_given operation).bind fun name => ?_
    refine (keeps_arguments arguments).bind fun args => (keeps_valueNamed _ _ _).bind fun o => ?_
    refine Meets.bind (F := fun _ => Kept I) ?_ fun v => keeps_answerValue keep v
    cases trusted with
    | true => exact U.keeps_asked (.read true name o) rfl
    | false => exact U.keeps_asked (.read false name o) rfl
  | readStatic binding operation arguments keep =>
    refine (keeps_binding binding).bind fun b => (keeps_given operation).bind fun name => ?_
    refine (keeps_arguments arguments).bind fun args => ?_
    exact (U.keeps_asked (b := b) (.readStatic name) rfl).bind fun v =>
      keeps_answerValue keep v
  | acquire binding =>
    refine (keeps_binding binding).bind fun b => Meets.bind (F := fun _ => Kept I) ?_ fun _ =>
      .pure fun _ kept => kept
    refine keeps_onHost (U.keeps fun R discipline => ?_)
    exact (discipline.service b).withClass fun c => .query fun _ h => h
  | scope className members =>
    refine (keeps_given className).bind fun name => (keeps_given members).bind fun ms => ?_
    exact keeps_onHost fun _ _ => U.keeps_scope name ms
  | same first second =>
    refine (keeps_valueOf _ _ first).bind fun _ => (keeps_valueOf _ _ second).bind fun _ => ?_
    exact .pure fun _ kept => kept
  | drop name kind =>
    refine (keeps_given name).bind fun name => (keeps_given kind).bind fun kind => ?_
    cases kind with
    | binding =>
      refine keeps_forget fun ws kept => ?_
      exact kept
    | registry =>
      refine keeps_forget fun ws kept => ?_
      exact kept
  | registry keep => exact keeps_makeRegistry keep []
  | registryOf keep names =>
    exact (keeps_declarations names).bind fun ds => keeps_makeRegistry keep ds
  | request r declaration keep =>
    refine (keeps_valueOf _ _ declaration).bind fun d => (keeps_registryName r).bind fun r => ?_
    exact (keeps_onRegistry fun _ => U.keeps_request d).bind fun b => keeps_answerBinding keep b
  | named r className keep =>
    refine (keeps_registryName r).bind fun r => (keeps_given className).bind fun name => ?_
    exact (keeps_onRegistry fun _ => U.keeps_named name).bind fun b => keeps_answerBinding keep b
  | preload r =>
    refine (keeps_registryName r).bind fun r => ?_
    have visited (x : ξ) : Keeps (SharedKept I x) (Registry.preload (H := H)) :=
      fun s kept => U.preloadAlong s.pending s kept
    exact (keeps_onRegistry visited).bind fun _ => .pure fun _ kept => kept
  | peek r className keep =>
    refine (keeps_registryName r).bind fun r => (keeps_given className).bind fun name => ?_
    have found (x : ξ) : Keeps (SharedKept I x)
        (Action.query fun s => (Registry.peek s name, s) : Shared.Request H (Option BindingId)) :=
      .query fun _ kept => kept
    refine (keeps_onRegistry found).bind fun found => ?_
    cases found with
    | some b => exact keeps_answerBinding keep b
    | none => exact .pure fun _ kept => kept
  | describeRegistry r =>
    exact (keeps_valueOf _ _ r).bind fun _ => .pure fun _ kept => kept
  | defer declaration keep =>
    refine (keeps_valueOf _ _ declaration).bind fun d => (keeps_given keep).bind fun name => ?_
    exact Meets.bind (F := fun _ => Kept I) (.query fun _ kept => kept) fun l => keeps_gets _
  | force name keep =>
    refine (keeps_valueOf _ _ name).bind fun l => ?_
    exact (keeps_onStore (U.keeps_fill l.cell l.declaration)).bind fun b =>
      keeps_answerBinding keep b
  | describeDeferred name keep =>
    refine (keeps_valueOf _ _ name).bind fun l => (keeps_gets _).bind fun found => ?_
    refine Meets.bind (F := fun _ => Kept I) ?_ fun _ => keeps_gets _
    cases found with
    | none => exact .pure fun _ kept => kept
    | some b =>
      refine Meets.bind (F := fun _ => Kept I) ?_ fun _ => .pure fun _ kept => kept
      refine (keeps_keepBinding keep b).bind fun _ => ?_
      exact (keeps_bindingOf b).bind fun _ => .pure fun _ kept => kept
  | classType name keep =>
    refine (keeps_valueOf _ _ name).bind fun l => ?_
    refine (keeps_onStore (U.keeps_fill l.cell l.declaration)).bind fun b => ?_
    refine (keeps_keepBinding keep b).bind fun _ => ?_
    exact (keeps_bindingOf b).bind fun _ => .pure fun _ kept => kept
  | special s => exact special s

end Upkeep

end HandleCache.Script

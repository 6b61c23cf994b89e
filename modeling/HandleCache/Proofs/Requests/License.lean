import HandleCache.Proofs.Requests.Calls
import HandleCache.Proofs.Requests.Table
import HandleCache.Vm.Counting

/-!
# Calls are licensed

A host may take for granted what it is told of a call: that the handle was looked up for the member
that is called, that the descriptor is the member's own, that the arguments fit it, and that the
instance is there and of the class. All of this is known when a call is made, from the requests
that the resolution made and from those that were made for the call itself.

## Contents

- `Finding`: what requests have shown
- `Stands`: a handle is in the table for an operation, from a resolution
- `Licensed`: what is known when a call is made
- `Checked`: what is known before it is made

## Main statements

- `Binding.ensures_answer`: a table that is established makes licensed calls only
- `licensed_calls`: so does every binding that a resolution answers with
-/

namespace HandleCache

variable {H : Host} {ε ε' α β : Type}

/-! ## What requests show -/

/-- What requests have shown. It is known from then on, whatever else is asked for. -/
structure Finding (H : Host) where
  shown : List (Event H) → Prop
  kept : ∀ {es fs : List (Event H)}, es.Sublist fs → shown es → shown fs

namespace Finding

/-- Both findings. -/
def and (F G : Finding H) : Finding H where
  shown es := F.shown es ∧ G.shown es
  kept within known := ⟨F.kept within known.1, G.kept within known.2⟩

/-- Nothing was found out. -/
def none : Finding H := ⟨fun _ => True, fun _ known => known⟩

/-- This was asked and answered. -/
def told (e : Event H) : Finding H where
  shown es := e ∈ es
  kept within known := within.subset known

/-- The object was said not to be null. -/
def present (o : H.Object) : Finding H := told (.isNull o false)

/-- There are as many arguments as parameters, and each was said to fit. -/
def fits (ts : List TypeDescriptor) (args : List H.Argument) : Finding H where
  shown es := List.Forall₂ (fun t a => .accepts t a true ∈ es) ts args
  kept within known := known.imp fun _ _ told => within.subset told

/-- The reference was obtained. -/
def obtained (c : H.ClassRef) : Finding H where
  shown es := ∃ e ∈ es, e.touch = .obtains c
  kept within known := known.imp fun _ told => ⟨within.subset told.1, told.2⟩

/-- Whether the object is an instance of a class was told, by a reference obtained before. -/
def tested (o : H.Object) (answer : Bool) : Finding H where
  shown es := ∃ c e, e.touch = .obtains c ∧ [e, .isInstance o c (.ok answer)].Sublist es
  kept within known := known.imp fun _ => Exists.imp fun _ told => ⟨told.1, told.2.trans within⟩

/-- The object was said to be an instance of the class. -/
def ofClass (o : H.Object) : Finding H := tested o true

end Finding

/-! ## Licences -/

/-- When the resolution of a declaration made the requests `rs`, the operation of this name was
looked up in its turn, and the handle is the answer. -/
def Stands (d : Declaration) (rs : List (Event H)) (name : String) (handle : Handle H.recorded) :
    Prop :=
  ∃ i op c e, d.operations[i]? = some op ∧ d.operation? name = some op ∧
    rs[0]? = some (.findClass d.className (.ok c)) ∧ rs[i + 1]? = some e ∧ handle.Looked c op e

/-- The call is the one that was asked for, through the handle that stands for the operation, and
the requests `before` it have shown that it may be made. Only a trusted instance was not tested. -/
inductive Licensed (d : Declaration) (rs : List (Event H)) :
    Ask H.recorded → (before : List (Event H)) → Event H → Prop where
  | call {trusted : Bool} {name : String} {o : H.Object} {args : List H.Argument}
      {id : H.MethodId} {t : MethodDescriptor} {before : List (Event H)}
      {a : Except H.Failure H.Value} :
      Stands d rs name (.method id t) → (Finding.fits t.parameters args).shown before →
      (Finding.present o).shown before →
      (trusted = false → (Finding.ofClass o).shown before) →
      Licensed d rs (.call trusted name o args) before (.callMethod o id t args a)
  | callStatic {name : String} {c : H.ClassRef} {args : List H.Argument}
      {id : H.StaticMethodId} {t : MethodDescriptor} {before : List (Event H)}
      {a : Except H.Failure H.Value} :
      Stands d rs name (.staticMethod id t) → (Finding.fits t.parameters args).shown before →
      (Finding.obtained c).shown before →
      Licensed d rs (.callStatic name args) before (.callStatic c id t args a)
  | create {name : String} {c : H.ClassRef} {args : List H.Argument}
      {id : H.MethodId} {t : MethodDescriptor} {before : List (Event H)}
      {a : Except H.Failure H.Object} :
      Stands d rs name (.constructor id t) → (Finding.fits t.parameters args).shown before →
      (Finding.obtained c).shown before →
      Licensed d rs (.create name args) before (.newObject c id t args a)
  | read {trusted : Bool} {name : String} {o : H.Object} {id : H.FieldId} {t : FieldDescriptor}
      {before : List (Event H)} {a : Except H.Failure H.Value} :
      Stands d rs name (.field id t) → (Finding.present o).shown before →
      (trusted = false → (Finding.ofClass o).shown before) →
      Licensed d rs (.read trusted name o) before (.readField o id t a)
  | readStatic {name : String} {c : H.ClassRef} {id : H.StaticFieldId} {t : FieldDescriptor}
      {before : List (Event H)} {a : Except H.Failure H.Value} :
      Stands d rs name (.staticField id t) → (Finding.obtained c).shown before →
      Licensed d rs (.readStatic name) before (.readStatic c id t a)

/-- Whether a request calls a member or reads a field. -/
def Event.isCall : Event H → Bool
  | .callMethod .. | .callStatic .. | .newObject .. | .readField .. | .readStatic .. => true
  | _ => false

/-- One call at most, where `L` allows it. -/
abbrev Lawful (L : List (Event H) → Event H → Prop) : List (Event H) → Prop :=
  CallsOnce Event.isCall L

/-! ## Checks -/

/-- No call was made, and this is known. -/
def Checked (F : Finding H) (es : List (Event H)) : Prop := Quiet Event.isCall es ∧ F.shown es

theorem Checked.imp {F G : Finding H} {es : List (Event H)} (h : Checked F es)
    (weaker : F.shown es → G.shown es) : Checked G es :=
  ⟨h.1, weaker h.2⟩

section

variable {L : List (Event H) → Event H → Prop} {K : Finding H}

/-- What was told by a request that is no call is known from then on, beside what was known. -/
theorem Checked.concat {es : List (Event H)} {e : Event H} (h : Checked K es)
    (he : e.isCall = false) : Checked (K.and (.told e)) (es ++ [e]) :=
  ⟨h.1.concat he, K.kept (List.sublist_append_left es [e]) h.2,
    List.mem_append_right es List.mem_cons_self⟩

theorem ensures_question {y : H.State → α × H.State} {event : α → Event H}
    {E : List (Event H) → Prop} (quiet : ∀ v, (event v).isCall = false) :
    Ensures (Checked K)
      (Action.query (Host.Record.question y event) : Action (Host.Record H) ε α)
      (fun v => Checked (K.and (.told (event v)))) E :=
  .question fun v _ known => known.concat (quiet v)

theorem ensures_request {y : Action H.State H.Failure α} {event : Except H.Failure α → Event H}
    {g : H.Failure → ε} (quiet : ∀ a, (event a).isCall = false) :
    Ensures (Checked K) (Action.mapError g (Host.Record.request y event))
      (fun v => Checked (K.and (.told (event (.ok v))))) (Lawful L) :=
  .mapError (.request (fun v _ known => known.concat (quiet (.ok v)))
    fun e _ known => .none (known.1.concat (quiet (.error e))))

/-- A call that is licensed by what is known. -/
theorem ensures_call {y : Action H.State H.Failure α} {event : Except H.Failure α → Event H}
    {g : H.Failure → ε} (licensed : ∀ a es, K.shown es → L es (event a)) :
    Ensures (Checked K) (Action.mapError g (Host.Record.request y event))
      (fun _ => Lawful L) (Lawful L) := by
  have calls : ∀ a es, Checked K es → Lawful L (es ++ [event a]) := fun a es known =>
    .call known.1 (licensed a es known.2)
  exact .mapError (.request (fun v => calls (.ok v)) fun e => calls (.error e))

end

namespace Binding

variable (b : Binding H.recorded) {L : List (Event H) → Event H → Prop} {K : Finding H}

/-! ### The class -/

theorem ensures_lookupAgain :
    Ensures (Checked K) b.lookupAgain (fun c => Checked (K.and (.obtained c))) (Lawful L) := by
  refine .tell_bind ((ensures_request fun _ => rfl).conseq (fun _ known => known) ?_ fun _ h => h)
  exact fun c es known => known.imp fun shown => ⟨shown.1, _, shown.2, rfl⟩

theorem ensures_obtainClass :
    Ensures (Checked K) b.obtainClass (fun c => Checked (K.and (.obtained c))) (Lawful L) := by
  unfold obtainClass
  cases b.retained with
  | nothing => exact b.ensures_lookupAgain
  | pinned p =>
    refine (ensures_request fun _ => rfl).conseq (fun _ known => known) ?_ fun _ h => h
    exact fun c es known => known.imp fun shown => ⟨shown.1, _, shown.2, rfl⟩
  | weakly w =>
    refine Ensures.bind (ensures_request fun _ => rfl) fun c => ?_
    cases c with
    | some c => exact .pure fun es known => known.imp fun shown => ⟨shown.1, _, shown.2, rfl⟩
    | none =>
      exact .tell_bind (b.ensures_lookupAgain.conseq (fun es known => known.imp And.left)
        (fun _ _ h => h) fun _ h => h)

/-- A call under the class reference of a scope; the release is no call. -/
theorem ensures_withClass {use : H.ClassRef → Action (Host.Record H) (Fault H.Failure) α}
    (h : ∀ c, Ensures (Checked (K.and (.obtained c))) (use c) (fun _ => Lawful L)
      (Lawful L)) :
    Ensures (Checked K) (b.withClass use) (fun _ => Lawful L) (Lawful L) :=
  .bracket b.ensures_obtainClass fun c => (h c).conseq (fun _ known => known)
    (fun _ _ calls => calls.concat rfl) fun _ calls => calls.concat rfl

/-! ### The checks of a call -/

theorem ensures_requirePresent (op : Operation) (o : H.Object) :
    Ensures (Checked K) (b.requirePresent op o) (fun _ => Checked (K.and (.present o)))
      (Lawful L) := by
  refine Ensures.bind (ensures_question fun _ => rfl) fun missing => ?_
  cases missing with
  | true => exact .fail fun _ known => .none known.1
  | false => exact .pure fun _ known => known

theorem ensures_requireEach (op : Operation) (index : Nat) {ts : List TypeDescriptor}
    {args : List H.Argument} (same : ts.length = args.length) :
    Ensures (Checked K) (b.requireEach op index ts args) (fun _ => Checked (K.and (.fits ts args)))
      (Lawful L) := by
  -- Each answer is added to what is known, so the induction is for whatever is known in front.
  induction ts generalizing index args K with
  | nil =>
    cases args with
    | nil => exact .pure fun _ known => known.imp fun shown => ⟨shown, .nil⟩
    | cons arg rest => cases same
  | cons t ts ih =>
    cases args with
    | nil => cases same
    | cons arg rest =>
      refine Ensures.bind (ensures_question fun _ => rfl) fun fits => ?_
      cases fits with
      | false => exact .fail fun _ known => .none known.1
      | true =>
        refine (ih (index + 1) (Nat.succ.inj same)).conseq (fun _ known => known) ?_ fun _ h => h
        exact fun _ es known => known.imp fun shown => ⟨shown.1.1, .cons shown.1.2 shown.2⟩

theorem ensures_requireArguments (op : Operation) (d : MethodDescriptor) (args : List H.Argument) :
    Ensures (Checked K) (b.requireArguments op d args)
      (fun _ => Checked (K.and (.fits d.parameters args))) (Lawful L) := by
  unfold requireArguments
  split
  · next same => exact b.ensures_requireEach op 0 same
  · exact .fail fun _ known => .none known.1

/-- The test is made with the reference of a scope of its own, obtained for this call. -/
theorem ensures_requireInstance (o : H.Object) :
    Ensures (Checked K) (b.requireInstance o) (fun _ => Checked (K.and (.ofClass o)))
      (Lawful L) := by
  refine Ensures.bind (F := fun answer => Checked (K.and (.tested o answer)))
    (.bracket b.ensures_obtainClass fun c => ?_) fun answer => ?_
  -- The reference was obtained before the test, and its release comes behind both.
  · refine .mapError (.request ?_ fun e es known => .none ?_)
    · rintro answer es ⟨quiet, known, e, asked, obtained⟩
      have test :
          [e, .isInstance o c (.ok answer)].Sublist (es ++ [.isInstance o c (.ok answer)]) :=
        (List.singleton_sublist.mpr asked).append (List.Sublist.refl _)
      refine ⟨(quiet.concat rfl).concat rfl, ?_, c, e, obtained, ?_⟩
      · rw [List.append_assoc]
        exact K.kept (List.sublist_append_left es _) known
      · exact test.trans (List.sublist_append_left _ _)
    · exact (known.1.concat rfl).concat rfl
  · cases answer with
    | true => exact .pure fun _ known => known
    | false => exact .fail fun _ known => .none known.1

end Binding

/-! ## Rows -/

section

variable {d : Declaration} {b : Binding H.recorded} {rs : List (Event H)} {name : String}

/-- The row of an operation holds what its own look-up answered. -/
theorem Established.stands (h : Established d b rs) {r : ResolvedOperation H.recorded}
    (found : b.find? name = some r) : Stands d rs name r.handle := by
  obtain ⟨c, _, ⟨lookups, rfl, all⟩, more, rfl⟩ := h.looked
  obtain ⟨same, looked⟩ := List.forall₂_iff_get.mp all
  obtain ⟨i, hi, rfl⟩ := List.mem_iff_getElem.mp (Binding.mem_of_find? found).1
  have hi' : i < lookups.length := same ▸ hi
  refine ⟨i, b.resolved[i].operation, c, lookups[i], ?_, ?_, rfl, ?_, looked i hi hi'⟩
  · rw [← h.declared]
    simp [Binding.operations, hi]
  · rw [← Binding.map_find? h.declared h.distinct, found]
    rfl
  · rw [List.cons_append, List.getElem?_cons_succ, List.getElem?_append_left hi',
      List.getElem?_eq_getElem hi']

/-- The handle that an answer was made from, if only one row answers so. -/
theorem Established.stands_of_bind (h : Established d b rs) {handle : Handle H.recorded}
    {k : ResolvedOperation H.recorded → Except (Fault H.Failure) α} {v : α}
    (named : (b.operation name >>= k) = .ok v) (only : ∀ r, k r = .ok v → r.handle = handle) :
    Stands d rs name handle := by
  unfold Binding.operation at named
  cases found : b.find? name with
  | none =>
    rw [found] at named
    cases named
  | some r =>
    rw [found] at named
    exact only r named ▸ h.stands found

theorem Established.stands_method (h : Established d b rs) {op : Operation} {id : H.MethodId}
    {t : MethodDescriptor} (named : b.methodNamed name = .ok (op, id, t)) :
    Stands d rs name (.method id t) := by
  refine h.stands_of_bind named fun r chosen => ?_
  cases hr : r.handle <;> rw [hr] at chosen <;> cases chosen
  rfl

theorem Established.stands_staticMethod (h : Established d b rs) {op : Operation}
    {id : H.StaticMethodId} {t : MethodDescriptor}
    (named : b.staticMethodNamed name = .ok (op, id, t)) :
    Stands d rs name (.staticMethod id t) := by
  refine h.stands_of_bind named fun r chosen => ?_
  cases hr : r.handle <;> rw [hr] at chosen <;> cases chosen
  rfl

theorem Established.stands_constructor (h : Established d b rs) {op : Operation} {id : H.MethodId}
    {t : MethodDescriptor} (named : b.constructorNamed name = .ok (op, id, t)) :
    Stands d rs name (.constructor id t) := by
  refine h.stands_of_bind named fun r chosen => ?_
  cases hr : r.handle <;> rw [hr] at chosen <;> cases chosen
  rfl

theorem Established.stands_field (h : Established d b rs) {op : Operation} {id : H.FieldId}
    {t : FieldDescriptor} (named : b.fieldNamed name = .ok (op, id, t)) :
    Stands d rs name (.field id t) := by
  refine h.stands_of_bind named fun r chosen => ?_
  cases hr : r.handle <;> rw [hr] at chosen <;> cases chosen
  rfl

theorem Established.stands_staticField (h : Established d b rs) {op : Operation}
    {id : H.StaticFieldId} {t : FieldDescriptor}
    (named : b.staticFieldNamed name = .ok (op, id, t)) :
    Stands d rs name (.staticField id t) := by
  refine h.stands_of_bind named fun r chosen => ?_
  cases hr : r.handle <;> rw [hr] at chosen <;> cases chosen
  rfl

end

/-! ## Requests to bindings -/

/-- A binding whose table is established makes one call at most when it is asked for something, and
the call is licensed by the resolution and by the checks before it. -/
theorem Binding.ensures_answer {d : Declaration} {b : Binding H.recorded} {rs : List (Event H)}
    (h : Established d b rs) (ask : Ask H.recorded) :
    Ensures (Checked Finding.none) (b.answer ask) (fun _ => Lawful (Licensed d rs ask))
      (Lawful (Licensed d rs ask)) := by
  -- A request stops at the first check that fails, so each call is made with all of them behind it.
  match ask with
  | .call true name o args =>
    refine .ofExcept_reply (fun (op, id, t) named => ?_) fun _ known => .none known.1
    refine (b.ensures_requirePresent op o).bind fun _ => ?_
    refine (b.ensures_requireArguments op t args).bind fun _ => ensures_call fun a es shown => ?_
    obtain ⟨⟨-, present⟩, fits⟩ := shown
    exact .call (h.stands_method named) fits present nofun
  | .call false name o args =>
    refine .ofExcept_reply (fun (op, id, t) named => ?_) fun _ known => .none known.1
    refine (b.ensures_requirePresent op o).bind fun _ => ?_
    refine (b.ensures_requireArguments op t args).bind fun _ => ?_
    refine (b.ensures_requireInstance o).bind fun _ => ensures_call fun a es shown => ?_
    obtain ⟨⟨⟨-, present⟩, fits⟩, ofClass⟩ := shown
    exact .call (h.stands_method named) fits present fun _ => ofClass
  | .callStatic name args =>
    refine .ofExcept_reply (fun (op, id, t) named => ?_) fun _ known => .none known.1
    refine (b.ensures_requireArguments op t args).bind fun _ => ?_
    refine b.ensures_withClass fun c => ensures_call fun a es shown => ?_
    obtain ⟨⟨-, fits⟩, obtained⟩ := shown
    exact .callStatic (h.stands_staticMethod named) fits obtained
  | .create name args =>
    refine .ofExcept_reply (fun (op, id, t) named => ?_) fun _ known => .none known.1
    refine (b.ensures_requireArguments op t args).bind fun _ => ?_
    refine b.ensures_withClass fun c => ensures_call fun a es shown => ?_
    obtain ⟨⟨-, fits⟩, obtained⟩ := shown
    exact .create (h.stands_constructor named) fits obtained
  | .read true name o =>
    refine .ofExcept_reply (fun (op, id, t) named => ?_) fun _ known => .none known.1
    refine (b.ensures_requirePresent op o).bind fun _ => ensures_call fun a es shown => ?_
    exact .read (h.stands_field named) shown.2 nofun
  | .read false name o =>
    refine .ofExcept_reply (fun (op, id, t) named => ?_) fun _ known => .none known.1
    refine (b.ensures_requirePresent op o).bind fun _ => ?_
    refine (b.ensures_requireInstance o).bind fun _ => ensures_call fun a es shown => ?_
    obtain ⟨⟨-, present⟩, ofClass⟩ := shown
    exact .read (h.stands_field named) present fun _ => ofClass
  | .readStatic name =>
    refine .ofExcept_reply (fun (op, id, t) named => ?_) fun _ known => .none known.1
    refine b.ensures_withClass fun c => ensures_call fun a es shown => ?_
    exact .readStatic (h.stands_staticField named) shown.2
  | .acquire => exact b.ensures_withClass fun c => .pure fun _ known => .none known.1

/-- On every host: a binding that a resolution answered with makes one call at most for each
request to it, the one that was asked for, and whatever the host may take for granted of it is known
from the requests of the resolution and from those made for the call itself. -/
theorem licensed_calls (H : Host) {d : Declaration} {r₀ r₁ : Host.Record H}
    {b : Binding H.recorded} (resolved : Binding.resolve H.recorded d r₀ = (.ok b, r₁)) :
    ∃ rs, r₁.events = r₀.events ++ rs ∧
      ∀ ask, Trail (b.answer ask) fun es _ => CallsOnce Event.isCall (Licensed d rs ask) es := by
  have held := established_resolve d r₀ r₀ ⟨[], (List.append_nil _).symm, rfl⟩
  rw [resolved] at held
  obtain ⟨rs, events, established⟩ := held
  refine ⟨rs, events, fun ask => ?_⟩
  exact (Binding.ensures_answer established ask).trail ⟨nofun, trivial⟩ (fun _ _ calls => calls)
    fun _ _ calls => calls

/-- A field of an object that is there. -/
theorem licensed_calls_point : ∃ b r₁ rs,
    Binding.resolve Counting.host.recorded ⟨"test/Point", [.field "x" "x" "I"], .drop⟩
      ⟨{ objects := [⟨1, 7⟩] }, []⟩ = (.ok b, r₁) ∧
    (b.answer (.read false "x" (some 0)) r₁).1 = .ok (.value (.int 7)) ∧
    r₁.events = rs ∧
    ∀ ask, Trail (b.answer ask) fun es _ =>
      CallsOnce Event.isCall (Licensed ⟨"test/Point", [.field "x" "x" "I"], .drop⟩ rs ask) es := by
  have resolved : Binding.resolve Counting.host.recorded
      ⟨"test/Point", [.field "x" "x" "I"], .drop⟩ ⟨{ objects := [⟨1, 7⟩] }, []⟩ = (.ok _, _) := rfl
  obtain ⟨rs, events, calls⟩ := licensed_calls Counting.host resolved
  exact ⟨_, _, rs, resolved, rfl, events, calls⟩

end HandleCache

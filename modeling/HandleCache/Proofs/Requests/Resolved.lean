import HandleCache.Proofs.Requests.Ladder
import Mathlib.Data.List.Nodup

/-!
# The table is the declaration

There are two ways to find an operation by its logical name: a declaration is searched from the
front, and the index of a table tells the place of each name that was entered as the rows came in.
Both lead to the same operation, since a declaration in which a name occurs twice is refused. So
whatever is asked for under a name goes through the handle that the host gave out for this very
operation.

## Contents

- `Ids`, `Binding.ids`: what the accessors of the handles answer
- `Picks`, `Binding.picks`: what the requests of each kind find
- `Binding.Serves`, `Binding.Lacks`: what is had under a name, or not

## Main statements

- `Stands.unique`: one handle stands for an operation
- `resolved_as_declared`: the table of a resolution is its declaration
-/

namespace HandleCache

variable {H : Host}

/-! ## Names -/

/-- Where names are distinct, an operation stands at one place. -/
theorem eq_of_nodup_names {ops : List Operation} (distinct : (ops.map (·.name)).Nodup)
    {i j : Nat} {op : Operation} (hi : ops[i]? = some op) (hj : ops[j]? = some op) : i = j := by
  obtain ⟨inside, -⟩ := List.getElem?_eq_some_iff.mp hi
  apply (List.getElem?_inj inside (List.Nodup.of_map _ distinct)).mp
  rw [hi, hj]

/-! ## Accessors -/

/-- What the four accessors of handles answer. -/
structure Ids (H : Host) where
  /-- For instance methods and constructors. -/
  methodId : Except (Fault H.Failure) H.MethodId
  staticMethodId : Except (Fault H.Failure) H.StaticMethodId
  fieldId : Except (Fault H.Failure) H.FieldId
  staticFieldId : Except (Fault H.Failure) H.StaticFieldId

/-- What the accessors of a binding answer for a name. -/
def Binding.ids (b : Binding H) (name : String) : Ids H :=
  ⟨b.methodId name, b.staticMethodId name, b.fieldId name, b.staticFieldId name⟩

/-- Every accessor is refused, with a fault that may tell the kind that was asked for. -/
def Ids.refused (fault : OperationKind → Fault H.Failure) : Ids H where
  methodId := .error (fault .method)
  staticMethodId := .error (fault .staticMethod)
  fieldId := .error (fault .field)
  staticFieldId := .error (fault .staticField)

/-- The one accessor that is for a handle answers with it, and the other three are refused. -/
def Handle.ids (fault : OperationKind → Fault H.Failure) : Handle H → Ids H
  | .constructor id _ | .method id _ => { Ids.refused fault with methodId := .ok id }
  | .staticMethod id _ => { Ids.refused fault with staticMethodId := .ok id }
  | .field id _ => { Ids.refused fault with fieldId := .ok id }
  | .staticField id _ => { Ids.refused fault with staticFieldId := .ok id }

/-! ## Requests -/

/-- What the requests of the five kinds find: the operation, its handle and its descriptor. -/
structure Picks (H : Host) where
  method : Except (Fault H.Failure) (Operation × H.MethodId × MethodDescriptor)
  field : Except (Fault H.Failure) (Operation × H.FieldId × FieldDescriptor)
  staticMethod : Except (Fault H.Failure) (Operation × H.StaticMethodId × MethodDescriptor)
  constructor : Except (Fault H.Failure) (Operation × H.MethodId × MethodDescriptor)
  staticField : Except (Fault H.Failure) (Operation × H.StaticFieldId × FieldDescriptor)

/-- What the requests to a binding find under a name. -/
def Binding.picks (b : Binding H) (name : String) : Picks H where
  method := b.methodNamed name
  field := b.fieldNamed name
  staticMethod := b.staticMethodNamed name
  constructor := b.constructorNamed name
  staticField := b.staticFieldNamed name

/-- Requests of every kind are refused, with a fault that may tell the kind that was asked for. -/
def Picks.refused (fault : OperationKind → Fault H.Failure) : Picks H where
  method := .error (fault .method)
  field := .error (fault .field)
  staticMethod := .error (fault .staticMethod)
  constructor := .error (fault .constructor)
  staticField := .error (fault .staticField)

/-- Requests of the kind of a handle find it with its operation, and those of the other kinds are
refused. -/
def Handle.picks (op : Operation) (fault : OperationKind → Fault H.Failure) : Handle H → Picks H
  | .constructor id t => { Picks.refused fault with constructor := .ok (op, id, t) }
  | .method id t => { Picks.refused fault with method := .ok (op, id, t) }
  | .staticMethod id t => { Picks.refused fault with staticMethod := .ok (op, id, t) }
  | .field id t => { Picks.refused fault with field := .ok (op, id, t) }
  | .staticField id t => { Picks.refused fault with staticField := .ok (op, id, t) }

/-- The operation that a request names. -/
def Ask.name? : Ask H → Option String
  | call _ name _ _ | callStatic name _ | create name _ | read _ name _ | readStatic name =>
    some name
  | acquire => none

/-- The call is made through the handle, under the descriptor that the handle has. -/
inductive Handle.Called : Handle H.recorded → Event H → Prop where
  | constructor {c : H.ClassRef} {id : H.MethodId} {t : MethodDescriptor}
      {args : List H.Argument} {a : Except H.Failure H.Object} :
      Called (.constructor id t) (.newObject c id t args a)
  | method {o : H.Object} {id : H.MethodId} {t : MethodDescriptor} {args : List H.Argument}
      {a : Except H.Failure H.Value} : Called (.method id t) (.callMethod o id t args a)
  | staticMethod {c : H.ClassRef} {id : H.StaticMethodId} {t : MethodDescriptor}
      {args : List H.Argument} {a : Except H.Failure H.Value} :
      Called (.staticMethod id t) (.callStatic c id t args a)
  | field {o : H.Object} {id : H.FieldId} {t : FieldDescriptor} {a : Except H.Failure H.Value} :
      Called (.field id t) (.readField o id t a)
  | staticField {c : H.ClassRef} {id : H.StaticFieldId} {t : FieldDescriptor}
      {a : Except H.Failure H.Value} : Called (.staticField id t) (.readStatic c id t a)

namespace Binding

/-- Nothing is had under the name: the index does not have it, and whatever is asked for under it is
refused as unknown, without a request to the host. -/
structure Lacks (b : Binding H.recorded) (name : String) : Prop where
  index : b.index.place? name = none
  ids : b.ids name = .refused fun _ => .unknownOperation b.className name
  picks : b.picks name = .refused fun _ => .unknownOperation b.className name
  answer : ∀ ask : Ask H.recorded, ask.name? = some name → ∀ r : Host.Record H,
    b.answer ask r = (.error (.unknownOperation b.className name), r)

/-- What is had under the name of an operation is its handle: the accessor and the requests that are
for its kind find it, the others are refused with both kinds told, and whatever is asked for under
the name calls through this handle or calls nothing. -/
structure Serves (b : Binding H.recorded) (op : Operation) (handle : Handle H.recorded) :
    Prop where
  ids : b.ids op.name = handle.ids fun expected => .wrongKind b.className op.name expected op.kind
  picks : b.picks op.name =
    handle.picks op fun expected => .wrongKind b.className op.name expected op.kind
  calls : ∀ ask : Ask H.recorded, ask.name? = some op.name →
    Trail (b.answer ask) fun es _ => EachCall Event.isCall handle.Called es

section

variable {b : Binding H} {name : String}

theorem ids_of_find? {r : ResolvedOperation H} (found : b.find? name = some r) :
    b.ids name = r.handle.ids (b.kindFault r) := by
  obtain ⟨op, handle⟩ := r
  simp only [ids, methodId, staticMethodId, fieldId, staticFieldId, operation, found]
  cases handle <;> rfl

theorem ids_of_missing (missing : b.find? name = none) :
    b.ids name = .refused fun _ => .unknownOperation b.className name := by
  simp only [ids, methodId, staticMethodId, fieldId, staticFieldId, operation, missing]
  rfl

theorem picks_of_find? {r : ResolvedOperation H} (found : b.find? name = some r) :
    b.picks name = r.handle.picks r.operation (b.kindFault r) := by
  obtain ⟨op, handle⟩ := r
  simp only [picks, methodNamed, fieldNamed, staticMethodNamed, constructorNamed,
    staticFieldNamed, operation, found]
  cases handle <;> rfl

theorem picks_of_missing (missing : b.find? name = none) :
    b.picks name = .refused fun _ => .unknownOperation b.className name := by
  simp only [picks, methodNamed, fieldNamed, staticMethodNamed, constructorNamed,
    staticFieldNamed, operation, missing]
  rfl

/-- A request that finds no operation makes no request to the host. -/
theorem answer_of_missing (missing : b.find? name = none) {ask : Ask H}
    (asks : ask.name? = some name) (s : H.State) :
    b.answer ask s = (.error (.unknownOperation b.className name), s) := by
  have none : b.picks name = _ := picks_of_missing missing
  simp only [picks, Picks.refused, Picks.mk.injEq] at none
  obtain ⟨method, field, staticMethod, constructor, staticField⟩ := none
  cases ask with
  | call trusted =>
    cases asks
    cases trusted <;>
      simp only [answer, call, callTrusted, method, Action.bind_apply, Action.ofExcept_apply]
  | callStatic =>
    cases asks
    simp only [answer, callStatic, staticMethod, Action.bind_apply, Action.ofExcept_apply]
  | create =>
    cases asks
    simp only [answer, create, constructor, Action.bind_apply, Action.ofExcept_apply]
  | read trusted =>
    cases asks
    cases trusted <;>
      simp only [answer, read, readTrusted, field, Action.bind_apply, Action.ofExcept_apply]
  | readStatic =>
    cases asks
    simp only [answer, readStatic, staticField, Action.bind_apply, Action.ofExcept_apply]
  | acquire => cases asks

end

end Binding

/-! ## Handles -/

/-- One look-up leads to one handle. -/
theorem Handle.Looked.unique {c : H.ClassRef} {op : Operation} {handle other : Handle H.recorded}
    {e : Event H} (h : handle.Looked c op e) (h' : other.Looked c op e) : handle = other := by
  cases h with
  | constructor kind parsed | method kind parsed | staticMethod kind parsed | field kind parsed
  | staticField kind parsed => cases h' <;> simp_all

section

variable {d : Declaration} {rs : List (Event H)} {name : String} {handle : Handle H.recorded}

/-- Where names are distinct, one handle stands for an operation. -/
theorem Stands.unique {other : Handle H.recorded}
    (distinct : (d.operations.map (·.name)).Nodup) (h : Stands d rs name handle)
    (h' : Stands d rs name other) : handle = other := by
  obtain ⟨i, op, c, e, at_i, named, found, asked, looked⟩ := h
  obtain ⟨j, op', c', e', at_j, named', found', asked', looked'⟩ := h'
  obtain rfl : op = op' := Option.some.inj (named.symm.trans named')
  obtain rfl : i = j := eq_of_nodup_names distinct at_i at_j
  obtain rfl : e = e' := Option.some.inj (asked.symm.trans asked')
  have same : Event.findClass (H := H) d.className (.ok c) = .findClass d.className (.ok c') :=
    Option.some.inj (found.symm.trans found')
  obtain rfl : c = c' := by simpa using same
  exact looked.unique looked'

/-- The call is made through a handle that stands for the operation that was asked for. -/
abbrev Through (d : Declaration) (rs : List (Event H)) (ask : Ask H.recorded) (e : Event H) : Prop :=
  ∃ name handle, ask.name? = some name ∧ Stands d rs name handle ∧ handle.Called e

theorem Use.through {ask : Ask H.recorded} {scope : Option H.ClassRef} {es : List (Event H)}
    {a : Except (Fault H.Failure) (Reply H.recorded)} (h : Use d rs ask scope es a) :
    EachCall Event.isCall (Through d rs ask) es := by
  cases h with
  | call stands => simpa [EachCall] using fun _ => ⟨_, _, rfl, stands, .method⟩
  | read stands => simpa [EachCall] using fun _ => ⟨_, _, rfl, stands, .field⟩
  | callStatic stands => simpa [EachCall] using fun _ => ⟨_, _, rfl, stands, .staticMethod⟩
  | create stands => simpa [EachCall] using fun _ => ⟨_, _, rfl, stands, .constructor⟩
  | readStatic stands => simpa [EachCall] using fun _ => ⟨_, _, rfl, stands, .staticField⟩
  | acquire => exact Quiet.nil.eachCall

theorem Summit.through {b : Binding H.recorded} {ask : Ask H.recorded} {es : List (Event H)}
    {a : Except (Fault H.Failure) (Reply H.recorded)} (h : Summit d rs b ask es a) :
    EachCall Event.isCall (Through d rs ask) es := by
  cases h with
  | direct used => exact used.through
  | under obtained used => exact (obtained.quiet.eachCall.append used.through).concat rfl
  | unobtained _ obtained => exact obtained.quiet.eachCall

/-- The calls of a climb are those at its top. -/
theorem Climb.eachCall {α : Type} {b : Binding H.recorded}
    {top : List (Event H) → Except (Fault H.Failure) α → Prop} {rungs : List (Rung H.recorded)}
    {P : Event H → Prop} {es : List (Event H)} {a : Except (Fault H.Failure) α}
    (h : Climb d b top rungs es a) (calls : ∀ es a, top es a → EachCall Event.isCall P es) :
    EachCall Event.isCall P es := by
  induction h with
  | top held => exact calls _ _ held
  | stop comes => exact comes.quiet.eachCall
  | next comes _ ih => exact comes.quiet.eachCall.append ih

end

/-! ## Tables -/

namespace Issued

variable {d : Declaration} {rs : List (Event H)} {b : Binding H.recorded} {name : String}
  (issued : Issued d rs b)
include issued

theorem find?_eq_none_iff : b.find? name = none ↔ d.operation? name = none := by
  rw [issued.operation?_eq, Option.map_eq_none_iff]

theorem contains_eq : b.contains name = (d.operation? name).isSome := by
  rw [issued.operation?_eq, Option.isSome_map, Binding.isSome_find?]

theorem lacks (undeclared : d.operation? name = none) : b.Lacks name := by
  have missing : b.find? name = none := issued.find?_eq_none_iff.mpr undeclared
  apply Binding.Lacks.mk
  · rw [← Option.isNone_iff_eq_none, ← Option.not_isSome, ← Binding.contains, issued.contains_eq,
      undeclared]
    rfl
  · exact Binding.ids_of_missing missing
  · exact Binding.picks_of_missing missing
  · exact fun ask asks r => Binding.answer_of_missing missing asks r

/-- Whatever is asked for, it is called through a handle that stands for the operation. -/
theorem through_answer (ask : Ask H.recorded) :
    Trail (b.answer ask) fun es _ => EachCall Event.isCall (Through d rs ask) es :=
  (issued.climb_answer ask).imp fun _ _ climb => climb.eachCall fun _ _ held => held.through

theorem calls_through {handle : Handle H.recorded} (stands : Stands d rs name handle) {ask : Ask H.recorded} (asks : ask.name? = some name) :
    Trail (b.answer ask) fun es _ => EachCall Event.isCall handle.Called es := by
  refine (issued.through_answer ask).imp fun es a through e mem call => ?_
  obtain ⟨_, other, asks', stands', called⟩ := through e mem call
  cases asks.symm.trans asks'
  rw [stands.unique issued.distinct stands']
  exact called

theorem serves {op : Operation} {handle : Handle H.recorded} (found : b.find? op.name = some ⟨op, handle⟩) :
    b.Serves op handle := by
  have kinds : b.kindFault ⟨op, handle⟩ =
      fun expected => .wrongKind b.className op.name expected op.kind := by
    funext expected
    rw [Binding.kindFault, issued.kind_of_find? found]
  apply Binding.Serves.mk
  · rw [Binding.ids_of_find? found, kinds]
  · rw [Binding.picks_of_find? found, kinds]
  · exact fun ask asks => issued.calls_through (issued.stands found) asks

end Issued

/-- The row at a place is for the operation that is declared there, and was looked up by the request
that was made in this place. -/
theorem Established.row {d : Declaration} {b : Binding H.recorded} {rs : List (Event H)}
    (h : Established d b rs) : ∃ c lookups, rs = .findClass d.className (.ok c) :: lookups ∧
      ∀ (i : Nat) (r : ResolvedOperation H.recorded), b.resolved[i]? = some r →
        d.operations[i]? = some r.operation ∧
          ∃ e, lookups[i]? = some e ∧ r.handle.Looked c r.operation e := by
  obtain ⟨c, asked, ⟨lookups, rfl, all⟩, more, rfl⟩ := h.looked
  obtain ⟨same, looked⟩ := List.forall₂_iff_get.mp all
  refine ⟨c, lookups ++ more, rfl, fun i r at_i => ?_⟩
  obtain ⟨inside, rfl⟩ := List.getElem?_eq_some_iff.mp at_i
  have inside' : i < lookups.length := same ▸ inside
  have asked : (lookups ++ more)[i]? = some lookups[i] := by
    rw [List.getElem?_append_left inside', List.getElem?_eq_getElem inside']
  rw [← h.declared, Binding.operations, List.getElem?_map, at_i]
  exact ⟨rfl, lookups[i], asked, looked i inside inside'⟩

/-- On every host: the table of a binding that a resolution answered with is the declaration. It has
a row for each operation, in order, and finds an operation under a name exactly if the declaration
does, the same one. Under its name stands the handle that the host answered when this very operation
was looked up, with the descriptor that its signature spells. One accessor answers with it, that for
its kind, and every request under the name goes through it; the others are refused with its kind
told. Under a name that is not declared, everything is refused as unknown. -/
theorem resolved_as_declared (H : Host) {d : Declaration} {r₀ r₁ : Host.Record H}
    {b : Binding H.recorded} (resolved : Binding.resolve H.recorded d r₀ = (.ok b, r₁)) :
    b.operations = d.operations ∧ (d.operations.map (·.name)).Nodup ∧
    (∀ name, b.contains name = (d.operation? name).isSome) ∧
    (∀ name, d.operation? name = none → b.Lacks name) ∧
    ∃ c rs, r₁.events = r₀.events ++ .findClass d.className (.ok c) :: rs ∧
      ∀ name op, d.operation? name = some op → op.name = name ∧
        ∃ i handle e, d.operations[i]? = some op ∧ b.index.place? name = some i ∧
          b.resolved[i]? = some ⟨op, handle⟩ ∧
          rs[i]? = some e ∧ handle.Looked c op e ∧ b.Serves op handle := by
  obtain ⟨rs, events, issued⟩ := issued_resolve resolved
  refine ⟨issued.declared, issued.distinct, fun _ => issued.contains_eq, fun _ => issued.lacks, ?_⟩
  obtain ⟨c, lookups, rfl, rows⟩ := issued.row
  refine ⟨c, lookups, events, fun name op declared => ?_⟩
  obtain ⟨-, rfl⟩ := Declaration.mem_of_operation? declared
  rw [issued.operation?_eq, Option.map_eq_some_iff] at declared
  obtain ⟨⟨_, handle⟩, found, rfl⟩ := declared
  obtain ⟨i, told, at_i⟩ := Option.bind_eq_some_iff.mp found
  obtain ⟨declared, e, asked, looked⟩ := rows i _ at_i
  refine ⟨rfl, i, handle, e, declared, told, at_i, asked, looked, issued.serves found⟩

/-- A counter that is made in two ways, by overloads of one member name. -/
def madeTwice : Declaration where
  className := "test/Counter"
  operations := [.constructor "new" "()V", .constructor "newAt" "(I)V", .field "value" "value" "I"]

theorem plans_madeTwice : madeTwice.plans (ε := Counting.Failure) =
    .ok [(.constructor "new" "()V", .constructor ⟨[], .primitive .void⟩),
      (.constructor "newAt" "(I)V", .constructor ⟨[.primitive .int], .primitive .void⟩),
      (.field "value" "value" "I", .field ⟨.primitive .int⟩)] := by
  cbv

/-- The second constructor has the second row, with the second member of the class. -/
theorem resolved_as_declared_madeTwice : ∃ (b : Binding Counting.host.recorded) (r₁ : _),
    Binding.resolve Counting.host.recorded madeTwice ⟨{}, []⟩ = (.ok b, r₁) ∧
    b.methodId "newAt" = .ok (⟨0, 1⟩ : Counting.MemberId) ∧
    b.fieldId "newAt" = .error (.wrongKind "test/Counter" "newAt" .field .constructor) ∧
    b.operations = madeTwice.operations ∧ (madeTwice.operations.map (·.name)).Nodup ∧
    (∀ name, b.contains name = (madeTwice.operation? name).isSome) ∧
    (∀ name, madeTwice.operation? name = none → b.Lacks name) ∧
    ∃ c rs, r₁.events = [] ++ .findClass "test/Counter" (.ok c) :: rs ∧
      ∀ name op, madeTwice.operation? name = some op → op.name = name ∧
        ∃ i handle e, madeTwice.operations[i]? = some op ∧ b.index.place? name = some i ∧
          b.resolved[i]? = some ⟨op, handle⟩ ∧
          rs[i]? = some e ∧ handle.Looked c op e ∧ b.Serves op handle := by
  have resolved : Binding.resolve Counting.host.recorded madeTwice ⟨{}, []⟩ = (.ok _, _) :=
    (Progress.resolve_of_found plans_madeTwice rfl).trans rfl
  exact ⟨_, _, resolved, rfl, rfl, resolved_as_declared Counting.host resolved⟩

end HandleCache

import HandleCache.Host.Recorded
import HandleCache.Proofs.Requests.Meets

/-!
# Requests that an action makes

On a recorded host the requests of an action are a list, and what can be said of an action for
every host is said of this list and of the answer. The list of an action that is put together from
others is put together from their lists.

## Contents

- `Trail`: what the requests of an action and its answer always are
- `Host.Record.Since`: what holds of the requests since a record
- `Ensures`: what requests lead to, from what holds of those before

## Main statements

- `Trail.bind`, `Trail.bracket`: the requests of the parts, one after the other
- `Ensures.bracket`: what a scope leads to counts with its reference given back
- `Ensures.trail`: what an action ensures from its beginning is true of its requests
-/

namespace HandleCache

variable {H : Host} {ε ε' α β : Type}

/-- Wherever an action begins, the requests that it makes and its answer stand in this relation. -/
def Trail (x : Action (Host.Record H) ε α) (P : List (Event H) → Except ε α → Prop) : Prop :=
  ∀ r, ∃ es, (x r).2.events = r.events ++ es ∧ P es (x r).1

namespace Trail

variable {x : Action (Host.Record H) ε α} {f : α → Action (Host.Record H) ε β}
  {P : List (Event H) → Except ε α → Prop} {Q : List (Event H) → Except ε β → Prop}

theorem imp {P' : List (Event H) → Except ε α → Prop} (h : Trail x P)
    (weaker : ∀ es a, P es a → P' es a) : Trail x P' := by
  intro r
  obtain ⟨es, events, held⟩ := h r
  exact ⟨es, events, weaker es _ held⟩

/-- No request was made yet, and none is made by what is known already. -/
theorem known {a : Except ε α} {s : Host.Record H} (h : P [] a) :
    ∃ es, s.events = s.events ++ es ∧ P es a :=
  ⟨[], (List.append_nil _).symm, h⟩

theorem pure {v : α} (h : P [] (.ok v)) : Trail (Pure.pure v : Action (Host.Record H) ε α) P :=
  fun _ => known h

theorem request {y : Action H.State H.Failure α} {event : Except H.Failure α → Event H}
    {P : List (Event H) → Except H.Failure α → Prop} (h : ∀ a, P [event a] a) :
    Trail (Host.Record.request y event) P :=
  fun r => ⟨[event (y r.state).1], rfl, h _⟩

theorem mapError {g : ε → ε'} {P : List (Event H) → Except ε' α → Prop}
    (h : Trail x fun es a => P es (a.mapError g)) : Trail (Action.mapError g x) P := by
  intro r
  obtain ⟨es, events, held⟩ := h r
  unfold Action.mapError
  cases hx : x r with
  | mk a t =>
    rw [hx] at events held
    cases a with
    | ok v => exact ⟨es, events, held⟩
    | error e => exact ⟨es, events, held⟩

/-- The requests of the second part come behind those of the first, if that answers. -/
theorem bind (hx : Trail x P)
    (answers : ∀ v es, P es (.ok v) → Trail (f v) fun fs a => Q (es ++ fs) a)
    (stops : ∀ e es, P es (.error e) → Q es (.error e)) : Trail (x >>= f) Q := by
  intro r
  obtain ⟨es, events, held⟩ := hx r
  cases ha : x r with
  | mk a t =>
    rw [ha] at events held
    cases a with
    | ok v =>
      obtain ⟨fs, more, held'⟩ := answers v es held t
      rw [Action.bind_of_ok ha]
      exact ⟨es ++ fs, by rw [more, events, List.append_assoc], held'⟩
    | error e =>
      rw [Action.bind_of_error ha]
      exact ⟨es, events, stops e es held⟩

/-- A request whose failure is told in other words. -/
theorem asked {y : Action H.State H.Failure α} {event : Except H.Failure α → Event H}
    {told : H.Failure → ε} : Trail (Action.mapError told (Host.Record.request y event)) fun es a =>
      ∃ b : Except H.Failure α, es = [event b] ∧ a = b.mapError told :=
  mapError (request fun b => ⟨b, rfl, rfl⟩)

/-- A request comes in front of what is done with its answer, and is the last if it fails. -/
theorem request_bind {y : Action H.State H.Failure α} {event : Except H.Failure α → Event H}
    {told : H.Failure → ε} (answers : ∀ v, Trail (f v) fun es a => Q (event (.ok v) :: es) a)
    (stops : ∀ cause, Q [event (.error cause)] (.error (told cause))) :
    Trail (Action.mapError told (Host.Record.request y event) >>= f) Q := by
  apply asked.bind
  · rintro v es ⟨b, rfl, answer⟩
    cases b with
    | error cause => cases answer
    | ok v' =>
      cases answer
      exact answers v
  · rintro e es ⟨b, rfl, answer⟩
    cases b with
    | error cause =>
      cases answer
      exact stops cause
    | ok v => cases answer

theorem fail {e : ε} (h : P [] (.error e)) :
    Trail (Action.fail e : Action (Host.Record H) ε α) P :=
  fun _ => known h

/-- A question comes in front of what is done with its answer. -/
theorem question_bind {y : H.State → α × H.State} {event : α → Event H}
    (answers : ∀ v, Trail (f v) fun es a => Q (event v :: es) a) :
    Trail (Action.query (Host.Record.question y event) >>= f) Q := by
  intro r
  obtain ⟨es, events, held⟩ := answers (y r.state).1 (Host.Record.question y event r).2
  exact ⟨event (y r.state).1 :: es, events.trans (List.append_assoc _ [_] es), held⟩

/-- An answer that is told in other words. -/
theorem reply {g : α → β} (h : Trail x fun es a => Q es (a.map g)) :
    Trail (x >>= fun v => Pure.pure (g v)) Q :=
  h.bind (fun v es held => .pure (by rwa [List.append_nil])) fun _ _ held => held

theorem ofExcept_bind {a : Except ε α} (answers : ∀ v, a = .ok v → Trail (f v) Q)
    (stops : ∀ e, a = .error e → Q [] (.error e)) : Trail (Action.ofExcept a >>= f) Q := by
  cases a with
  | ok v => exact answers v rfl
  | error e => exact fun _ => known (stops e rfl)

/-- What is told to the journal is no request. -/
theorem tell_bind {entry : LogEntry} {f : Unit → Action (Host.Record H) (Fault H.Failure) β}
    {Q : List (Event H) → Except (Fault H.Failure) β → Prop} (h : Trail (f ()) Q) :
    Trail (Host.tell (H := H.recorded) entry >>= f) Q :=
  fun r => h (H.recorded.note entry r)

/-- The requests of a scope stand between that for its reference and the release. -/
theorem bracket {x : Action (Host.Record H) ε H.ClassRef}
    {f : H.ClassRef → Action (Host.Record H) ε β} {P : List (Event H) → Except ε H.ClassRef → Prop}
    (hx : Trail x P)
    (answers : ∀ c es, P es (.ok c) → Trail (f c) fun fs a => Q (es ++ fs ++ [.releaseClass c]) a)
    (stops : ∀ e es, P es (.error e) → Q es (.error e)) :
    Trail (Action.bracket x (fun c => Host.Record.change (H.releaseClass c) (.releaseClass c)) f)
      Q := by
  intro r
  obtain ⟨es, events, held⟩ := hx r
  cases ha : x r with
  | mk a t =>
    rw [ha] at events held
    cases a with
    | ok c =>
      obtain ⟨fs, more, held'⟩ := answers c es held t
      rw [Action.bracket_of_ok ha]
      refine ⟨es ++ fs ++ [.releaseClass c], ?_, held'⟩
      show (f c t).2.events ++ [_] = _
      rw [more, events, List.append_assoc, List.append_assoc, List.append_assoc]
    | error e =>
      rw [Action.bracket_of_error ha]
      exact ⟨es, events, stops e es held⟩

end Trail

/-- The requests from `r` on are such that `K` holds. -/
def Host.Record.Since (r : Host.Record H) (K : List (Event H) → Prop) (t : Host.Record H) : Prop :=
  ∃ es, t.events = r.events ++ es ∧ K es

theorem Host.Record.Since.imp {r t : Host.Record H} {K K' : List (Event H) → Prop}
    (h : r.Since K t) (weaker : ∀ es, K es → K' es) : r.Since K' t := by
  obtain ⟨es, events, known⟩ := h
  exact ⟨es, events, weaker es known⟩

theorem Host.Record.Since.concat {r t : Host.Record H} {K K' : List (Event H) → Prop}
    (h : r.Since K t) {s : H.State} {e : Event H} (more : ∀ es, K es → K' (es ++ [e])) :
    r.Since K' ⟨s, t.events ++ [e]⟩ := by
  obtain ⟨es, events, known⟩ := h
  exact ⟨es ++ [e], by rw [events, List.append_assoc], more es known⟩

/-- After requests of which `K` holds, those of the action lead to requests of which `F` holds with
its answer, or `E` if it stops. -/
def Ensures (K : List (Event H) → Prop) (x : Action (Host.Record H) ε α)
    (F : α → List (Event H) → Prop) (E : List (Event H) → Prop) : Prop :=
  ∀ r : Host.Record H, Action.Meets (r.Since K) x (fun v => r.Since (F v)) fun _ => r.Since E

namespace Ensures

variable {x : Action (Host.Record H) ε α} {f : α → Action (Host.Record H) ε β}
  {K K' E E' : List (Event H) → Prop} {F F' : α → List (Event H) → Prop}
  {G : β → List (Event H) → Prop}

theorem conseq (h : Ensures K x F E) (before : ∀ es, K' es → K es)
    (answers : ∀ v es, F v es → F' v es) (stops : ∀ es, E es → E' es) : Ensures K' x F' E' := by
  intro r
  apply (h r).conseq
  · exact fun s known => known.imp before
  · exact fun v s known => known.imp (answers v)
  · exact fun e s known => known.imp stops

theorem pure {v : α} (h : ∀ es, K es → F v es) :
    Ensures K (Pure.pure v : Action (Host.Record H) ε α) F E :=
  fun _ => .pure fun _ known => known.imp h

theorem fail {e : ε} (h : ∀ es, K es → E es) :
    Ensures K (Action.fail e : Action (Host.Record H) ε α) F E :=
  fun _ => .fail fun _ known => known.imp h

theorem request {y : Action H.State H.Failure α} {event : Except H.Failure α → Event H}
    (answers : ∀ v es, K es → F v (es ++ [event (.ok v)]))
    (stops : ∀ e es, K es → E (es ++ [event (.error e)])) :
    Ensures K (Host.Record.request y event) F E := by
  intro r s known
  unfold Host.Record.request
  cases hy : y s.state with
  | mk a t =>
    cases a with
    | ok v => exact known.concat (answers v)
    | error e => exact known.concat (stops e)

theorem question {y : H.State → α × H.State} {event : α → Event H}
    (answers : ∀ v es, K es → F v (es ++ [event v])) :
    Ensures K (Action.query (Host.Record.question y event) : Action (Host.Record H) ε α) F E :=
  fun _ => .query fun _ known => known.concat (answers _)

theorem mapError {g : ε → ε'} (h : Ensures K x F E) : Ensures K (Action.mapError g x) F E :=
  fun r => (h r).mapError

theorem bind (hx : Ensures K x F E) (hf : ∀ v, Ensures (F v) (f v) G E) :
    Ensures K (x >>= f) G E :=
  fun r => (hx r).bind fun v => hf v r

theorem ofExcept_bind {a : Except ε α} (answers : ∀ v, a = .ok v → Ensures K (f v) G E)
    (stops : ∀ es, K es → E es) : Ensures K (Action.ofExcept a >>= f) G E :=
  fun r => .ofExcept_bind (fun v known => answers v known r) fun _ _ _ known => known.imp stops

theorem ofExcept_reply {γ : Type} {a : Except ε α} {g : β → γ}
    (answers : ∀ v, a = .ok v → Ensures K (f v) (fun _ => E) E) (stops : ∀ es, K es → E es) :
    Ensures K ((Action.ofExcept a >>= f) >>= fun v => Pure.pure (g v)) (fun _ => E) E :=
  fun r => .ofExcept_reply (fun v known => answers v known r) fun _ known => known.imp stops

/-- What is told to the journal is no request. -/
theorem tell_bind {entry : LogEntry} {f : Unit → Action (Host.Record H) (Fault H.Failure) β}
    (h : Ensures K (f ()) G E) : Ensures K (Host.tell (H := H.recorded) entry >>= f) G E :=
  fun r => .modify_bind (fun _ known => known) (h r)

/-- What a scope leads to counts with the reference given back. -/
theorem bracket {x : Action (Host.Record H) ε H.ClassRef}
    {f : H.ClassRef → Action (Host.Record H) ε β} {F : H.ClassRef → List (Event H) → Prop}
    (hx : Ensures K x F E)
    (hf : ∀ c, Ensures (F c) (f c) (fun v es => G v (es ++ [.releaseClass c]))
      fun es => E (es ++ [.releaseClass c])) :
    Ensures K
      (Action.bracket x (fun c => Host.Record.change (H.releaseClass c) (.releaseClass c)) f)
      G E := by
  intro r
  refine (hx r).bracket fun c => (hf c r).conseq (fun _ known => known) ?_ ?_
  · exact fun v s known => known.concat fun _ held => held
  · exact fun e s known => known.concat fun _ held => held

/-- What an action ensures from its beginning is true of its requests. -/
theorem trail {P : List (Event H) → Except ε α → Prop} (h : Ensures K x F E) (start : K [])
    (answers : ∀ v es, F v es → P es (.ok v)) (stops : ∀ e es, E es → P es (.error e)) :
    Trail x P := by
  intro r
  have held := h r r ⟨[], (List.append_nil _).symm, start⟩
  cases hx : x r with
  | mk a t =>
    rw [hx] at held
    cases a with
    | ok v =>
      obtain ⟨es, events, known⟩ := held
      exact ⟨es, events, answers v es known⟩
    | error e =>
      obtain ⟨es, events, known⟩ := held
      exact ⟨es, events, stops e es known⟩

end Ensures

end HandleCache

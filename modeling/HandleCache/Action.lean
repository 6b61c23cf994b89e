/-!
# Actions

A computation that works on a state and may stop with an error. The state it leaves counts
in either case: what was done before the error stays done.

## Contents

- `Action`: the type, with its monad
- `Action.fail`, `Action.mapError`, `Action.modify`, `Action.query`: small ways to build one
- `Action.bracket`: a resource that is given back however its use ends
-/

namespace HandleCache

/-- A computation on a state `σ` that answers an `α`, or stops with an `ε`. -/
def Action (σ ε α : Type) : Type :=
  σ → Except ε α × σ

namespace Action

variable {σ ε ε' α β : Type}

/-- Runs on a state and answers with the state left behind. -/
def run (x : Action σ ε α) (s : σ) : Except ε α × σ := x s

instance : Monad (Action σ ε) where
  pure a s := (.ok a, s)
  bind x f s :=
    match x s with
    | (.ok a, s) => f a s
    | (.error e, s) => (.error e, s)

/-- Stops with an error. -/
def fail (e : ε) : Action σ ε α := fun s => (.error e, s)

/-- Changes the state. -/
def modify (f : σ → σ) : Action σ ε Unit := fun s => (.ok (), f s)

/-- Asks a question that always has an answer. -/
def query (f : σ → α × σ) : Action σ ε α := fun s => ((.ok (f s).1), (f s).2)

/-- Answers what is known already, or stops with its error. -/
def ofExcept (r : Except ε α) : Action σ ε α := fun s => (r, s)

/-- Tells an error in other words. -/
def mapError (f : ε → ε') (x : Action σ ε α) : Action σ ε' α := fun s =>
  match x s with
  | (.ok a, s) => (.ok a, s)
  | (.error e, s) => (.error (f e), s)

/-- Uses a resource and then gives it back, whether its use succeeded or not. Nothing is given
back if there was nothing to be had. -/
def bracket (acquire : Action σ ε α) (release : α → σ → σ) (use : α → Action σ ε β) :
    Action σ ε β := fun s =>
  match acquire s with
  | (.ok a, s) => ((use a s).1, release a (use a s).2)
  | (.error e, s) => (.error e, s)

/-! ## What they do to a state -/

@[simp] theorem pure_apply (a : α) (s : σ) :
    (pure a : Action σ ε α) s = (.ok a, s) := rfl

theorem bind_apply (x : Action σ ε α) (f : α → Action σ ε β) (s : σ) :
    (x >>= f) s = match x s with
      | (.ok a, t) => f a t
      | (.error e, t) => (.error e, t) := rfl

/-- After a first part that answers, the second goes on from its state. -/
theorem bind_of_ok {x : Action σ ε α} {f : α → Action σ ε β} {s t : σ} {a : α}
    (h : x s = (.ok a, t)) : (x >>= f) s = f a t := by
  show (match x s with | (.ok a, s) => f a s | (.error e, s) => (.error e, s)) = _
  rw [h]

/-- After a first part that stops, nothing more is done. -/
theorem bind_of_error {x : Action σ ε α} {f : α → Action σ ε β} {s t : σ} {e : ε}
    (h : x s = (.error e, t)) : (x >>= f) s = (.error e, t) := by
  show (match x s with | (.ok a, s) => f a s | (.error e, s) => (.error e, s)) = _
  rw [h]

@[simp] theorem fail_apply (e : ε) (s : σ) : (fail e : Action σ ε α) s = (.error e, s) := rfl

@[simp] theorem modify_apply (f : σ → σ) (s : σ) :
    (modify f : Action σ ε Unit) s = (.ok (), f s) := rfl

@[simp] theorem query_apply (f : σ → α × σ) (s : σ) :
    (query f : Action σ ε α) s = (.ok (f s).1, (f s).2) := rfl

@[simp] theorem ofExcept_apply (r : Except ε α) (s : σ) : ofExcept r s = (r, s) := rfl

/-- An answer is told as it is. -/
theorem mapError_of_ok {x : Action σ ε α} {f : ε → ε'} {s t : σ} {a : α} (h : x s = (.ok a, t)) :
    mapError f x s = (.ok a, t) := by
  simp [mapError, h]

/-- A resource that was had is given back after its use. -/
theorem bracket_of_ok {acquire : Action σ ε α} {release : α → σ → σ} {use : α → Action σ ε β}
    {s t : σ} {a : α} (h : acquire s = (.ok a, t)) :
    bracket acquire release use s = ((use a t).1, release a (use a t).2) := by
  simp [bracket, h]

/-- A resource that was not had is not given back. -/
theorem bracket_of_error {acquire : Action σ ε α} {release : α → σ → σ} {use : α → Action σ ε β}
    {s t : σ} {e : ε} (h : acquire s = (.error e, t)) :
    bracket acquire release use s = (.error e, t) := by
  simp [bracket, h]

end Action

end HandleCache

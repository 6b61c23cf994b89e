import HandleCache.Action

/-!
# What actions lead to

An action is described by what holds before it and by what holds afterwards, with its answer or with
the error that it stops with. What is said of the parts of an action says it of the whole: there is
one rule for each way to build an action from others.

## Contents

- `Action.Meets`: an action leads from what holds before to what holds after
- `Action.Keeps`: an action leaves true what holds
- `Action.Answers`: and something is known of its answer besides

## Main statements

- `Meets.bind`: the second part goes on from what the first has led to
- `Meets.bracket`: a resource is given back whether its use answers or stops
-/

namespace HandleCache.Action

variable {σ ε ε' α β : Type}

/-- From a state of which `K` holds, the action leads to one of which `F` holds with its answer, or
`E` with its error. -/
def Meets (K : σ → Prop) (x : Action σ ε α) (F : α → σ → Prop) (E : ε → σ → Prop) : Prop :=
  ∀ s, K s →
    match x s with
    | (.ok v, t) => F v t
    | (.error e, t) => E e t

/-- Whatever the action answers, `I` still holds after it. -/
abbrev Keeps (I : σ → Prop) (x : Action σ ε α) : Prop := Meets I x (fun _ => I) fun _ => I

/-- An answer that is told in other words leaves the same state. -/
theorem state_reply {g : α → β} (x : Action σ ε α) (s : σ) :
    ((x >>= fun v => Pure.pure (g v)) s).2 = (x s).2 := by
  cases run : x s with
  | mk answer t =>
    cases answer with
    | ok v => rw [bind_of_ok run, pure_apply]
    | error e => rw [bind_of_error run]

namespace Meets

variable {x : Action σ ε α} {f : α → Action σ ε β} {K K' : σ → Prop} {F F' : α → σ → Prop}
  {E E' : ε → σ → Prop} {G : β → σ → Prop}

/-- Less may be known afterwards, and more in front. -/
theorem conseq (h : Meets K x F E) (before : ∀ s, K' s → K s) (answers : ∀ v s, F v s → F' v s)
    (stops : ∀ e s, E e s → E' e s) : Meets K' x F' E' := by
  intro s known
  have held := h s (before s known)
  cases hx : x s with
  | mk a t =>
    rw [hx] at held
    cases a with
    | ok v => exact answers v t held
    | error e => exact stops e t held

/-- Both of what an action leads to. -/
theorem and (h : Meets K x F E) (h' : Meets K' x F' E') :
    Meets (fun s => K s ∧ K' s) x (fun v s => F v s ∧ F' v s) fun e s => E e s ∧ E' e s := by
  intro s known
  have held := h s known.1
  have held' := h' s known.2
  cases hx : x s with
  | mk a t =>
    rw [hx] at held held'
    cases a with
    | ok v => exact ⟨held, held'⟩
    | error e => exact ⟨held, held'⟩

/-- What holds in any case. -/
theorem always (answers : ∀ v s, F v s) (stops : ∀ e s, E e s) : Meets K x F E := by
  intro s _
  cases x s with
  | mk a t =>
    cases a with
    | ok v => exact answers v t
    | error e => exact stops e t

theorem pure {v : α} (h : ∀ s, K s → F v s) : Meets K (Pure.pure v : Action σ ε α) F E := h

theorem fail {e : ε} (h : ∀ s, K s → E e s) : Meets K (Action.fail e : Action σ ε α) F E := h

theorem query {g : σ → α × σ} (h : ∀ s, K s → F (g s).1 (g s).2) :
    Meets K (Action.query g : Action σ ε α) F E := h

/-- An error that is told in other words. -/
theorem mapError_told {g : ε → ε'} {E : ε' → σ → Prop} (h : Meets K x F fun e => E (g e)) :
    Meets K (Action.mapError g x) F E := by
  intro s known
  have held := h s known
  unfold Action.mapError
  cases hx : x s with
  | mk a t =>
    rw [hx] at held
    cases a with
    | ok v => exact held
    | error e => exact held

/-- However an error is told, it has led to the same. -/
theorem mapError {g : ε → ε'} {S : σ → Prop} (h : Meets K x F fun _ => S) :
    Meets K (Action.mapError g x) F fun _ => S :=
  mapError_told h

/-- Of every error the same is true as it is told. -/
theorem told {g : ε → ε'} {P : ε' → Prop} (h : ∀ e, P (g e)) :
    Meets K (Action.mapError g x) (fun _ _ => True) fun e _ => P e :=
  mapError_told (.always (fun _ _ => trivial) fun e _ => h e)

/-- What the first part leads to is what the second goes on from. -/
theorem bind (hx : Meets K x F E) (hf : ∀ v, Meets (F v) (f v) G E) : Meets K (x >>= f) G E := by
  intro s known
  have held := hx s known
  cases ha : x s with
  | mk a t =>
    rw [ha] at held
    cases a with
    | ok v =>
      rw [bind_of_ok ha]
      exact hf v t held
    | error e =>
      rw [bind_of_error ha]
      exact held

/-- What is known in front decides how it goes on. -/
theorem ofExcept_bind {a : Except ε α} (answers : ∀ v, a = .ok v → Meets K (f v) G E)
    (stops : ∀ e s, a = .error e → K s → E e s) : Meets K (Action.ofExcept a >>= f) G E := by
  cases a with
  | ok v => exact answers v rfl
  | error e => exact fun s => stops e s rfl

/-- An action on what is known in front, whose answer is told in other words. -/
theorem ofExcept_reply {γ : Type} {a : Except ε α} {g : β → γ} {S : σ → Prop}
    (answers : ∀ v, a = .ok v → Meets K (f v) (fun _ => S) fun _ => S) (stops : ∀ s, K s → S s) :
    Meets K ((Action.ofExcept a >>= f) >>= fun v => Pure.pure (g v)) (fun _ => S) fun _ => S := by
  apply bind (F := fun _ => S)
  · exact ofExcept_bind answers fun _ s _ => stops s
  · exact fun _ => pure fun _ held => held

/-- A change that nothing known depends on. -/
theorem modify_bind {g : σ → σ} {f : Unit → Action σ ε β} (changes : ∀ s, K s → K (g s))
    (h : Meets K (f ()) G E) : Meets K (Action.modify g >>= f) G E :=
  fun s known => h (g s) (changes s known)

/-- The resource is given back after what its use has led to, whether that answered or stopped. -/
theorem bracket {release : α → σ → σ} (hx : Meets K x F E)
    (hf : ∀ a, Meets (F a) (f a) (fun v s => G v (release a s)) fun e s => E e (release a s)) :
    Meets K (Action.bracket x release f) G E := by
  intro s known
  have held := hx s known
  cases ha : x s with
  | mk a t =>
    rw [ha] at held
    cases a with
    | error e =>
      rw [bracket_of_error ha]
      exact held
    | ok a =>
      have used := hf a t held
      rw [bracket_of_ok ha]
      cases hb : f a t with
      | mk b u =>
        rw [hb] at used
        cases b with
        | ok v => exact used
        | error e => exact used

/-- What is known of an answer. -/
theorem answered {s t : σ} {v : α} (h : Meets K x F E) (held : K s) (ran : x s = (.ok v, t)) :
    F v t := by
  have after := h s held
  rw [ran] at after
  exact after

/-- What is known of an error. -/
theorem stopped {s t : σ} {e : ε} (h : Meets K x F E) (held : K s) (ran : x s = (.error e, t)) :
    E e t := by
  have after := h s held
  rw [ran] at after
  exact after

/-- What holds in any case afterwards holds of the state that is left. -/
theorem state {I : σ → Prop} (h : Meets K x (fun _ => I) fun _ => I) {s : σ} (held : K s) :
    I (x s).2 := by
  have after := h s held
  cases hx : x s with
  | mk a t =>
    rw [hx] at after
    cases a with
    | ok v => exact after
    | error e => exact after

end Meets

/-- It is enough that `I` holds of the state that is left. -/
theorem Keeps.of_state {I : σ → Prop} {x : Action σ ε α} (h : ∀ s, I s → I (x s).2) :
    Keeps I x := by
  intro s held
  have after := h s held
  cases hx : x s with
  | mk a t =>
    rw [hx] at after
    cases a with
    | ok v => exact after
    | error e => exact after

/-- Whatever comes of the action, `K` still holds after it, and its answer is one of `P`. -/
abbrev Answers (K : σ → Prop) (x : Action σ ε α) (P : α → Prop) : Prop :=
  Meets K x (fun v s => K s ∧ P v) fun _ => K

namespace Answers

variable {x : Action σ ε α} {f : α → Action σ ε β} {K : σ → Prop} {P P' : α → Prop} {Q : β → Prop}

theorem of_keeps (h : Keeps K x) : Answers K x fun _ => True :=
  h.conseq (fun _ held => held) (fun _ _ held => ⟨held, trivial⟩) fun _ _ held => held

theorem imp (h : Answers K x P) (weaker : ∀ v, P v → P' v) : Answers K x P' :=
  h.conseq (fun _ held => held) (fun v _ known => ⟨known.1, weaker v known.2⟩) fun _ _ held => held

theorem keeps (h : Answers K x P) : Keeps K x :=
  h.conseq (fun _ held => held) (fun _ _ known => known.1) fun _ _ held => held

theorem pure {v : α} (h : P v) : Answers K (Pure.pure v : Action σ ε α) P := fun _ held => ⟨held, h⟩

theorem ofExcept {a : Except ε α} (h : ∀ v, a = .ok v → P v) : Answers K (Action.ofExcept a) P := by
  intro s held
  cases a with
  | ok v => exact ⟨held, h v rfl⟩
  | error e => exact held

/-- What is known of an answer is known when it goes on. -/
theorem bind (hx : Answers K x P) (hf : ∀ v, P v → Answers K (f v) Q) : Answers K (x >>= f) Q :=
  Meets.bind hx fun v s known => hf v known.2 s known.1

/-- Entry by entry, for all of a list. -/
theorem mapM {γ : Type} {g : γ → Action σ ε α} {as : List γ} (h : ∀ a ∈ as, Answers K (g a) P) :
    Answers K (as.mapM g) fun vs => ∀ v ∈ vs, P v := by
  -- The list is gone through with what has been answered so far, the last answer in front.
  suffices gone : ∀ done : List α, (∀ v ∈ done, P v) →
      Answers K (List.mapM.loop g as done) fun vs => ∀ v ∈ vs, P v from gone [] (by simp)
  induction as with
  | nil => exact fun done known => .pure (by simpa using known)
  | cons a rest ih =>
    obtain ⟨first, others⟩ := List.forall_mem_cons.mp h
    exact fun done known => first.bind fun v answered =>
      ih others (v :: done) (List.forall_mem_cons.mpr ⟨answered, known⟩)

end Answers

end HandleCache.Action

/-!
# One call at most

What the cache does for a request to a binding is told as a list: of requests to a host, or of
functions that were called. At most one entry of it is the call that was asked for. The others
check it and clean up after it, and what may be said of the call is said from those before it.

## Contents

- `Quiet`: a list without a call
- `CallsOnce`: a list with one call at most, where it may stand
- `EachCall`: a list whose calls are all of a kind
-/

namespace HandleCache

variable {E : Type} {isCall : E → Bool} {L L' : List E → E → Prop}

/-- None of these is a call. -/
def Quiet (isCall : E → Bool) (es : List E) : Prop := ∀ e ∈ es, isCall e = false

/-- One of these at most is a call, and `L` allows it behind those before it. -/
inductive CallsOnce (isCall : E → Bool) (L : List E → E → Prop) : List E → Prop where
  | none {es : List E} : Quiet isCall es → CallsOnce isCall L es
  | one {before after : List E} {e : E} :
      Quiet isCall before → L before e → Quiet isCall after →
      CallsOnce isCall L (before ++ e :: after)

/-- Whatever of these is a call, `P` holds of it. -/
def EachCall (isCall : E → Bool) (P : E → Prop) (es : List E) : Prop :=
  ∀ e ∈ es, isCall e = true → P e

theorem Quiet.nil : Quiet isCall ([] : List E) := nofun

theorem Quiet.concat {es : List E} {e : E} (h : Quiet isCall es) (he : isCall e = false) :
    Quiet isCall (es ++ [e]) := by
  intro x hx
  rcases List.mem_append.mp hx with hx | hx
  · exact h x hx
  · rw [List.mem_singleton.mp hx]
    exact he

theorem Quiet.eachCall {P : E → Prop} {es : List E} (h : Quiet isCall es) :
    EachCall isCall P es := by
  intro e mem call
  rw [h e mem] at call
  cases call

theorem EachCall.append {P : E → Prop} {es fs : List E} (h : EachCall isCall P es)
    (h' : EachCall isCall P fs) : EachCall isCall P (es ++ fs) :=
  fun e mem => (List.mem_append.mp mem).elim (h e) (h' e)

theorem EachCall.concat {P : E → Prop} {es : List E} {e : E} (h : EachCall isCall P es)
    (he : isCall e = false) : EachCall isCall P (es ++ [e]) :=
  h.append (Quiet.nil.concat he).eachCall

namespace CallsOnce

/-- The call itself, behind what led up to it. -/
theorem call {es : List E} {e : E} (h : Quiet isCall es) (allowed : L es e) :
    CallsOnce isCall L (es ++ [e]) :=
  .one h allowed .nil

/-- What follows the call is not judged. -/
theorem concat {es : List E} {e : E} (h : CallsOnce isCall L es) (he : isCall e = false) :
    CallsOnce isCall L (es ++ [e]) := by
  cases h with
  | none quiet => exact .none (quiet.concat he)
  | one quiet allowed rest =>
    rw [List.append_assoc, List.cons_append]
    exact .one quiet allowed (rest.concat he)

theorem imp {es : List E} (h : CallsOnce isCall L es)
    (weaker : ∀ before e, L before e → L' before e) : CallsOnce isCall L' es := by
  cases h with
  | none quiet => exact .none quiet
  | one quiet allowed rest => exact .one quiet (weaker _ _ allowed) rest

end CallsOnce

end HandleCache

import HandleCache.Proofs.Jni.Fates

/-!
# What stays pending

A look-up that fails has left an exception pending, and the cache takes it away before it goes on.
So a resolution that fails leaves nothing pending, and calls nothing while something is, with one
exception: a weak reference that cannot be made for an exception leaves this exception behind.

## Contents

- `Machine.Mild`, `Machine.Kempt`: what is assumed of a machine, and what is kept to on it
- `Orderly`, `Steady`: a machine on which nothing has been left pending so far
- `WeakeningThrew`: what is left pending after all

## Main statements

- `nothing_left_pending`: whatever fails for want of a class or a member leaves nothing else pending
- `weakening_left_pending`: a weak reference that could not be made breaks the next resolution
-/

namespace HandleCache.Jni

open HandleCache.Action

/-- Whether a function may be called while an exception is pending: those may that take it away or
delete references. -/
def Function.cleans : Function → Bool
  | exceptionClear | deleteLocalRef | deleteGlobalRef | deleteWeakGlobalRef => true
  | _ => false

namespace Machine

variable {m₀ m m' : Machine} {f : Function} {operands : List Operand}

/-! ## Machines in order -/

/-- To make and to delete local references throws nothing. -/
def Mild (m : Machine) : Prop :=
  ∀ x, (Function.newLocalRef.name, Fate.throws x) ∉ m.queue ∧
    (Function.deleteLocalRef.name, Fate.throws x) ∉ m.queue

/-- Nothing was called since `m` while an exception was pending, but to take it away or to delete
references. -/
def Kempt (m m' : Machine) : Prop :=
  m.Calls (fun e => e.pending = true → e.function.cleans = true) m'

/-- What is taken off the queue does no harm. -/
theorem Mild.taken {name : String} (h : m.Mild) (same : m'.queue = (next name m.queue).2) :
    m'.Mild := by
  intro x
  rw [same]
  exact ⟨fun queued => (h x).1 (mem_of_mem_next queued),
    fun queued => (h x).2 (mem_of_mem_next queued)⟩

theorem Kempt.called (h : m₀.Kempt m) (call : m.Called f operands m')
    (tidy : m.exception = none ∨ f.cleans = true) : m₀.Kempt m' := by
  refine Calls.called h call fun pending => ?_
  rcases tidy with clear | cleans
  · simp [clear] at pending
  · exact cleans

theorem Mild.newLocal (h : m.Mild) (r : Reference) :
    (m.newReference .local r).2.exception = m.exception := by
  rw [exception_newReference, exception_enter]
  split
  · next x struck => exact absurd (mem_of_next struck) (h x).1
  · rfl

theorem Mild.deleteLocal (h : m.Mild) (r : Reference) :
    (m.deleteReference .local r).exception = m.exception := by
  show (m.enter .deleteLocalRef [.reference r]).2.exception = m.exception
  rw [exception_enter]
  split
  · next x struck => exact absurd (mem_of_next struck) (h x).2
  · rfl

end Machine

/-- Since `m₀` nothing was called that must not be, and no lasting reference was made. -/
structure Orderly (m₀ m : Machine) : Prop where
  kempt : m₀.Kempt m
  mild : m.Mild
  awaits : m₀.Awaits m

/-- And nothing is pending. -/
structure Steady (m₀ m : Machine) : Prop extends Orderly m₀ m where
  clear : m.exception = none

section

variable {m₀ m m' : Machine} {f : Function} {operands : List Operand}

theorem Steady.start (clear : m₀.exception = none) (mild : m₀.Mild) : Steady m₀ m₀ :=
  ⟨⟨Machine.Calls.refl m₀ _, mild, .refl m₀⟩, clear⟩

/-- The journal is of no account. -/
theorem Steady.note (h : Steady m₀ m) (e : LogEntry) :
    Steady m₀ { m with journal := m.journal ++ [e] } :=
  ⟨⟨h.kempt, h.mild, h.awaits⟩, h.clear⟩

theorem Orderly.called (h : Orderly m₀ m) (call : m.Called f operands m')
    (tidy : m.exception = none ∨ f.cleans = true) (passing : f.lasting = false) :
    Orderly m₀ m' where
  kempt := h.kempt.called call tidy
  mild := h.mild.taken call.queue
  awaits := (Machine.stable_awaits m₀).called h.awaits call passing

theorem Steady.called (h : Steady m₀ m) (call : m.Called f operands m')
    (passing : f.lasting = false) : Orderly m₀ m' :=
  h.toOrderly.called call (.inl h.clear) passing

theorem Orderly.exceptionClear (h : Orderly m₀ m) : Steady m₀ m.exceptionClear :=
  ⟨h.called (Machine.called_exceptionClear m) (.inr rfl) rfl, rfl⟩

theorem Steady.newLocal (h : Steady m₀ m) (r : Reference) :
    Steady m₀ (m.newReference .local r).2 :=
  ⟨h.called (Machine.called_newReference .local r m) rfl,
    (h.mild.newLocal r).trans h.clear⟩

theorem keeps_steady_machine : Keeps (Steady m₀) requireVirtualMachine := by
  refine keeps_requireVirtualMachine fun m h => ⟨⟨h.kempt, h.mild.taken rfl, ?_⟩, h.clear⟩
  exact (Machine.stable_awaits m₀).asked h.awaits

/-! ## Look-ups -/

/-- A look-up has nothing pending when it answers, and takes away what is pending when it fails. -/
theorem keeps_steady_lookup {α : Type} {name signature : String} {failure : Failure}
    {g : Machine → Option α × Machine} (call : ∀ m, Machine.Called f operands m (g m).2)
    (passing : f.lasting = false) :
    Keeps (Steady m₀) (lookup name signature (nonNull failure g)) := by
  refine meets_lookup (T := Orderly m₀) (meets_nonNull_cases ?_ ?_ ?_) ?_
  · exact fun m _ h clear _ => ⟨h.called (call m) passing, clear⟩
  · exact fun m h _ _ => h.called (call m) passing
  · exact fun m _ h _ => h.called (call m) passing
  · intro m told h
    have noted : Orderly m₀ { m with journal := m.journal ++ [told] } := ⟨h.kempt, h.mild, h.awaits⟩
    exact noted.exceptionClear

theorem keeps_steady_findClass (name : String) : Keeps (Steady m₀) (findClass name) :=
  keeps_steady_lookup (Machine.called_findClass name) rfl

theorem keeps_steady_findMethod (isStatic : Bool) (c : Reference) (name signature : String) :
    Keeps (Steady m₀) (findMethod isStatic c name signature) :=
  keeps_steady_lookup (Machine.called_getMember _ _ _ _ _ _) (by cases isStatic <;> rfl)

theorem keeps_steady_findField (isStatic : Bool) (c : Reference) (name signature : String) :
    Keeps (Steady m₀) (findField isStatic c name signature) :=
  keeps_steady_lookup (Machine.called_getMember _ _ _ _ _ _) (by cases isStatic <;> rfl)

/-- However a class is obtained, nothing is pending afterwards. -/
theorem keeps_steady_obtainClass (b : Binding host) : Keeps (Steady m₀) b.obtainClass := by
  refine b.meets_obtainClass (fun _ => keeps_steady_findClass _) ?_ ?_ (fun _ h => h)
    fun e m h => h.note e
  · exact fun p _ => .query fun m h => h.newLocal p
  · refine fun w _ => .query fun m h => ?_
    exact ⟨fun _ _ => h.newLocal w, fun _ => h.newLocal w⟩

/-! ## Lasting references -/

/-- The weak reference that the declaration asks for could not be made for an exception, and this
is pending. -/
def WeakeningThrew (m₀ : Machine) (d : Declaration) (fault : Fault Failure) (m : Machine) : Prop :=
  d.retention = .weak ∧ fault = .classNotRetained d.className .exceptionThrown ∧
    ∃ x, m₀.fate? .newWeakGlobalRef = some (.throws x) ∧ m.exception = some x

/-- What a resolution of `d` that fails leaves. -/
structure Left (m₀ : Machine) (d : Declaration) (fault : Fault Failure) (m : Machine) :
    Prop where
  kempt : m₀.Kempt m
  mild : m.Mild
  pending : m.exception = none ∨ WeakeningThrew m₀ d fault m

variable {d : Declaration} {fault : Fault Failure}

theorem Steady.left (h : Steady m₀ m) : Left m₀ d fault m := ⟨h.kempt, h.mild, .inl h.clear⟩

/-- To give the class back changes nothing of this. -/
theorem Left.release (h : Left m₀ d fault m) (c : Reference) : Left m₀ d fault (dropLocal c m) := by
  have call := Machine.called_deleteReference .local c m
  have same : (dropLocal c m).exception = m.exception := h.mild.deleteLocal c
  refine ⟨h.kempt.called call (.inr rfl), h.mild.taken call.queue, ?_⟩
  unfold WeakeningThrew
  rw [same]
  exact h.pending

theorem Steady.newWeak (h : Steady m₀ m) (r : Reference) :
    (m.newReference .weak r).2.exception = none ∨
      ∃ x, m₀.fate? .newWeakGlobalRef = some (.throws x) ∧
        (m.newReference .weak r).2.exception = some x := by
  rw [Machine.exception_newReference, Machine.exception_enter, ← h.awaits _ rfl]
  split
  · next x struck => exact .inr ⟨x, struck, rfl⟩
  · exact .inl h.clear

theorem meets_makeWeak (weak : d.retention = .weak) (r : Reference) :
    Meets (Steady m₀) (makeWeak r) (fun _ _ => True)
      fun e => Left m₀ d (.classNotRetained d.className e) := by
  refine Meets.bind (F := fun _ => Steady m₀) ?_ fun _ => ?_
  · exact keeps_steady_machine.conseq (fun _ h => h) (fun _ _ h => h) fun _ _ h => h.left
  · cases r with
    | none => exact .fail fun _ h => h.left
    | some i =>
      have kempt : ∀ m, Steady m₀ m → m₀.Kempt (m.newReference .weak (some i)).2 ∧
          (m.newReference .weak (some i)).2.Mild := fun m h =>
        have call := Machine.called_newReference .weak (some i) m
        ⟨h.kempt.called call (.inl h.clear), h.mild.taken call.queue⟩
      refine meets_nonNull_cases (fun _ _ _ _ _ => trivial) (fun m h clear _ => ?_) fun m _ h _ => ?_
      · exact ⟨(kempt m h).1, (kempt m h).2, .inl clear⟩
      · exact ⟨(kempt m h).1, (kempt m h).2, (h.newWeak (some i)).imp_right fun threw =>
          ⟨weak, rfl, threw⟩⟩

theorem meets_makeGlobal (r : Reference) :
    Meets (Steady m₀) (makeGlobal r) (fun _ _ => True)
      fun e => Left m₀ d (.classNotRetained d.className e) := by
  refine Meets.bind (F := fun _ => Steady m₀) ?_ fun _ => .query fun _ _ => trivial
  exact keeps_steady_machine.conseq (fun _ h => h) (fun _ _ h => h) fun _ _ h => h.left

/-! ## Resolutions -/

theorem leaves_resolve :
    Meets (Steady m₀) (Binding.resolve host d) (fun _ _ => True) (Left m₀ d) := by
  refine (Binding.meets_resolve (H := host) (I := fun _ => Steady m₀) (F := fun _ _ => True) d
    (fun _ _ h => h.left) ?_ (fun c plans => ?_) (fun c => ?_) (fun e _ _ h => h.note e)
    fun _ _ _ h => h).conseq (fun _ h => h) (fun _ _ _ => trivial) fun _ _ h => h
  · exact (Meets.mapError (keeps_steady_findClass _)).conseq (fun _ h => h) (fun _ _ h => h)
      fun _ _ h => h.left
  · refine (Host.keeps_lookupOperations (H := host) c d.className (keeps_steady_findMethod false c)
      (keeps_steady_findMethod true c) (keeps_steady_findField false c)
      (keeps_steady_findField true c) plans).conseq (fun _ h => h) (fun _ _ h => h) ?_
    exact fun _ _ h => h.left.release c
  · refine Host.meets_retain (H := host) c d (fun _ _ _ => trivial) (fun weak => ?_) fun _ => ?_
    · exact (meets_makeWeak weak c).conseq (fun _ h => h) (fun _ _ h => h) fun _ _ h => h.release c
    · exact (meets_makeGlobal c).conseq (fun _ h => h) (fun _ _ h => h) fun _ _ h => h.release c

/-! ## Requests to bindings -/

theorem obtains_steady (b : Binding host) :
    Meets (Steady m₀) b.obtainClass (fun _ _ => True) fun _ => Steady m₀ :=
  (keeps_steady_obtainClass b).conseq (fun _ h => h) (fun _ _ _ => trivial) fun _ _ h => h

theorem recovers_steady_answer (b : Binding host) (ask : Ask host) :
    Host.Recovers (Steady m₀) (b.answer ask) :=
  b.recovers_answer (obtains_steady b) (fun _ _ h => h) (fun _ _ _ h => h) ask

theorem recovers_steady_wrap (b : Binding host) (o : Reference) :
    Host.Recovers (Steady m₀) (wrap b o) := by
  unfold wrap
  split
  · exact .fail fun _ h _ => h
  · exact (b.recovers_requireInstance (obtains_steady b) o).before fun _ =>
      Host.unresolving_direct _

theorem recovers_steady_wrapNew (b : Binding host) (name : String) (args : List (Value Reference)) :
    Host.Recovers (Steady m₀) (wrapNew b name args) := by
  refine (b.recovers_create (obtains_steady b) (fun _ _ _ h => h) name args).bracket fun o => ?_
  exact (Host.unresolving_direct _).conseq (fun _ h => h) (fun _ _ _ => trivial)
    fun _ _ not resolution => nomatch not.symm.trans resolution

end

/-- From a machine with nothing pending, of whatever a resolution that fails has called, nothing
was called while an exception was pending but to take it away or to delete references, and none is
pending in the end unless a weak reference could not be made for it. The same holds of every request
to a binding that fails for want of a class, and there nothing is pending at all. -/
theorem nothing_left_pending (m : Machine) (clear : m.exception = none) (mild : m.Mild) :
    (∀ d fault t, Binding.resolve host d m = (.error fault, t) →
      m.Kempt t ∧ (t.exception = none ∨ WeakeningThrew m d fault t)) ∧
    (∀ (b : Binding host) ask fault t, b.answer ask m = (.error fault, t) →
      fault.isResolution = true → m.Kempt t ∧ t.exception = none) ∧
    (∀ (b : Binding host) o fault t, wrap b o m = (.error fault, t) →
      fault.isResolution = true → m.Kempt t ∧ t.exception = none) ∧
    (∀ (b : Binding host) name args fault t, wrapNew b name args m = (.error fault, t) →
      fault.isResolution = true → m.Kempt t ∧ t.exception = none) := by
  have start := Steady.start clear mild
  refine ⟨fun d fault t failed => ?_, fun b ask fault t failed resolution => ?_,
    fun b o fault t failed resolution => ?_, fun b name args fault t failed resolution => ?_⟩
  · have left : Left m d fault t := leaves_resolve.stopped start failed
    exact ⟨left.kempt, left.pending⟩
  · have steady := (recovers_steady_answer b ask).stopped start failed resolution
    exact ⟨steady.kempt, steady.clear⟩
  · have steady := (recovers_steady_wrap b o).stopped start failed resolution
    exact ⟨steady.kempt, steady.clear⟩
  · have steady := (recovers_steady_wrapNew b name args).stopped start failed resolution
    exact ⟨steady.kempt, steady.clear⟩

/-- A member that is missing, and a class that is missing when it is looked up again. -/
theorem nothing_left_pending_solitary :
    (∃ fault t, Binding.resolve host ⟨"a/A", [.staticField "y" "y" "I"], .weak⟩ (solitary []) =
        (.error fault, t) ∧
      (solitary []).Kempt t ∧
        (t.exception = none ∨
          WeakeningThrew (solitary []) ⟨"a/A", [.staticField "y" "y" "I"], .weak⟩ fault t)) ∧
    ∃ t, Binding.answer (H := host) (.ofRows ⟨"b/B", [], .drop⟩ [] .nothing) .acquire (solitary []) =
        (.error (.classNotFound "b/B" .exceptionThrown), t) ∧
      (solitary []).Kempt t ∧ t.exception = none := by
  have mild : (solitary []).Mild := by simp [Machine.Mild, solitary]
  have ⟨resolves, answers, _⟩ := nothing_left_pending (solitary []) rfl mild
  have failed : Binding.answer (H := host) (.ofRows ⟨"b/B", [], .drop⟩ [] .nothing) .acquire
      (solitary []) = (.error (.classNotFound "b/B" .exceptionThrown), _) := rfl
  exact ⟨⟨_, _, rfl, resolves _ _ _ rfl⟩, _, failed, answers _ _ _ _ failed rfl⟩

/-- A weak reference that cannot be made for an exception leaves it pending, and the next
resolution fails for it, though its class is there. -/
theorem weakening_left_pending :
    (solitary [("NewWeakGlobalRef", .throws "OutOfMemoryError")]).exception = none ∧
    (solitary [("NewWeakGlobalRef", .throws "OutOfMemoryError")]).Mild ∧
    ∃ t, Binding.resolve host ⟨"a/A", [], .weak⟩
        (solitary [("NewWeakGlobalRef", .throws "OutOfMemoryError")]) =
          (.error (.classNotRetained "a/A" .exceptionThrown), t) ∧
      t.exception = some "OutOfMemoryError" ∧
      (Binding.resolve host ⟨"a/A", [], .drop⟩ t).1 =
        .error (.classNotFound "a/A" .exceptionThrown) ∧
      t.world.visibleClass? "a/A" = some 0 :=
  ⟨rfl, by simp [Machine.Mild, solitary, Function.name], _, rfl, rfl, rfl, rfl⟩

end HandleCache.Jni

import HandleCache.Proofs.Threads.Answers
import HandleCache.Proofs.Threads.History
import HandleCache.Proofs.Threads.Lifecycle

/-!
# Resolved at most once

The cell of a deferred binding, and that of a predeclared class, is resolved at most once, whoever
asks for it in whatever order and however many attempts fail before. All who are answered get the
binding that was made then.

## Contents

- `ResolvedOnce`: what is meant

## Main statements

- `Sound.source_unique`: a predeclared class has no other source than its own cell
- `Team.resolve_once`: deferred bindings and predeclared classes are resolved at most once
-/

namespace HandleCache

variable {H : Host}

/-! ## One success -/

/-- Attempts that failed have made nothing and published nothing. -/
theorem Deed.mem_failures {c : CellId} {k : Nat} {deed : Deed} (h : deed ∈ failures c k) :
    deed = .attempt c ∨ deed = .fail c := by
  obtain ⟨pair, hp, hd⟩ := List.mem_flatten.mp h
  rw [List.eq_of_mem_replicate hp] at hd
  simpa using hd

/-- A history has one success at most. -/
theorem Past.countP_isMake_le {c : CellId} {deeds : List Deed} {condition : Condition}
    (past : Past c deeds condition) : deeds.countP Deed.isMake ≤ 1 := by
  obtain ⟨k, rfl⟩ := past.shape
  have failed : (Deed.failures c k).countP Deed.isMake = 0 := by
    apply List.countP_eq_zero.mpr
    intro deed hd
    rcases Deed.mem_failures hd with rfl | rfl <;> simp [Deed.isMake]
  rw [List.countP_append, failed]
  cases condition <;> simp [Condition.last, Deed.isMake, List.countP_cons]

theorem Past.publish_mem_iff {c : CellId} {deeds : List Deed} {condition : Condition}
    (past : Past c deeds condition) (b : BindingId) :
    .publish c b ∈ deeds ↔ condition = .kept b := by
  obtain ⟨k, rfl⟩ := past.shape
  have failed : .publish c b ∉ Deed.failures c k := by
    intro h
    rcases Deed.mem_failures h with h | h <;> cases h
  rw [List.mem_append]
  cases condition <;> simp [failed, Condition.last, eq_comm]

/-- What it means that a cell is resolved at most once: what is done to it before a moment, and
after it. -/
structure ResolvedOnce (c : CellId) (team : Team H) (before after : List Nat) : Prop where
  /-- There are attempts that failed, and then at most one that did not, which comes last. -/
  history : ∃ k condition, team.deedsOn c before = Deed.failures c k ++ Condition.last c condition
  /-- One resolution succeeds at most. -/
  once : (team.deedsOn c before).countP Deed.isMake ≤ 1
  /-- The cell keeps what was published, and nothing before that. -/
  kept : ∀ b, (team.run before).shared.store.cell c = .filled b ↔
    .publish c b ∈ team.deedsOn c before
  /-- It keeps it ever after, and no attempt is made any more. -/
  lasting : ∀ b, (team.run before).shared.store.cell c = .filled b →
    ((team.run before).run after).shared.store.cell c = .filled b ∧
      (team.run before).deedsOn c after = []

/-- A cell that was empty when the threads began is resolved at most once. -/
theorem Sound.resolvedOnce {labels : Labelling} {team : Team H} {c : CellId}
    (sound : Sound labels team.threads team.shared.board)
    (empty : team.shared.store.cell c = .empty) (before after : List Nat) :
    ResolvedOnce c team before after := by
  obtain ⟨condition, past, shown⟩ := sound.past_run empty before
  obtain ⟨k, shape⟩ := past.shape
  obtain ⟨labels', _, sound'⟩ := sound.after before
  refine ⟨⟨k, condition, shape⟩, past.countP_isMake_le, fun b => ?_,
    fun b h => sound'.filled_run after h⟩
  rw [past.publish_mem_iff]
  constructor
  · exact fun h => shown.kept_of_filled h
  · rintro rfl
    exact shown

/-! ## Predeclared classes -/

/-- A predeclared class has no other source than its own cell. -/
theorem Sound.source_unique {labels : Labelling} {threads : List (Stage H)} {board : Board}
    (sound : Sound labels threads board) {c : CellId} {d : Declaration} {b : BindingId}
    (h : labels c = some ⟨d, .predeclared⟩) (source : Source labels board d.className b) :
    board.cell c = .filled b := by
  obtain ⟨c', ⟨d', origin⟩, hl, undeferred, hn, hb⟩ := source
  -- A deferred cell is no source, and a class that is predeclared is never requested.
  cases origin with
  | deferred => exact absurd rfl undeferred
  | requested => exact absurd hn.symm (sound.apart c c' d d' h hl)
  | predeclared =>
    -- Both cells are with the one entry of the class.
    have first := sound.find?_of_mem (sound.predeclared c d h)
    have second := sound.find?_of_mem (sound.predeclared c' d' hl)
    simp only at hn
    rw [hn, first] at second
    cases second
    exact hb

/-- Whether a task asks for the binding of this class. -/
def Task.AsksFor (name : String) : Task → Prop
  | request d => d.className = name
  | named name' => name' = name
  | preload _ | peek _ | deferred _ => False

/-- Who asked for the binding of a class and was answered got it from a cell for the class. -/
theorem Task.Answered.source {labels : Labelling} {board : Board} {task : Task}
    {answer : Option BindingId} {name : String} (h : task.Answered labels board answer)
    (asks : task.AsksFor name) : ∃ b, answer = some b ∧ Source labels board name b := by
  cases task with
  | request d => cases asks; exact h
  | named name' => cases asks; exact h
  | preload | peek | deferred => cases asks

/-- Deferred bindings and predeclared classes are resolved at most once, in every run, whatever
becomes of each attempt. Who is answered gets the binding that their cell keeps, and a preloading
that succeeds leaves no predeclared class unresolved. -/
theorem Team.resolve_once {s : Shared H} {ls : List Deferred} (prepared : s.Prepared ls)
    {tasks : List Task} (among : ∀ task ∈ tasks, task.Among ls) (before after : List Nat) :
    let now := (start tasks s).run before
    (∀ l ∈ ls, ResolvedOnce l.cell (start tasks s) before after ∧
      ∀ (i : Nat) answer, tasks[i]? = some (.deferred l) →
        now.threads[i]? = some (.done (.ok answer)) →
        ∃ b, answer = some b ∧ l.resolved? now.shared.store = some b) ∧
    (∀ d c, s.registry.find? d.className = some ⟨d, true, c⟩ →
      ResolvedOnce c (start tasks s) before after ∧
      Registry.peek now.shared d.className = (now.shared.store.cell c).binding? ∧
      (∀ (i : Nat) task answer, tasks[i]? = some task → task.AsksFor d.className →
        now.threads[i]? = some (.done (.ok answer)) →
        ∃ b, answer = some b ∧ Registry.peek now.shared d.className = some b) ∧
      ∀ (i : Nat) arrangement answer, tasks[i]? = some (.preload arrangement) →
        now.threads[i]? = some (.done (.ok answer)) →
        ∃ b, Registry.peek now.shared d.className = some b) := by
  intro now
  obtain ⟨labels, ready⟩ := prepared.ready
  obtain ⟨labels', le, sound, served⟩ := ready.served_run among before
  have answered (i : Nat) {task : Task} {answer : Option BindingId} (ht : tasks[i]? = some task)
      (hd : now.threads[i]? = some (.done (.ok answer))) :
      task.Answered labels' now.shared.board answer := by
    obtain ⟨stage, hs, serves⟩ := served i task ht
    cases hs.symm.trans hd
    exact serves
  refine ⟨fun l hl => ⟨?_, fun i answer ht hd => ?_⟩, fun d c hf => ?_⟩
  · exact (ready.sound among).resolvedOnce (ready.empty _ _ (ready.deferred l hl)).2 before after
  · obtain ⟨b, hb, filled⟩ := answered i ht hd
    refine ⟨b, hb, ?_⟩
    have cell : now.shared.store.cell l.cell = .filled b := filled
    rw [Deferred.resolved?, cell]
    rfl
  · have mem : (d.className, ⟨d, true, c⟩) ∈ s.board.entries := Board.mem_of_find? hf
    -- The entry that was there from the start tells the label of its cell.
    have label : labels c = some ⟨d, .predeclared⟩ := (ready.entry _ _ mem).2.1
    have found : now.shared.registry.find? d.className = some ⟨d, true, c⟩ :=
      (ready.sound among).predeclared_run before hf rfl
    have view : Registry.peek now.shared d.className = (now.shared.store.cell c).binding? := by
      rw [Registry.peek, found]
      rfl
    have peeked {b : BindingId} (hb : now.shared.board.cell c = .filled b) :
        Registry.peek now.shared d.className = some b := by
      rw [view, ← Shared.cell_board, hb]
      rfl
    refine ⟨(ready.sound among).resolvedOnce (ready.empty _ _ label).2 before after, view,
      fun i task answer ht asks hd => ?_, fun i arrangement answer ht hd => ?_⟩
    · obtain ⟨b, hb, source⟩ := (answered i ht hd).source asks
      exact ⟨b, hb, peeked (sound.source_unique (le c _ label) source)⟩
    · obtain ⟨b, hb⟩ := (answered i ht hd).2 c d (le c _ label)
      exact ⟨b, peeked hb⟩

/-- A deferred binding for a class of the counting machine. -/
def Counting.deferredPoint : Deferred := ⟨⟨"test/Point", [], .global⟩, 0⟩

/-- Two threads that want it, one turn each until both are done. -/
def Team.deferredPoint : Team Counting.host :=
  (start [.deferred Counting.deferredPoint, .deferred Counting.deferredPoint]
    ⟨{}, (Deferred.ofDeclaration Counting.deferredPoint.declaration
      Counting.emptyRegistry.store).2⟩).run (rounds 2 9)

/-- Both threads are answered, and with what the cell keeps. -/
theorem Team.resolve_once_deferredPoint :
    deferredPoint.outcomes = [.ok (some 0), .ok (some 0)] ∧
      Counting.deferredPoint.resolved? deferredPoint.shared.store = some 0 := by
  have threads : deferredPoint.threads = [.done (.ok (some 0)), .done (.ok (some 0))] := rfl
  have made : Registry.ofDeclarations [] Counting.emptyRegistry.store =
      (.ok {}, Counting.emptyRegistry.store) := rfl
  have among : ∀ task ∈ [Task.deferred Counting.deferredPoint, .deferred Counting.deferredPoint],
      task.Among [Counting.deferredPoint] := by simp [Task.Among]
  obtain ⟨_, answers⟩ := (resolve_once (.defer Counting.deferredPoint.declaration (.made made))
    among (rounds 2 9) []).1 Counting.deferredPoint (List.mem_singleton.mpr rfl)
  obtain ⟨b, hb, resolved⟩ := answers 0 (some 0) rfl (by
    show deferredPoint.threads[0]? = _
    rw [threads]
    rfl)
  cases hb
  exact ⟨by simp [outcomes, threads, Stage.outcome?], resolved⟩

end HandleCache

import Mathlib.Data.List.Induction
import TransitForecast.Proofs.Separation

/-!
# TransitForecast — what is left of what was observed

A store of observed transitions forgets in two ways: an observation is replaced by the next one of
its stop pair, and one that is found to have expired is removed, be it by a look-up of its pair or
by a sweep. Times may be given in any order, so an observation that is found to have expired once is
gone for good, also for a time at which it would still count. What a store holds after any
operations can be told from the operations alone: of each pair the last observation, unless it has
been found expired since.

## Results

* `find?_perform_iff` — what one operation leaves of a stop pair.
* `remembered_append_iff` — how one more operation changes what is remembered.
* `holds_afterAll` — a store holds what is remembered, and nothing else.
* `recalls_the_last_observation` — the store after any operations, and each of their answers.
-/

namespace TransitForecast

/-- The stop pair of an observation. -/
def Transition.pair (t : Transition) : StopPair := (t.origin, t.target)

namespace ObservedTransitions

-- ---------------------------------------------------------------------------
-- Operations
-- ---------------------------------------------------------------------------

/-- What is done to a store. -/
inductive Operation
  | record (t : Transition)
  | lookup (pair : StopPair) (now : Instant)
  | sweep (now : Instant)

/-- What is answered: what a look-up finds, and how many observations there are before a sweep and
after it. -/
inductive Answer
  | recorded
  | found (t : Option Transition)
  | swept (before after : Nat)
  deriving DecidableEq

/-- Performs one operation. -/
def perform (s : ObservedTransitions) : Operation → Answer × ObservedTransitions
  | .record t => (.recorded, s.record t)
  | .lookup pair now => let (t, s) := s.lookup pair now; (.found t, s)
  | .sweep now => (.swept s.size (s.sweep now).size, s.sweep now)

/-- Performs operations in order, and keeps their answers. -/
def run (s : ObservedTransitions) : List Operation → List Answer × ObservedTransitions
  | [] => ([], s)
  | op :: rest =>
    let (answer, s) := s.perform op
    let (answers, s) := s.run rest
    (answer :: answers, s)

/-- Whether an operation leaves an observation alone: it records none of the same stop pair, and
does not find it expired. -/
def Operation.Spares (maxAge : Span) (t : Transition) : Operation → Prop
  | .record u => u.pair ≠ t.pair
  | .lookup pair now => pair = t.pair → now.since t.observedAt ≤ maxAge
  | .sweep now => now.since t.observedAt ≤ maxAge

/-- Whether an observation was recorded, and spared by all operations since. -/
def Remembered (maxAge : Span) (past : List Operation) (t : Transition) : Prop :=
  ∃ before since, past = before ++ .record t :: since ∧ ∀ op ∈ since, op.Spares maxAge t

/-- What is answered to an operation after others. -/
def Answers (maxAge : Span) (past : List Operation) : Operation → Answer → Prop
  | .record _, answer => answer = .recorded
  | .lookup pair now, answer => ∃ found, answer = .found found ∧
      ∀ t, found = some t ↔
        t.pair = pair ∧ Remembered maxAge past t ∧ now.since t.observedAt ≤ maxAge
  | .sweep now, answer => ∃ held : List Transition,
      (held.map Transition.pair).Nodup ∧ (∀ t, t ∈ held ↔ Remembered maxAge past t) ∧
        answer = .swept held.length (held.countP fun t => now.since t.observedAt ≤ maxAge)

-- ---------------------------------------------------------------------------
-- One operation
-- ---------------------------------------------------------------------------

variable {s : ObservedTransitions} {maxAge : Span} {past : List Operation} {op : Operation}
  {pair : StopPair} {t : Transition}

theorem maxAge_perform (s : ObservedTransitions) (op : Operation) :
    (s.perform op).2.maxAge = s.maxAge := by
  cases op with
  | record t => rfl
  | lookup pair now => exact s.maxAge_lookup pair now
  | sweep now => rfl

theorem isFresh_iff {now : Instant} : s.isFresh now t = true ↔ now.since t.observedAt ≤ s.maxAge :=
  decide_eq_true_iff

/-- What one operation leaves of a stop pair. -/
theorem find?_perform_iff (hFiled : ∀ p u, s.entries.find? p = some u → u.pair = p) :
    (s.perform op).2.entries.find? pair = some t ↔
      t.pair = pair ∧
        (op = .record t ∨ s.entries.find? pair = some t ∧ op.Spares s.maxAge t) := by
  have hOwn := hFiled pair t
  cases op with
  | record u =>
    have hLeft : (s.perform (.record u)).2.entries.find? pair =
        if pair = u.pair then some u else s.entries.find? pair := Table.find?_insert ..
    rw [hLeft, Operation.record.injEq]
    by_cases hSame : pair = u.pair
    · rw [if_pos hSame, Option.some_inj]
      constructor
      · rintro rfl
        exact ⟨hSame.symm, .inl rfl⟩
      · rintro ⟨hPair, rfl | ⟨-, hOther⟩⟩
        · rfl
        · exact absurd (hSame.symm.trans hPair.symm) hOther
    · rw [if_neg hSame]
      constructor
      · intro hFound
        refine ⟨hOwn hFound, .inr ⟨hFound, fun hEq => hSame ?_⟩⟩
        rw [hEq, hOwn hFound]
      · rintro ⟨hPair, rfl | ⟨hFound, -⟩⟩
        · exact absurd hPair.symm hSame
        · exact hFound
  | lookup p now =>
    have hLeft : (s.perform (.lookup p now)).2.entries.find? pair = some t ↔
        s.entries.find? pair = some t ∧ (p = pair → s.isFresh now t = true) :=
      find?_lookup_eq_some_iff
    rw [hLeft, isFresh_iff]
    constructor
    · rintro ⟨hFound, hFresh⟩
      refine ⟨hOwn hFound, .inr ⟨hFound, fun hEq => hFresh ?_⟩⟩
      rw [hEq, hOwn hFound]
    · rintro ⟨hPair, hNever | ⟨hFound, hSpared⟩⟩
      · cases hNever
      · exact ⟨hFound, fun hEq => hSpared (hEq.trans hPair.symm)⟩
  | sweep now =>
    have hLeft : (s.perform (.sweep now)).2.entries.find? pair = some t ↔
        s.entries.find? pair = some t ∧ s.isFresh now t = true := by
      have hFilter : (s.perform (.sweep now)).2.entries.find? pair =
          (s.entries.find? pair).filter (s.isFresh now) := Table.find?_filter ..
      rw [hFilter, Option.filter_eq_some_iff]
    rw [hLeft, isFresh_iff]
    constructor
    · rintro ⟨hFound, hFresh⟩
      exact ⟨hOwn hFound, .inr ⟨hFound, hFresh⟩⟩
    · rintro ⟨-, hNever | hKept⟩
      · cases hNever
      · exact hKept

-- ---------------------------------------------------------------------------
-- Any operations
-- ---------------------------------------------------------------------------

/-- How one more operation changes what is remembered. -/
theorem remembered_append_iff : Remembered maxAge (past ++ [op]) t ↔
    op = .record t ∨ Remembered maxAge past t ∧ op.Spares maxAge t := by
  constructor
  · rintro ⟨before, since, hEq, hSpared⟩
    rcases List.eq_nil_or_concat' since with rfl | ⟨front, last, rfl⟩
    · obtain ⟨-, hLast⟩ := List.append_inj' hEq rfl
      exact .inl (List.cons.inj hLast).1
    · rw [← List.cons_append, ← List.append_assoc] at hEq
      obtain ⟨hPast, hLast⟩ := List.append_inj' hEq rfl
      rw [(List.cons.inj hLast).1]
      exact .inr ⟨⟨before, front, hPast, fun x hx => hSpared x (List.mem_append_left _ hx)⟩,
        hSpared last (List.mem_append_right _ (List.mem_singleton_self last))⟩
  · rintro (rfl | ⟨⟨before, since, rfl, hSpared⟩, hLast⟩)
    · exact ⟨past, [], rfl, fun _ h => absurd h List.not_mem_nil⟩
    · refine ⟨before, since ++ [op], by rw [List.append_assoc, List.cons_append], fun x hx => ?_⟩
      rcases List.mem_append.1 hx with hx | hx
      · exact hSpared x hx
      · rw [List.mem_singleton.1 hx]
        exact hLast

theorem run_append (past more : List Operation) : ∀ s : ObservedTransitions,
    s.run (past ++ more) =
      ((s.run past).1 ++ ((s.run past).2.run more).1, ((s.run past).2.run more).2) := by
  induction past with
  | nil => exact fun _ => rfl
  | cons op rest ih =>
    intro s
    rw [List.cons_append, run, run]
    dsimp only
    rw [ih, List.cons_append]

/-- The store after some operations, from an empty one. -/
def afterAll (maxAge : Span) (past : List Operation) : ObservedTransitions :=
  ((empty maxAge).run past).2

theorem afterAll_append (past : List Operation) (op : Operation) :
    afterAll maxAge (past ++ [op]) = ((afterAll maxAge past).perform op).2 := by
  rw [afterAll, run_append]
  rfl

theorem maxAge_afterAll (past : List Operation) : (afterAll maxAge past).maxAge = maxAge := by
  induction past using List.reverseRecOn with
  | nil => rfl
  | append_singleton past op ih => rw [afterAll_append, maxAge_perform, ih]

/-- A store holds what is remembered, under its own stop pair, and nothing else. -/
theorem holds_afterAll (past : List Operation) : ∀ {pair : StopPair} {t : Transition},
    (afterAll maxAge past).entries.find? pair = some t ↔
      t.pair = pair ∧ Remembered maxAge past t := by
  induction past using List.reverseRecOn with
  | nil =>
    intro pair t
    refine ⟨nofun, ?_⟩
    rintro ⟨-, before, since, hEq, -⟩
    exact absurd hEq.symm (by simp)
  | append_singleton past op ih =>
    intro pair t
    rw [afterAll_append, find?_perform_iff fun p u h => (ih.1 h).1, ih, maxAge_afterAll,
      remembered_append_iff]
    constructor
    · rintro ⟨hPair, hLast | ⟨⟨-, hHeld⟩, hSpared⟩⟩
      · exact ⟨hPair, .inl hLast⟩
      · exact ⟨hPair, .inr ⟨hHeld, hSpared⟩⟩
    · rintro ⟨hPair, hLast | ⟨hHeld, hSpared⟩⟩
      · exact ⟨hPair, .inl hLast⟩
      · exact ⟨hPair, .inr ⟨⟨hPair, hHeld⟩, hSpared⟩⟩

/-- Each observation is held under its own stop pair. -/
theorem entries_afterAll (past : List Operation) :
    (afterAll maxAge past).entries.entries =
      (afterAll maxAge past).entries.values.map fun t => (t.pair, t) := by
  have hOwn : ∀ e ∈ (afterAll maxAge past).entries.entries, (e.2.pair, e.2) = e := by
    intro e he
    rw [(holds_afterAll past).1 (Table.find?_eq_some_iff.2 he) |>.1]
  rw [Table.values, List.map_map]
  exact (List.map_id _).symm.trans (List.map_congr_left fun e he => (hOwn e he).symm)

theorem nodup_pairs_afterAll (past : List Operation) :
    ((afterAll maxAge past).entries.values.map Transition.pair).Nodup := by
  have hKeys := (afterAll maxAge past).entries.nodup
  rw [entries_afterAll, List.map_map] at hKeys
  exact hKeys

theorem mem_values_afterAll {past : List Operation} :
    t ∈ (afterAll maxAge past).entries.values ↔ Remembered maxAge past t := by
  rw [Table.values, List.mem_map]
  constructor
  · rintro ⟨e, he, rfl⟩
    exact ((holds_afterAll past).1 (Table.find?_eq_some_iff.2 he)).2
  · intro hHeld
    exact ⟨(t.pair, t), Table.find?_eq_some_iff.1 ((holds_afterAll past).2 ⟨rfl, hHeld⟩), rfl⟩

theorem size_sweep (s : ObservedTransitions) (now : Instant) :
    (s.sweep now).size = s.entries.values.countP (s.isFresh now) := by
  rw [Table.values, List.countP_map, List.countP_eq_length_filter]
  rfl

/-- What is answered to an operation after others. -/
theorem answers_perform (past : List Operation) (op : Operation) :
    Answers maxAge past op ((afterAll maxAge past).perform op).1 := by
  have hFresh : ∀ now : Instant, (afterAll maxAge past).isFresh now =
      fun t => decide (now.since t.observedAt ≤ maxAge) := by
    intro now
    unfold isFresh
    rw [maxAge_afterAll]
  cases op with
  | record u => rfl
  | lookup pair now =>
    refine ⟨((afterAll maxAge past).lookup pair now).1, rfl, fun t => ?_⟩
    rw [lookup_fst, Option.filter_eq_some_iff, holds_afterAll, hFresh, decide_eq_true_eq, and_assoc]
  | sweep now =>
    refine ⟨(afterAll maxAge past).entries.values, nodup_pairs_afterAll past,
      fun t => mem_values_afterAll, ?_⟩
    rw [← hFresh now, ← size_sweep, Table.values, List.length_map]
    rfl

theorem length_run (ops : List Operation) :
    ∀ s : ObservedTransitions, (s.run ops).1.length = ops.length := by
  induction ops with
  | nil => exact fun _ => rfl
  | cons op rest ih => exact fun s => congrArg (· + 1) (ih _)

/-- Each answer of a run is that to its operation after the ones before. -/
theorem getElem?_run (ops : List Operation) :
    ∀ {s : ObservedTransitions} {i : Nat} {op : Operation}, ops[i]? = some op →
      (s.run ops).1[i]? = some ((s.run (ops.take i)).2.perform op).1 := by
  induction ops with
  | nil => exact nofun
  | cons first rest ih =>
    intro s i op h
    cases i with
    | zero =>
      cases h
      rfl
    | succ i => exact ih h

/-- The store that some operations leave, and their answers. At most one observation of each stop
pair is held, under the stops of that observation, and it is the one that was recorded last of its
pair, unless it was found expired since. A look-up finds it if it has not expired by the time that
is asked for, and nothing otherwise. A sweep tells how many observations are held, and how many of
them have not expired. -/
theorem recalls_the_last_observation (maxAge : Span) (ops : List Operation) :
    let answers := ((empty maxAge).run ops).1
    let s := ((empty maxAge).run ops).2
    (s.entries.entries = s.entries.values.map (fun t => (t.pair, t)) ∧
      (s.entries.values.map Transition.pair).Nodup ∧
      ∀ t, t ∈ s.entries.values ↔ Remembered maxAge ops t) ∧
    answers.length = ops.length ∧
    ∀ (i : Nat) op, ops[i]? = some op →
      ∃ answer, answers[i]? = some answer ∧ Answers maxAge (ops.take i) op answer := by
  intro answers s
  refine ⟨⟨entries_afterAll ops, nodup_pairs_afterAll ops, fun t => mem_values_afterAll⟩,
    length_run ops _, fun i op h => ?_⟩
  exact ⟨_, getElem?_run ops h, answers_perform (ops.take i) op⟩

end ObservedTransitions

namespace Sample

/-- Travel from one stop to the next, observed some seconds after eight. -/
def observed (origin target : String) (seconds : Nat) : Transition :=
  ⟨origin, target, 250, clock seconds⟩

/-- After ten minutes an observation is found expired, and then not found any more, not even for the
time at which it was made. The next one of its pair is swept before it is asked for. -/
def visits : List ObservedTransitions.Operation := [.record (observed "A" "B" 0),
  .record (observed "B" "C" 300), .lookup ("A", "B") (clock 600), .lookup ("A", "B") (clock 601),
  .lookup ("A", "B") (clock 0), .record (observed "A" "B" 60), .sweep (clock 700),
  .lookup ("A", "B") (clock 60), .lookup ("B", "C") (clock 700)]

end Sample

namespace ObservedTransitions

/-- What is found on these visits. -/
theorem recalls_until_found_expired :
    let answers := ((empty ⟨600000000000⟩).run Sample.visits).1
    answers = [.recorded, .recorded, .found (some (Sample.observed "A" "B" 0)), .found none,
      .found none, .recorded, .swept 2 1, .found none,
      .found (some (Sample.observed "B" "C" 300))] ∧
    (∃ answer, answers[7]? = some answer ∧
      Answers ⟨600000000000⟩ (Sample.visits.take 7) (.lookup ("A", "B") (Sample.clock 60)) answer) ∧
    ∀ t, t ∈ ((empty ⟨600000000000⟩).run Sample.visits).2.entries.values ↔
      Remembered ⟨600000000000⟩ Sample.visits t := by
  intro answers
  obtain ⟨⟨-, -, hHeld⟩, -, hAnswers⟩ :=
    recalls_the_last_observation ⟨600000000000⟩ Sample.visits
  exact ⟨by decide +kernel, hAnswers 7 _ rfl, hHeld⟩

end ObservedTransitions

end TransitForecast

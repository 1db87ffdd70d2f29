import TransitForecast.Proofs.Correlation
import TransitForecast.Proofs.Runs

/-!
# TransitForecast — what becomes of parked batches

Every batch that was parked is still parked, was completed by an answer, or was swept after its
time, and counted. There is one more way: a batch is parked under an id that only tells its vehicle
and the millisecond of its report, and takes the place of a batch that waits under the same id.
Nobody publishes the one that was displaced, and nobody counts it.

A ledger of a run keeps track of all four.

## Results

* `perm_clashing` — what a batch displaces is what waits for the same vehicle and millisecond.
* `Balanced.event` — a ledger that accounts for every parked batch still does after an event.
* `whereabouts_of_parked` — what the ledger of a run shows.
-/

namespace TransitForecast

-- ---------------------------------------------------------------------------
-- Ledgers
-- ---------------------------------------------------------------------------

namespace BatchStore

/-- The numbers of the parked batches. -/
def refs (s : BatchStore) : List BatchRef := s.parked.values.map Parked.batch

/-- The parked batches that another store no longer has. -/
def missing (before after : BatchStore) : List Parked :=
  before.parked.values.filter fun p => p ∉ after.parked.values

/-- The parked batches of the same vehicle and millisecond as another batch. -/
def clashing (s : BatchStore) (b : Batch) : List BatchRef :=
  s.refs.filter fun ref => (s.get? ref).any fun other =>
    other.vehicle = b.vehicle ∧ other.createdAt.epochMillis = b.createdAt.epochMillis

end BatchStore

/-- What has become of the batches that were parked. -/
structure Ledger where
  /-- Every batch that was parked. -/
  parked : List BatchRef
  /-- Those that an answer completed. -/
  published : List BatchRef
  /-- Those that a sweep took out, and when. -/
  expired : List (Parked × Instant)
  /-- Those that were parked when another batch of the same vehicle and millisecond was, with that
  batch. -/
  displaced : List (BatchRef × BatchRef)

namespace Ledger

def empty : Ledger := ⟨[], [], [], []⟩

/-- Enters the batch that was made of a vehicle, if it was parked. -/
def enter (l : Ledger) (before after : BatchStore) (made : BatchRef) : Ledger :=
  match after.get? made with
  | some b =>
    if made ∈ after.refs then
      { l with
        parked := made :: l.parked
        displaced := (before.clashing b).map (fun lost => (lost, made)) ++ l.displaced }
    else l
  | none => l

/-- Enters the batches that are made of vehicles. -/
def vehicles (now : Instant) : Ledger → Engine → List (String × List Deviation) → Ledger
  | l, _, [] => l
  | l, e, (vehicle, deviations) :: rest =>
    match e.handleVehicle vehicle deviations now with
    | (.ok made, after) =>
      vehicles now (made.elim l (l.enter e.batches after.batches)) after rest
    | (.error _, _) => l

/-- Enters what an engine makes of an event. -/
def event (l : Ledger) (e : Engine) : Engine.Event → Ledger
  | .observe _ => l
  | .report r now =>
    l.vehicles now (e.measure fun m => m.count .reportsHandled)
      (Engine.byVehicle (r.deviations.filter fun d => e.settings.allowsRoute d.route))
  | .response r now =>
    match (e.handleResponse r now).1 with
    | .ok (.complete ref) => { l with published := ref :: l.published }
    | _ => l
  | .sweep now =>
    { l with
      expired := (e.batches.missing (e.sweep now).2.batches).map (fun p => (p, now)) ++ l.expired }

/-- The ledger of a run. -/
def ofRun (l : Ledger) (e : Engine) : List Engine.Event → Ledger
  | [] => l
  | event :: rest => ofRun (l.event e event) (e.handle event) rest

end Ledger

-- ---------------------------------------------------------------------------
-- What is parked
-- ---------------------------------------------------------------------------

namespace BatchStore

theorem length_refs (s : BatchStore) : s.refs.length = s.parkedCount := by
  rw [refs, List.length_map, Table.values, List.length_map]
  rfl

theorem lt_length_of_mem_refs {s : BatchStore} (hs : s.Sound) {ref : Nat} (h : ref ∈ s.refs) :
    ref < s.batches.length := by
  obtain ⟨p, hp, rfl⟩ := List.mem_map.1 h
  obtain ⟨⟨id, p⟩, hEntry, rfl⟩ := List.mem_map.1 hp
  obtain ⟨b, hGet, -⟩ := hs.parked (Table.find?_eq_some_iff.2 hEntry)
  exact lt_length_of_get? hGet

/-- The batch under an id, and the others. -/
theorem perm_refs (s : BatchStore) (id : BatchId) :
    s.refs.Perm (((s.parked.find? id).map Parked.batch).toList ++ (s.unpark id).2.refs) := by
  have hPerm := (s.parked.perm_erase id).map fun x => x.2.batch
  rw [List.map_append, ← Option.toList_map, Option.map_map] at hPerm
  simp only [refs, Table.values, List.map_map]
  exact hPerm

/-- The batches that clash with another are those under its id. -/
theorem perm_clashing {s : BatchStore} (hs : s.Sound) {b : Batch} (hb : b.Sound) :
    s.refs.Perm (s.clashing b ++ (s.unpark b.id).2.refs) := by
  -- a batch is parked under its own id, which tells its vehicle and millisecond
  have hClash : ∀ x ∈ s.parked.entries,
      ((s.get? x.2.batch).any fun other => decide (other.vehicle = b.vehicle ∧
        other.createdAt.epochMillis = b.createdAt.epochMillis)) = decide (x.1 = b.id) := by
    intro x hx
    obtain ⟨other, hGet, hId⟩ := hs.parked (Table.find?_eq_some_iff.2 hx)
    rw [hGet, Option.any_some, ← hId, (hs.batches hGet).id, hb.id, decide_eq_decide]
    exact BatchId.make_inj.symm
  have hOthers : s.refs.filter (fun ref => !(s.get? ref).any fun other =>
      decide (other.vehicle = b.vehicle ∧
        other.createdAt.epochMillis = b.createdAt.epochMillis)) = (s.unpark b.id).2.refs := by
    simp only [refs, Table.values, List.map_map, List.filter_map]
    congr 1
    refine List.filter_congr fun x hx => ?_
    simp only [Function.comp, hClash x hx, ne_eq, decide_not]
  rw [← hOthers]
  exact (List.filter_append_perm _ _).symm

theorem values_sweep (s : BatchStore) (now : Instant) :
    (s.sweep now).parked.values = s.parked.values.filter fun p => now ≤ p.expiresAt := by
  rw [Table.values, Table.values, List.filter_map]
  rfl

/-- A sweep takes out the batches whose time is over. -/
theorem missing_sweep (s : BatchStore) (now : Instant) :
    s.missing (s.sweep now) = s.parked.values.filter fun p => !decide (now ≤ p.expiresAt) := by
  rw [missing, values_sweep]
  refine List.filter_congr fun p hp => ?_
  rw [← decide_not, decide_eq_decide, List.mem_filter, decide_eq_true_eq]
  exact not_congr (and_iff_right hp)

/-- What a sweep takes out, and the others. -/
theorem perm_missing_sweep (s : BatchStore) (now : Instant) :
    s.refs.Perm ((s.missing (s.sweep now)).map (fun p => p.batch) ++ (s.sweep now).refs) := by
  rw [missing_sweep, refs, refs, values_sweep, ← List.map_append]
  refine List.Perm.map _ ?_
  exact (List.filter_append_perm _ _).symm.trans List.perm_append_comm

end BatchStore

-- ---------------------------------------------------------------------------
-- Balance
-- ---------------------------------------------------------------------------

namespace Ledger

/-- What a ledger shows of a store, and of the number of batches that were counted as expired. -/
structure Balanced (l : Ledger) (s : BatchStore) (counted : Nat) : Prop where
  reachable : s.Reachable
  nodup : l.parked.Nodup
  known : ∀ ref ∈ l.parked, ref < s.batches.length
  whereabouts : l.parked.Perm
    (s.refs ++ l.published ++ l.expired.map (fun x => x.1.batch) ++ l.displaced.map Prod.fst)
  late : ∀ x ∈ l.expired, x.1.expiresAt < x.2
  counted : counted = l.expired.length

section Balanced

variable {l : Ledger} {s s' : BatchStore} {counted : Nat}

/-- Nothing is entered where nothing is parked or taken out. -/
theorem Balanced.of_refs_eq (h : l.Balanced s counted) (hReachable : s'.Reachable)
    (hRefs : s'.refs = s.refs) (hLength : s.batches.length ≤ s'.batches.length) :
    l.Balanced s' counted where
  reachable := hReachable
  nodup := h.nodup
  known ref hRef := Nat.lt_of_lt_of_le (h.known ref hRef) hLength
  whereabouts := hRefs ▸ h.whereabouts
  late := h.late
  counted := h.counted

theorem Balanced.vehicle (h : l.Balanced s counted) {vehicle : String} {now : Instant}
    {made : Option BatchRef} (hEffect : Engine.VehicleEffect s vehicle now (.ok made) s') :
    (made.elim l (l.enter s s')).Balanced s' counted := by
  have hReachable := hEffect.reachable h.reachable
  -- numbers are given out in order, so the next one is not parked yet
  have hNew : s.batches.length ∉ s.refs := fun hMem =>
    Nat.lt_irrefl _ (BatchStore.lt_length_of_mem_refs h.reachable.sound hMem)
  generalize hResult : (.ok made : Except Halt (Option BatchRef)) = result at hEffect
  cases hEffect with
  | halted => cases hResult
  | nothing =>
    cases hResult
    exact h
  | @claimed b hBuilt _ hPending =>
    cases hResult
    have hGet := s.get?_add_self b
    rw [BatchStore.claim_eq hGet] at hReachable ⊢
    have hNothing : l.enter s ((s.add b).2.set s.batches.length { b with published := true })
        s.batches.length = l := by
      rw [enter, BatchStore.get?_set_self hGet]
      exact if_neg hNew
    rw [Option.elim_some, hNothing]
    refine h.of_refs_eq hReachable rfl ?_
    simp only [BatchStore.set, BatchStore.add, List.length_set, List.length_append]
    omega
  | @parked b expiresAt _ hBuilt _ hPending hPark =>
    cases hResult
    obtain ⟨-, rfl⟩ := BatchStore.park_eq_ok_iff.1 hPark
    have hEntered : l.enter s { (s.add b).2 with
        parked := (s.add b).2.parked.insert b.id ⟨s.batches.length, expiresAt⟩ }
        s.batches.length =
        { l with
          parked := s.batches.length :: l.parked
          displaced :=
            (s.clashing b).map (fun lost => (lost, s.batches.length)) ++ l.displaced } := by
      rw [enter, BatchStore.get?, show _[s.batches.length]? = some b from s.get?_add_self b]
      exact if_pos (List.mem_cons_self ..)
    rw [Option.elim_some, hEntered]
    refine ⟨hReachable, ?_, ?_, ?_, h.late, h.counted⟩
    · rw [List.nodup_cons]
      exact ⟨fun hMem => Nat.lt_irrefl _ (h.known _ hMem), h.nodup⟩
    · intro ref hRef
      simp only [BatchStore.add, List.length_append, List.length_singleton]
      rcases List.mem_cons.1 hRef with rfl | hOld
      · exact Nat.lt_succ_self _
      · exact Nat.lt_succ_of_lt (h.known ref hOld)
    · -- what leaves the parked batches is what the new one displaces
      have hClash := BatchStore.perm_clashing h.reachable.sound hBuilt.fresh.sound
      have hWhereabouts := h.whereabouts
      show List.Perm _ (s.batches.length :: (s.unpark b.id).2.refs ++ _ ++ _ ++ _)
      rw [List.perm_iff_count] at hClash hWhereabouts ⊢
      intro ref
      have hClash := hClash ref
      have hWhereabouts := hWhereabouts ref
      simp only [List.count_append, List.count_cons, List.map_append, List.map_map,
        Function.comp_def, List.map_id'] at hClash hWhereabouts ⊢
      omega
  | unparked hBuilt => cases hResult

/-- A vehicle whose handling halts parks nothing. -/
theorem Balanced.halt (h : l.Balanced s counted) {vehicle : String} {now : Instant} {halt : Halt}
    (hEffect : Engine.VehicleEffect s vehicle now (.error halt) s') : l.Balanced s' counted := by
  have hReachable := hEffect.reachable h.reachable
  cases hEffect with
  | halted => exact h
  | unparked hBuilt => exact h.of_refs_eq hReachable rfl (by simp [BatchStore.add])

/-- A batch that an answer completes is no longer parked. -/
theorem Balanced.response (h : l.Balanced s counted) (r : InferenceResponse) (now : Instant) :
    (match (s.apply r now).1 with
      | .ok (.complete ref) => { l with published := ref :: l.published }
      | _ => l).Balanced (s.apply r now).2 counted := by
  have hReachable := Engine.reachable_apply h.reachable r now
  rcases BatchStore.apply_cases h.reachable.sound r now with ⟨error, hError⟩ |
    ⟨c, seconds, ref, b, b', -, hFind, hGet, hb', ⟨-, hApply⟩ | ⟨-, hApply⟩⟩
  · rw [hError]
    exact h
  · rw [hApply] at hReachable ⊢
    exact h.of_refs_eq hReachable rfl (by simp [BatchStore.set])
  · rw [hApply] at hReachable ⊢
    obtain ⟨p, hFound, -, rfl⟩ := BatchStore.find_eq_ok_iff.1 hFind
    refine ⟨hReachable, h.nodup, ?_, ?_, h.late, h.counted⟩
    · intro ref hRef
      simpa [BatchStore.unpark, BatchStore.set] using h.known ref hRef
    · -- what leaves the parked batches is the one that was completed
      have hRefs := s.perm_refs c.batch
      have hWhereabouts := h.whereabouts
      rw [hFound] at hRefs
      rw [List.perm_iff_count] at hRefs hWhereabouts ⊢
      intro ref
      have hRefs := hRefs ref
      have hWhereabouts := hWhereabouts ref
      simp only [List.count_append, List.count_cons, List.count_nil, Option.map_some,
        Option.toList_some] at hRefs hWhereabouts ⊢
      show _ = List.count ref (s.unpark c.batch).2.refs + _ + _ + _
      omega

/-- A batch that is swept was due, and is counted. -/
theorem Balanced.sweep (h : l.Balanced s counted) (now : Instant) :
    { l with expired := (s.missing (s.sweep now)).map (fun p => (p, now)) ++ l.expired }.Balanced
      (s.sweep now) (counted + (s.parkedCount - (s.sweep now).parkedCount)) := by
  have hRefs := s.perm_missing_sweep now
  refine ⟨h.reachable.next (.sweep s now), h.nodup, h.known, ?_, ?_, ?_⟩
  · have hWhereabouts := h.whereabouts
    rw [List.perm_iff_count] at hRefs hWhereabouts ⊢
    intro ref
    have hRefs := hRefs ref
    have hWhereabouts := hWhereabouts ref
    simp only [List.count_append, List.map_append, List.map_map, Function.comp_def]
      at hRefs hWhereabouts ⊢
    omega
  · intro x hx
    rcases List.mem_append.1 hx with hNew | hOld
    · obtain ⟨p, hp, rfl⟩ := List.mem_map.1 hNew
      rw [BatchStore.missing_sweep, List.mem_filter] at hp
      have hLate : ¬ now ≤ p.expiresAt := by simpa using hp.2
      exact Decidable.not_not.1 hLate
    · exact h.late x hOld
  · have hLength := hRefs.length_eq
    rw [List.length_append, List.length_map, BatchStore.length_refs, BatchStore.length_refs]
      at hLength
    rw [List.length_append, List.length_map, h.counted, hLength]
    omega

end Balanced

-- ---------------------------------------------------------------------------
-- Runs
-- ---------------------------------------------------------------------------

theorem balanced_empty (lifetime : Span) : empty.Balanced (.empty lifetime) 0 :=
  ⟨.empty lifetime, List.nodup_nil, by simp [empty], .refl _, by simp [empty], rfl⟩

theorem Balanced.vehicles (now : Instant) (vehicles : List (String × List Deviation)) :
    ∀ {l : Ledger} {e : Engine}, l.Balanced e.batches e.core.expired →
      (l.vehicles now e vehicles).Balanced (e.handleVehicles now vehicles).2.batches
        (e.handleVehicles now vehicles).2.core.expired := by
  induction vehicles with
  | nil =>
    intro l e h
    exact h
  | cons x rest ih =>
    intro l e h
    obtain ⟨vehicle, deviations⟩ := x
    obtain ⟨s', hCore, hEffect⟩ := e.vehicleEffect_handleVehicle vehicle deviations now
    unfold Ledger.vehicles Engine.handleVehicles
    rcases hOne : e.handleVehicle vehicle deviations now with ⟨halt | made, e₁⟩
    · rw [hOne] at hCore hEffect
      have hStore : e₁.batches = s' := congrArg Engine.Core.batches hCore
      have hExpired := congrArg Engine.Core.expired hCore
      dsimp only at hExpired ⊢
      rw [hStore, hExpired]
      exact h.halt hEffect
    · rw [hOne] at hCore hEffect
      have hStore : e₁.batches = s' := congrArg Engine.Core.batches hCore
      have hExpired := congrArg Engine.Core.expired hCore
      dsimp only at hExpired
      subst hStore
      have hRest := ih (l := made.elim l (l.enter e.batches e₁.batches)) (e := e₁)
        (hExpired ▸ h.vehicle hEffect)
      dsimp only
      rcases hMore : e₁.handleVehicles now rest with ⟨halt | more, e₂⟩
      · rw [hMore] at hRest
        exact hRest
      · rw [hMore] at hRest
        exact hRest

theorem Balanced.event {l : Ledger} {e : Engine} (h : l.Balanced e.batches e.core.expired)
    (event : Engine.Event) :
    (l.event e event).Balanced (e.handle event).batches (e.handle event).core.expired := by
  cases event with
  | observe ts => exact h
  | report r now =>
    have hCounted : (e.measure fun m => m.count .reportsHandled).core = e.core :=
      e.core_add (by simp) 1
    have hVehicles := Balanced.vehicles now
      (Engine.byVehicle (r.deviations.filter fun d => e.settings.allowsRoute d.route))
      (l := l) (e := e.measure fun m => m.count .reportsHandled)
      (hCounted ▸ h)
    have hReport := e.core_handleReport r now
    have hStore : (e.handleReport r now).2.batches = _ := congrArg Engine.Core.batches hReport
    have hExpired := congrArg Engine.Core.expired hReport
    rw [Engine.handle, hStore, hExpired]
    exact hVehicles
  | response r now =>
    obtain ⟨hOutcome, hCore⟩ := e.core_handleResponse r now
    have hExpired := congrArg Engine.Core.expired hCore
    rw [Engine.handle, Ledger.event, hOutcome, Engine.batches_handleResponse, hExpired]
    exact h.response r now
  | sweep now =>
    have hExpired := congrArg Engine.Core.expired (e.core_sweep now)
    rw [Engine.handle, hExpired]
    exact h.sweep now

/-- A ledger that balances goes on to. -/
theorem Balanced.ofRun (events : List Engine.Event) :
    ∀ {l : Ledger} {e : Engine}, l.Balanced e.batches e.core.expired →
      (l.ofRun e events).Balanced (e.run events).batches (e.run events).core.expired := by
  induction events with
  | nil =>
    intro l e h
    exact h
  | cons event rest ih =>
    intro l e h
    exact ih (h.event event)

/-- Each batch that was parked is still parked, or was completed by an answer, or was swept after
its time and counted, or was displaced by another of the same vehicle and millisecond; and only one
of these. So none is lost iff none was displaced. -/
theorem whereabouts_of_parked {settings : EngineSettings} {timetable : Timetable}
    {models : ModelRegistry} {holidays : Holidays} {refusedTrips : List String} {wall : Instant}
    {e : Engine}
    (hStart : Engine.start? settings timetable models holidays refusedTrips wall = some e)
    (events : List Engine.Event) :
    (empty.ofRun e events).parked.Nodup ∧
    (empty.ofRun e events).parked.Perm ((e.run events).batches.refs ++
      (empty.ofRun e events).published ++
      (empty.ofRun e events).expired.map (fun x => x.1.batch) ++
      (empty.ofRun e events).displaced.map Prod.fst) ∧
    (∀ x ∈ (empty.ofRun e events).expired, x.1.expiresAt < x.2) ∧
    (e.run events).metrics.get .batchesExpired = (empty.ofRun e events).expired.length ∧
    ((empty.ofRun e events).parked.length = (e.run events).batches.parkedCount +
      (empty.ofRun e events).published.length + (e.run events).metrics.get .batchesExpired ↔
      (empty.ofRun e events).displaced = []) := by
  have hCore := Engine.core_start hStart
  have hStore : e.batches = .empty settings.batchLifetime := congrArg Engine.Core.batches hCore
  have hExpired : e.core.expired = 0 := congrArg Engine.Core.expired hCore
  have h : (empty.ofRun e events).Balanced (e.run events).batches (e.run events).core.expired :=
    Balanced.ofRun events (by rw [hStore, hExpired]; exact balanced_empty _)
  have hCounted : (e.run events).metrics.get .batchesExpired =
      (empty.ofRun e events).expired.length := h.counted
  refine ⟨h.nodup, h.whereabouts, h.late, hCounted, ?_⟩
  have hLength := h.whereabouts.length_eq
  rw [List.length_append, List.length_append, List.length_append, List.length_map, List.length_map,
    BatchStore.length_refs] at hLength
  rw [← List.length_eq_zero_iff, hCounted]
  omega

/-- A report and the answers to both of its requests. -/
def answered : List Engine.Event :=
  [.report ⟨[], [Sample.deviation]⟩ (Sample.clock 0),
    .response (Sample.answer 7 120) (Sample.clock 1),
    .response (Sample.answer 8 90.5) (Sample.clock 2)]

/-- Nothing is lost after a report and its answers. -/
theorem whereabouts_of_answered : (empty.ofRun Sample.engine answered).parked.length =
    (Sample.engine.run answered).batches.parkedCount +
      (empty.ofRun Sample.engine answered).published.length +
      (Sample.engine.run answered).metrics.get .batchesExpired := by
  have hStart : Sample.engine? = some Sample.engine := (Option.some_get _).symm
  exact (whereabouts_of_parked hStart answered).2.2.2.2.2 (by decide +kernel)

/-- A report that comes twice. -/
def reportedTwice : List Engine.Event :=
  [.report ⟨[], [Sample.deviation]⟩ (Sample.clock 0),
    .report ⟨[], [Sample.deviation]⟩ (Sample.clock 1)]

/-- The first batch of a report that comes twice is lost. -/
theorem lost_when_reported_twice :
    (empty.ofRun Sample.engine reportedTwice).parked = [1, 0] ∧
      (Sample.engine.run reportedTwice).batches.refs = [1] ∧
      (empty.ofRun Sample.engine reportedTwice).published = [] ∧
      (Sample.engine.run reportedTwice).metrics.get .batchesExpired = 0 := by
  decide +kernel

end Ledger

end TransitForecast

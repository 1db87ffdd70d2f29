import TransitForecast.Proofs.Batches

/-!
# TransitForecast — reachable batch stores

What can become of a store of batches when any number of handlers work on it, each of whose steps is
atomic: batches are added, parked, answered, claimed, taken out and swept. A batch is parked
only while it awaits something, and claimed only once it awaits nothing.

## Results

* `find_eq_ok_iff`, `park_eq_ok_iff`, `answer_eq_ok_iff`, `claim_eq` — what each step does.
* `Step.sound`, `Reachable.sound` — reachable stores are sound: published batches await nothing, and
  a batch is parked under its own id.
-/

namespace TransitForecast

/-- A batch as some engine builds it for a vehicle. -/
def Batch.IsBuilt (b : Batch) : Prop :=
  ∃ (e : Engine) (vehicle : String) (deviations : List Deviation),
    (e.predictVehicle vehicle deviations).1 = .ok (some b)

theorem Batch.IsBuilt.fresh {b : Batch} (h : b.IsBuilt) : b.Fresh := by
  obtain ⟨e, vehicle, deviations, hBuilt⟩ := h
  exact (Engine.fresh_predictVehicle hBuilt).1

namespace BatchStore

-- ---------------------------------------------------------------------------
-- Single steps
-- ---------------------------------------------------------------------------

section Steps

variable {s s' : BatchStore} {ref : Nat} {b : Batch} {id : BatchId} {now : Instant}

theorem lt_length_of_get? (h : s.get? ref = some b) : ref < s.batches.length :=
  (List.getElem?_eq_some_iff.1 h).1

theorem get?_add (s : BatchStore) (b : Batch) (r : Nat) :
    (s.add b).2.get? r = if r = s.batches.length then some b else s.get? r := by
  show (s.batches ++ [b])[r]? = _
  rw [List.getElem?_append]
  split
  · rw [if_neg (by omega)]
    rfl
  · split
    · rename_i hEq
      rw [hEq, Nat.sub_self]
      rfl
    · rename_i hOld hNew
      rw [get?, List.getElem?_eq_none (by simp only [List.length_singleton]; omega),
        List.getElem?_eq_none (by omega)]

theorem get?_add_self (s : BatchStore) (b : Batch) :
    (s.add b).2.get? s.batches.length = some b := by
  rw [get?_add, if_pos rfl]

theorem get?_set (h : s.get? ref = some b) (b' : Batch) (r : Nat) :
    (s.set ref b').get? r = if r = ref then some b' else s.get? r := by
  show (s.batches.set ref b')[r]? = _
  have hBound := lt_length_of_get? h
  rw [List.getElem?_set]
  by_cases hr : r = ref
  · rw [if_pos hr.symm, if_pos hr, if_pos (hr ▸ hBound)]
  · rw [if_neg (fun hEq => hr hEq.symm), if_neg hr]
    rfl

theorem get?_set_self (h : s.get? ref = some b) (b' : Batch) :
    (s.set ref b').get? ref = some b' := by
  rw [get?_set h, if_pos rfl]

theorem get?_set_of_ne (h : s.get? ref = some b) (b' : Batch) {r : Nat} (hr : r ≠ ref) :
    (s.set ref b').get? r = s.get? r := by
  rw [get?_set h, if_neg hr]

/-- A live batch is found under its id. -/
theorem find_eq_ok_iff :
    s.find id now = .ok ref ↔
      ∃ p, s.parked.find? id = some p ∧ now ≤ p.expiresAt ∧ p.batch = ref := by
  unfold find
  cases hFound : s.parked.find? id with
  | none => simp
  | some p =>
    dsimp only
    split
    · simp_all
    · simp_all

/-- What parking does, when it succeeds. -/
theorem park_eq_ok_iff {expiresAt : Instant} :
    s.park ref b now = .ok (expiresAt, s') ↔
      now.shift? s.lifetime = some expiresAt ∧
        s' = { s with parked := s.parked.insert b.id ⟨ref, expiresAt⟩ } := by
  unfold park
  cases hShift : now.shift? s.lifetime with
  | none => simp
  | some t =>
    simp only [Except.ok.injEq, Prod.mk.injEq, Option.some.injEq]
    constructor
    · rintro ⟨rfl, rfl⟩
      exact ⟨rfl, rfl⟩
    · rintro ⟨rfl, rfl⟩
      exact ⟨rfl, rfl⟩

/-- An answer changes the batch that it is for. -/
theorem answer_eq_ok_iff {c : CorrelationId} {seconds : Float} :
    s.answer ref c seconds = .ok s' ↔
      ∃ b b', s.get? ref = some b ∧ b.answer c seconds = .ok b' ∧ s' = s.set ref b' := by
  unfold answer
  cases hGet : s.get? ref with
  | none => simp
  | some b =>
    dsimp only
    cases hAnswer : b.answer c seconds with
    | error error =>
      constructor
      · intro h
        cases h
      · rintro ⟨x, b', hx, hb', -⟩
        cases hx
        rw [hAnswer] at hb'
        cases hb'
    | ok answered =>
      constructor
      · intro h
        cases h
        exact ⟨b, answered, rfl, hAnswer, rfl⟩
      · rintro ⟨x, b', hx, hb', rfl⟩
        cases hx
        rw [hAnswer] at hb'
        cases hb'
        rfl

theorem remaining_eq (h : s.get? ref = some b) : s.remaining ref = b.pending := by
  rw [remaining, h]
  rfl

/-- A claim succeeds on a batch that is not published, and leaves it published. -/
theorem claim_eq (h : s.get? ref = some b) :
    s.claim ref = (!b.published, s.set ref { b with published := true }) := by
  rw [claim, h]
  rfl

theorem claim_of_none (h : s.get? ref = none) : s.claim ref = (false, s) := by
  rw [claim, h]

end Steps

-- ---------------------------------------------------------------------------
-- Reachable stores
-- ---------------------------------------------------------------------------

/-- The atomic steps of the handlers that share a store. -/
inductive Step : BatchStore → BatchStore → Prop
  | add {s : BatchStore} {b : Batch} : b.IsBuilt → Step s (s.add b).2
  | park {s s' : BatchStore} {ref : BatchRef} {b : Batch} {now expiresAt : Instant} :
    s.get? ref = some b → b.pending ≠ 0 → s.park ref b now = .ok (expiresAt, s') → Step s s'
  | answer {s s' : BatchStore} {ref : BatchRef} {c : CorrelationId} {seconds : Float} :
    s.answer ref c seconds = .ok s' → Step s s'
  | claim {s : BatchStore} {ref : BatchRef} : s.remaining ref = 0 → Step s (s.claim ref).2
  | unpark (s : BatchStore) (id : BatchId) : Step s (s.unpark id).2
  | sweep (s : BatchStore) (now : Instant) : Step s (s.sweep now)

/-- The stores that come about from an empty one. -/
inductive Reachable : BatchStore → Prop
  | empty (lifetime : Span) : Reachable (.empty lifetime)
  | next {s s' : BatchStore} : Reachable s → Step s s' → Reachable s'

/-- What holds of every reachable store. -/
structure Sound (s : BatchStore) : Prop where
  batches : ∀ {ref b}, s.get? ref = some b → b.Sound
  /-- Only batches that await nothing are published. -/
  published : ∀ {ref b}, s.get? ref = some b → b.published = true → b.pending = 0
  /-- A batch is parked under its own id. -/
  parked : ∀ {id p}, s.parked.find? id = some p → ∃ b, s.get? p.batch = some b ∧ b.id = id

theorem sound_empty (lifetime : Span) : (empty lifetime).Sound where
  batches h := by simp [get?, empty] at h
  published h := by simp [get?, empty] at h
  parked h := by simp [empty] at h

theorem Sound.add {s : BatchStore} (hs : s.Sound) {b : Batch} (hb : b.Fresh) :
    (s.add b).2.Sound where
  batches := by
    intro ref b' h
    rw [get?_add] at h
    split at h
    · cases h
      exact hb.sound
    · exact hs.batches h
  published := by
    intro ref b' h hPublished
    rw [get?_add] at h
    split at h
    · cases h
      rw [hb.unpublished] at hPublished
      cases hPublished
    · exact hs.published h hPublished
  parked := by
    intro id p h
    obtain ⟨b', hGet, hId⟩ := hs.parked h
    refine ⟨b', ?_, hId⟩
    have := lt_length_of_get? hGet
    rw [get?_add, if_neg (by omega), hGet]

/-- A batch may be replaced by one with the same id. -/
theorem Sound.set {s : BatchStore} (hs : s.Sound) {ref : BatchRef} {b b' : Batch}
    (hGet : s.get? ref = some b) (hSound : b'.Sound)
    (hPublished : b'.published = true → b'.pending = 0) (hId : b'.id = b.id) :
    (s.set ref b').Sound where
  batches := by
    intro r x h
    rw [get?_set hGet] at h
    split at h
    · cases h
      exact hSound
    · exact hs.batches h
  published := by
    intro r x h
    rw [get?_set hGet] at h
    split at h
    · cases h
      exact hPublished
    · exact hs.published h
  parked := by
    intro id p h
    obtain ⟨x, hx, hxId⟩ := hs.parked h
    rw [get?_set hGet]
    split
    · rename_i hr
      rw [hr, hGet] at hx
      cases hx
      exact ⟨b', rfl, hId.trans hxId⟩
    · exact ⟨x, hx, hxId⟩

/-- Parked batches may be taken out. -/
theorem Sound.of_parked {s : BatchStore} (hs : s.Sound) {parked : Table BatchId Parked}
    (h : ∀ {id p}, parked.find? id = some p → s.parked.find? id = some p) :
    { s with parked := parked : BatchStore }.Sound where
  batches := hs.batches
  published := hs.published
  parked hFound := hs.parked (h hFound)

theorem find?_unpark (s : BatchStore) (id id' : BatchId) :
    (s.unpark id).2.parked.find? id' = if id' = id then none else s.parked.find? id' :=
  Table.find?_erase _ _ _

theorem find?_sweep (s : BatchStore) (now : Instant) (id : BatchId) :
    (s.sweep now).parked.find? id =
      (s.parked.find? id).filter fun p => decide (now ≤ p.expiresAt) :=
  Table.find?_filter _ _ _

/-- No step breaks a sound store. -/
theorem Step.sound {s s' : BatchStore} (h : Step s s') (hs : s.Sound) : s'.Sound := by
  cases h with
  | add hBuilt => exact hs.add hBuilt.fresh
  | @park _ ref b now expiresAt hGet hPending hPark =>
    obtain ⟨-, rfl⟩ := park_eq_ok_iff.1 hPark
    refine ⟨hs.batches, hs.published, ?_⟩
    intro id p hFound
    rw [Table.find?_insert] at hFound
    split at hFound
    · cases hFound
      exact ⟨b, hGet, ‹id = b.id›.symm⟩
    · exact hs.parked hFound
  | answer hAnswer =>
    obtain ⟨b, b', hGet, hb', rfl⟩ := answer_eq_ok_iff.1 hAnswer
    have hPending := Batch.pending_answer hb'
    have hSound := Batch.sound_answer (hs.batches hGet) hb'
    obtain ⟨front, p, back, p', -, -, -, -, rfl⟩ := Batch.answer_eq_ok_iff.1 hb'
    refine hs.set hGet hSound (fun hPublished => ?_) rfl
    -- a published batch awaits nothing, so nothing of it can be answered
    have := hs.published hGet hPublished
    omega
  | @claim ref hRemaining =>
    cases hGet : s.get? ref with
    | none =>
      rw [claim_of_none hGet]
      exact hs
    | some b =>
      rw [remaining_eq hGet] at hRemaining
      rw [claim_eq hGet]
      exact hs.set hGet (hs.batches hGet).claim (fun _ => hRemaining) rfl
  | unpark id =>
    refine hs.of_parked fun {id' p} hFound => ?_
    rw [Table.find?_erase] at hFound
    split at hFound
    · cases hFound
    · exact hFound
  | sweep now =>
    refine hs.of_parked fun {id p} hFound => ?_
    rw [Table.find?_filter, Option.filter_eq_some_iff] at hFound
    exact hFound.1

/-- Reachable stores are sound. -/
theorem Reachable.sound {s : BatchStore} (h : s.Reachable) : s.Sound := by
  induction h with
  | empty lifetime => exact sound_empty lifetime
  | next _ hStep ih => exact hStep.sound ih

end BatchStore

-- ---------------------------------------------------------------------------
-- A sample
-- ---------------------------------------------------------------------------

namespace Sample

/-- Some seconds after eight in the morning in Los Angeles, within the hour. -/
def clock (seconds : Nat) : Instant :=
  ⟨1709654400 + (seconds % 3600 : Nat), 0, by omega, Instant.epoch.nanos_lt⟩

/-- A stop that is served some seconds after eight. -/
def stop (id : String) (order seconds : Nat) (timepoint : Bool) : Stop :=
  ⟨id, order, 28800 + seconds, 28800 + seconds, 0, timepoint, clock seconds, clock seconds⟩

/-- A trip of two segments. -/
def trip : Trip := ⟨1, "t1", "R1", [stop "A" 1 0 true, stop "B" 2 300 false, stop "C" 3 600 true,
  stop "D" 4 900 false, stop "E" 5 1200 true]⟩

def model (id : Int) (name : String) : TravelModel := ⟨id, 3, name, true, 90, 40, 0, 0, 0⟩

/-- Los Angeles in winter, eight hours behind UTC. -/
def losAngeles : Zone := ⟨"America/Los_Angeles", fun _ => -28800⟩

/-- A table with nothing but Los Angeles. -/
def zones : ZoneTable := fun name => if name = losAngeles.name then some losAngeles else none

def settings : EngineSettings where
  instanceName := "sample"
  subjects := .default
  trust := .default
  earlySeconds := 60
  horizonMinutes := 60
  buckets := 1
  routes := []
  predictorLifetime := ⟨1800000000000⟩
  batchLifetime := ⟨30000000000⟩
  transitionMaxAge := ⟨1800000000000⟩
  zone := losAngeles

/-- An engine with a model for each segment of the trip. -/
def engine? : Option Engine :=
  Engine.start? settings (.ofList [trip]) (.ofModels [model 7 "A_B_C", model 8 "C_D_E"]) ⟨[]⟩ []
    (clock 0)

def engine : Engine := engine?.get (by decide +kernel)

/-- A vehicle at the first stop of the trip. -/
def deviation : Deviation := ⟨1, "t1", "R1", "V1", clock 0, 0, 0⟩

def batch? : Option Batch := (engine.predictVehicle "V1" [deviation]).1.toOption.join

/-- A batch of one trip with two requests. -/
def batch : Batch := batch?.get (by decide +kernel)

/-- The sample engine builds the sample batch. -/
theorem predictVehicle_batch :
    (engine.predictVehicle "V1" [deviation]).1 = .ok (some batch) := by
  have hSome : batch? = some batch := (Option.some_get _).symm
  rw [batch?, Option.join_eq_some_iff] at hSome
  cases hResult : (engine.predictVehicle "V1" [deviation]).1 with
  | error halt =>
    rw [hResult] at hSome
    cases hSome
  | ok made =>
    rw [hResult] at hSome
    cases hSome
    rfl

theorem isBuilt_batch : batch.IsBuilt := ⟨engine, "V1", [deviation], predictVehicle_batch⟩

/-- The store in which the batch is parked for thirty seconds. -/
def store : BatchStore :=
  { lifetime := settings.batchLifetime
    batches := [batch]
    parked := .insert .empty batch.id ⟨0, clock 30⟩ }

theorem reachable_store : store.Reachable := by
  have hAdded := BatchStore.Reachable.next (.empty settings.batchLifetime) (.add isBuilt_batch)
  have hPark : ((BatchStore.empty settings.batchLifetime).add batch).2.park 0 batch (clock 0) =
      .ok (clock 30, store) :=
    BatchStore.park_eq_ok_iff.2 ⟨by decide +kernel, rfl⟩
  exact .next hAdded (.park rfl (by decide +kernel) hPark)

/-- The answer to one of the requests. -/
def answer (model : Int) (seconds : Float) : InferenceResponse :=
  ⟨"V1_1709654400000-t1-" ++ toString model ++ "-3", some seconds, none⟩

end Sample

end TransitForecast

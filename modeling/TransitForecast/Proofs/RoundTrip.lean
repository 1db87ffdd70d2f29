import TransitForecast.Engine.Listening
import TransitForecast.Proofs.Rounding
import TransitForecast.Proofs.Timestamps
import TransitForecast.Wire.Inference
import TransitForecast.Wire.Status

/-!
# TransitForecast — messages without fractions are read back

Apart from trip updates the messages that hold no floating point number are the view of a batch, the
subjects, the report of a sweep, the status of an engine and the answers to the two probes. Whatever
text one of them is read from (an object or an array, with times of any offset, with escapes, with
members that are skipped) it is read again from what is written for it. So what one engine makes of
a message is what the next one gets, if the message is passed on.

The parts of a health report are the only members whose order is not that of a record. They are kept
ordered by name as they are read, so they are in order when they are written, and each is put behind
the ones before it when they are read again.

## Results

* `stable_batchSummary`, `stable_subjects`, `stable_sweep`, `stable_status`, `stable_health`,
  `stable_readiness` — each of these messages is kept.
* `published_and_read_back` — what is published of a trip is read with its times rounded down, and
  every message that was read is read again.
-/

namespace TransitForecast

open Json (ReadsAs Stable Whole Reader)
open Json.FieldReader (required_object withDefault_object optionalTail_object optionalTail_ofOption
  optional_members record_object of_required of_record kept_of_required kept_of_optional
  kept_of_optionalTail)
open Decimal (int64 nat32 nat64)

-- ---------------------------------------------------------------------------
-- Records
-- ---------------------------------------------------------------------------

namespace Wire

theorem whole_nat64 : Whole nat64.lo ∧ Whole nat64.hi := by
  unfold Whole
  decide

theorem readInstant_string (s : String) : readInstant (.string s) = Instant.ofText? s := rfl

theorem stable_instant : Stable writeInstant readInstant := by
  intro j t h
  obtain ⟨s, -, hText⟩ := Option.bind_eq_some_iff.1 h
  refine ⟨.string _, ?_⟩
  rw [writeInstant, readInstant_string]
  exact Instant.ofText?_text (Instant.leapsAtMinute_of_ofText? hText)

theorem stable_nat64 : Stable (fun n : Nat => .int n) (Reader.nat nat64) :=
  Json.stable_nat whole_nat64 rfl

theorem stable_batchSummary : Stable writeBatchSummary readBatchSummary := by
  intro j b h
  obtain ⟨_, _, h⟩ := of_record h
  obtain ⟨batch, _, -, h⟩ := bind_eq_some h
  obtain ⟨vehicle, _, -, h⟩ := bind_eq_some h
  obtain ⟨createdAt, _, hCreated, h⟩ := bind_eq_some h
  obtain ⟨expiresAt, _, hExpires, h⟩ := bind_eq_some h
  obtain ⟨trips, _, hTrips, h⟩ := bind_eq_some h
  obtain ⟨requests, _, hRequests, h⟩ := bind_eq_some h
  obtain ⟨pending, _, hPending, h⟩ := bind_eq_some h
  cases h
  have hCreated := kept_of_required stable_instant hCreated
  have hExpires := kept_of_optional stable_instant hExpires
  have hTrips := kept_of_required Json.stable_string.list hTrips
  have hRequests := kept_of_required stable_nat64 hRequests
  have hPending := kept_of_required stable_nat64 hPending
  refine ⟨?_, record_object ?_⟩
  · have hExpiry := Json.printable_ofOption fun t ht => (hExpires t ht).printable
    simp [writeBatchSummary, hCreated.printable, hExpiry, hTrips.printable, hRequests.printable,
      hPending.printable]
  · rw [bind_eq (required_object (.string batch) (by simp)),
      bind_eq (required_object (.string vehicle) (by simp)),
      bind_eq (required_object hCreated (by simp)),
      bind_eq (optional_members.trans (optionalTail_ofOption hExpires rfl (by simp))),
      bind_eq (required_object hTrips (by simp)),
      bind_eq (required_object hRequests (by simp)),
      bind_eq (required_object hPending (by simp)), Option.map_id]
    rfl

theorem stable_subjects : Stable writeSubjects readSubjects := by
  intro j s _
  refine ⟨by simp [writeSubjects], record_object ?_⟩
  unfold subjectFields
  rw [bind_eq (withDefault_object (.string s.vehicleReports) (by simp)),
    bind_eq (withDefault_object (.string s.queueGroup) (by simp)),
    bind_eq (withDefault_object (.string s.requests) (by simp)),
    bind_eq (withDefault_object (.string s.responses) (by simp)),
    bind_eq (withDefault_object (.string s.updates) (by simp))]
  rfl

theorem stable_counts : Stable writeCounts readCounts := by
  intro j c h
  obtain ⟨_, _, h⟩ := of_record h
  obtain ⟨before, _, hBefore, h⟩ := bind_eq_some h
  obtain ⟨after, _, hAfter, h⟩ := bind_eq_some h
  cases h
  have hBefore := kept_of_required stable_nat64 hBefore
  have hAfter := kept_of_required stable_nat64 hAfter
  refine ⟨by simp [writeCounts, hBefore.printable, hAfter.printable], record_object ?_⟩
  rw [bind_eq (required_object hBefore (by simp)), bind_eq (required_object hAfter (by simp))]
  rfl

theorem stable_sweep : Stable writeSweep readSweep := by
  intro j r h
  obtain ⟨_, _, h⟩ := of_record h
  obtain ⟨sweptAt, _, hSwept, h⟩ := bind_eq_some h
  obtain ⟨batches, _, hBatches, h⟩ := bind_eq_some h
  obtain ⟨predictors, _, hPredictors, h⟩ := bind_eq_some h
  obtain ⟨transitions, _, hTransitions, h⟩ := bind_eq_some h
  obtain ⟨elapsedMillis, _, hElapsed, h⟩ := bind_eq_some h
  cases h
  have hSwept := kept_of_required stable_instant hSwept
  have hBatches := kept_of_required stable_counts hBatches
  have hPredictors := kept_of_required stable_counts hPredictors
  have hTransitions := kept_of_required stable_counts hTransitions
  have hElapsed := kept_of_required stable_nat64 hElapsed
  refine ⟨?_, record_object ?_⟩
  · simp [writeSweep, hSwept.printable, hBatches.printable, hPredictors.printable,
      hTransitions.printable, hElapsed.printable]
  · rw [bind_eq (required_object hSwept (by simp)), bind_eq (required_object hBatches (by simp)),
      bind_eq (required_object hPredictors (by simp)),
      bind_eq (required_object hTransitions (by simp)),
      bind_eq (required_object hElapsed (by simp))]
    rfl

theorem stable_status : Stable writeStatus readStatus := by
  intro j s h
  obtain ⟨_, _, h⟩ := of_record h
  obtain ⟨instanceName, _, -, h⟩ := bind_eq_some h
  obtain ⟨predictors, _, hPredictors, h⟩ := bind_eq_some h
  obtain ⟨batches, _, hBatches, h⟩ := bind_eq_some h
  obtain ⟨transitions, _, hTransitions, h⟩ := bind_eq_some h
  obtain ⟨buckets, _, hBuckets, h⟩ := bind_eq_some h
  obtain ⟨batchLifetimeSeconds, _, hLifetime, h⟩ := bind_eq_some h
  obtain ⟨lastSweep, _, hSweep, h⟩ := bind_eq_some h
  cases h
  have hPredictors := kept_of_required stable_nat64 hPredictors
  have hBatches := kept_of_required stable_nat64 hBatches
  have hTransitions := kept_of_required stable_nat64 hTransitions
  have hBuckets := kept_of_required (Json.stable_nat whole_nat32 rfl) hBuckets
  have hLifetime := kept_of_required (Json.stable_int whole_int64) hLifetime
  have hSweep := kept_of_optionalTail stable_sweep hSweep
  refine ⟨?_, record_object ?_⟩
  · have hLast := Json.printable_ofOption fun r hr => (hSweep r hr).printable
    simp [writeStatus, hPredictors.printable, hBatches.printable, hTransitions.printable,
      hBuckets.printable, hLifetime.printable, hLast]
  · rw [bind_eq (required_object (.string instanceName) (by simp)),
      bind_eq (required_object hPredictors (by simp)),
      bind_eq (required_object hBatches (by simp)),
      bind_eq (required_object hTransitions (by simp)),
      bind_eq (required_object hBuckets (by simp)),
      bind_eq (required_object hLifetime (by simp)),
      bind_eq (optionalTail_ofOption hSweep rfl (by simp)), Option.map_id]
    rfl

theorem stable_readiness : Stable writeReadiness readReadiness := by
  intro j r _
  have hReason : ∀ s ∈ r.reason, ReadsAs .string Reader.string s (id s) := fun s _ => .string s
  refine ⟨by simp [writeReadiness], record_object ?_⟩
  rw [bind_eq (required_object (.bool r.ready) (by simp)),
    bind_eq (optional_members.trans (optionalTail_object hReason rfl (by simp))), Option.map_id]
  rfl

theorem readsAs_healthStatus (s : Status) :
    ReadsAs (fun s : Status => .string s.name) readHealthStatus s s :=
  .name (Status.ofName?_name s)

theorem stable_condition : Stable writeCondition readCondition := by
  intro j c h
  obtain ⟨_, _, h⟩ := of_record h
  obtain ⟨status, _, -, h⟩ := bind_eq_some h
  obtain ⟨message, _, hMessage, h⟩ := bind_eq_some h
  obtain ⟨updatedAt, _, hUpdated, h⟩ := bind_eq_some h
  cases h
  have hMessage := kept_of_optional Json.stable_string hMessage
  have hUpdated := kept_of_required stable_instant hUpdated
  refine ⟨by simp [writeCondition, conditionFields, hUpdated.printable], record_object ?_⟩
  unfold conditionFields
  rw [bind_eq (required_object (readsAs_healthStatus status) (by simp)),
    bind_eq (optional_members.trans (optionalTail_object hMessage rfl (by simp))),
    bind_eq (required_object hUpdated (by simp)), Option.map_id]
  rfl

end Wire

-- ---------------------------------------------------------------------------
-- Parts in order
-- ---------------------------------------------------------------------------

namespace HealthBoard

variable {name : String} {c : Condition} {parts : List (String × Condition)}

/-- Whether parts are ordered by name, and none occurs twice. -/
def Ordered (parts : List (String × Condition)) : Prop := parts.Pairwise fun a b => a.1 < b.1

theorem mem_place {p : String × Condition} (h : p ∈ place name c parts) :
    p = (name, c) ∨ p ∈ parts := by
  induction parts with
  | nil => exact .inl (List.mem_singleton.1 h)
  | cons part rest ih =>
    obtain ⟨n, other⟩ := part
    rw [place] at h
    split at h
    · rcases List.mem_cons.1 h with rfl | hRest
      · exact .inl rfl
      · exact .inr (List.mem_cons_of_mem _ hRest)
    split at h
    · exact List.mem_cons.1 h
    · rcases List.mem_cons.1 h with rfl | hRest
      · exact .inr List.mem_cons_self
      · rcases ih hRest with hNew | hOld
        · exact .inl hNew
        · exact .inr (List.mem_cons_of_mem _ hOld)

theorem ordered_place (h : Ordered parts) : Ordered (place name c parts) := by
  induction parts with
  | nil => exact List.pairwise_singleton _ _
  | cons part rest ih =>
    obtain ⟨n, other⟩ := part
    obtain ⟨hFirst, hRest⟩ := List.pairwise_cons.1 h
    rw [place]
    split
    · rename_i hSame
      subst hSame
      exact List.pairwise_cons.2 ⟨hFirst, hRest⟩
    rename_i hOther
    split
    · rename_i hBefore
      refine List.pairwise_cons.2 ⟨fun p hp => ?_, h⟩
      rcases List.mem_cons.1 hp with rfl | hp
      · exact hBefore
      · exact String.lt_trans hBefore (hFirst p hp)
    · rename_i hAfter
      refine List.pairwise_cons.2 ⟨fun p hp => ?_, ih hRest⟩
      rcases mem_place hp with rfl | hp
      · exact String.not_le.1 fun hLe => hOther (String.le_antisymm (String.not_lt.1 hAfter) hLe)
      · exact hFirst p hp

/-- A part that comes last is put at the end. -/
theorem place_of_last (h : ∀ p ∈ parts, p.1 < name) :
    place name c parts = parts ++ [(name, c)] := by
  induction parts with
  | nil => rfl
  | cons part rest ih =>
    obtain ⟨n, other⟩ := part
    have hBefore : n < name := h (n, other) List.mem_cons_self
    have hOther : n ≠ name := by
      rintro rfl
      exact String.lt_irrefl n hBefore
    rw [place, if_neg hOther, if_neg (String.lt_asymm hBefore),
      ih fun p hp => h p (List.mem_cons_of_mem _ hp)]
    rfl

end HealthBoard

namespace Wire

open HealthBoard (Ordered)

/-- Reads one more part. -/
theorem ordered_of_readParts {j : Json} {parts : List (String × Condition)}
    (h : readParts j = some parts) :
    Ordered parts ∧ ∀ p ∈ parts, ReadsAs writeCondition readCondition p.2 p.2 := by
  cases j with
  | object members =>
    have hInv : ∀ (members : List (String × Json)) (front : List (String × Condition)),
        (Ordered front ∧ ∀ p ∈ front, ReadsAs writeCondition readCondition p.2 p.2) →
        members.foldlM (fun parts m =>
          (readCondition m.2).map fun c => HealthBoard.place m.1 c parts) front = some parts →
        Ordered parts ∧ ∀ p ∈ parts, ReadsAs writeCondition readCondition p.2 p.2 := by
      intro members
      induction members with
      | nil =>
        rintro front hFront ⟨⟩
        exact hFront
      | cons m members ih =>
        intro front hFront hRead
        rw [List.foldlM_cons] at hRead
        obtain ⟨next, hNext, hRest⟩ := Option.bind_eq_some_iff.1 hRead
        obtain ⟨c, hPart, rfl⟩ := Option.map_eq_some_iff.1 hNext
        refine ih _ ⟨HealthBoard.ordered_place hFront.1, fun p hp => ?_⟩ hRest
        rcases HealthBoard.mem_place hp with rfl | hp
        · exact stable_condition _ _ hPart
        · exact hFront.2 p hp
    exact hInv members [] ⟨List.Pairwise.nil, fun p hp => nomatch hp⟩ h
  | _ => cases h

theorem readsAs_parts {parts : List (String × Condition)} (hOrdered : Ordered parts)
    (h : ∀ p ∈ parts, ReadsAs writeCondition readCondition p.2 p.2) :
    ReadsAs (fun parts => .object (parts.map fun p => (p.1, writeCondition p.2))) readParts parts
      parts := by
  have hFold : ∀ front rest, front ++ rest = parts →
      (rest.map fun p => (p.1, writeCondition p.2)).foldlM (fun parts m =>
        (readCondition m.2).map fun c => HealthBoard.place m.1 c parts) front = some parts := by
    intro front rest
    induction rest generalizing front with
    | nil =>
      intro hParts
      rw [← hParts, List.append_nil]
      rfl
    | cons p rest ih =>
      intro hParts
      have hMem : p ∈ parts := hParts ▸ List.mem_append_right front List.mem_cons_self
      have hLast : ∀ q ∈ front, q.1 < p.1 := by
        rw [Ordered, ← hParts, List.pairwise_append] at hOrdered
        exact fun q hq => hOrdered.2.2 q hq p List.mem_cons_self
      rw [List.map_cons, List.foldlM_cons, (h p hMem).read, Option.map_some,
        HealthBoard.place_of_last hLast, Option.bind_eq_bind, Option.bind_some]
      exact ih _ (by rw [← hParts, List.append_assoc]; rfl)
  refine ⟨.object fun m hm => ?_, hFold [] parts rfl⟩
  obtain ⟨p, hp, rfl⟩ := List.mem_map.1 hm
  exact (h p hp).printable

theorem stable_health : Stable writeHealth readHealth := by
  intro j r h
  obtain ⟨_, _, h⟩ := of_record h
  obtain ⟨status, _, -, h⟩ := bind_eq_some h
  obtain ⟨parts, _, hParts, h⟩ := bind_eq_some h
  cases h
  obtain ⟨_, hParts⟩ := of_required hParts
  obtain ⟨hOrdered, hKept⟩ := ordered_of_readParts hParts
  have hParts := readsAs_parts hOrdered hKept
  refine ⟨by simp [writeHealth, hParts.printable], record_object ?_⟩
  rw [bind_eq (required_object (readsAs_healthStatus status) (by simp)),
    bind_eq (required_object hParts (by simp))]
  rfl

end Wire

-- ---------------------------------------------------------------------------
-- Texts
-- ---------------------------------------------------------------------------

/-- What is written for a value is read as text the way it is read as a value. -/
theorem decode?_compact {α : Type} {write : α → Json} {read : Reader α} {v w : α}
    (h : ReadsAs write read v w) : decode? read (write v).compact = some w := by
  unfold decode?
  rw [Json.parse?_compact h.printable]
  exact h.read

namespace Wire

/-- Whether a value that a text was read as is read again from what is written for it. -/
def RoundTrips {α : Type} (write : α → Json) (read : Reader α) : Prop :=
  ∀ text v, decode? read text = some v → decode? read (write v).compact = some v

theorem roundTrips_of_stable {α : Type} {write : α → Json} {read : Reader α}
    (h : Stable write read) : RoundTrips write read := by
  intro text v hText
  obtain ⟨j, -, hRead⟩ := Option.bind_eq_some_iff.1 hText
  exact decode?_compact (h j v hRead)

/-- What is published of a trip is read as its update with every time rounded down to the whole
second and everything else as it was. And every message without floating point numbers that can be
read from some text is read again from the text that is written for it. -/
theorem published_and_read_back :
    (∀ (rules : UpdateRules) (p : TripPrediction) (seed : Instant),
      int64.holds p.deviation.dataSet = true →
      (∀ s ∈ p.trip.stops, nat32.holds s.sequence = true) →
      decode? readUpdate (Payload.update (rules.build p seed).1).text =
        some (rules.build p seed).1.wholeSeconds) ∧
    RoundTrips writeUpdate readUpdate ∧
    RoundTrips writeBatchSummary readBatchSummary ∧
    RoundTrips writeSubjects readSubjects ∧
    RoundTrips writeSweep readSweep ∧
    RoundTrips writeStatus readStatus ∧
    RoundTrips writeHealth readHealth ∧
    RoundTrips writeReadiness readReadiness := by
  refine ⟨fun rules p seed hDataSet hSequence => ?_, roundTrips_of_stable stable_update,
    roundTrips_of_stable stable_batchSummary, roundTrips_of_stable stable_subjects,
    roundTrips_of_stable stable_sweep, roundTrips_of_stable stable_status,
    roundTrips_of_stable stable_health, roundTrips_of_stable stable_readiness⟩
  exact decode?_compact (readsAs_update (UpdateRules.fits_build hDataSet hSequence rules seed))

end Wire

namespace Sample

/-- The update of a vehicle that was observed at half a second past. -/
def halfPast : TripUpdate := ((⟨⟨60000000000⟩⟩ : UpdateRules).build aheadOfTime (clock 0)).1

/-- The answer to a liveness probe as another program might write it: one of its parts is an array,
its names are out of order and one is escaped, and its times are a leap second somewhere east and a
second before the year 0. -/
def healthText : String :=
  "[\"degraded\",\x7b\"b\\u0031\":[\"healthy\",null,\"2017-01-01T00:29:60.25+00:30\"]," ++
    "\"a\":\x7b\"updated_at\":\"-0001-12-31 23:59:59z\",\"since\":[1],\"status\":" ++
    "\"degraded\"\x7d\x7d]"

end Sample

namespace Wire

/-- The update is read with another time than it was built with, the answer as it was read
before. -/
theorem published_and_read_back_half_past :
    (decode? readUpdate (Payload.update Sample.halfPast).text = some Sample.halfPast.wholeSeconds ∧
      Sample.halfPast.wholeSeconds ≠ Sample.halfPast) ∧
    ∃ h, decode? readHealth Sample.healthText = some h ∧
      h.parts.map (fun p => (p.1, p.2.updatedAt.isLeap)) = [("a", false), ("b1", true)] ∧
      decode? readHealth (writeHealth h).compact = some h := by
  obtain ⟨hUpdate, -, -, -, -, -, hHealth, -⟩ := published_and_read_back
  refine ⟨⟨hUpdate _ Sample.aheadOfTime (Sample.clock 0) (by decide) (by decide),
    by decide +kernel⟩, ?_⟩
  have hParts : (decode? readHealth Sample.healthText).map (fun h =>
      h.parts.map fun p => (p.1, p.2.updatedAt.isLeap)) = some [("a", false), ("b1", true)] := by
    decide +kernel
  obtain ⟨h, hRead, hNamed⟩ := Option.map_eq_some_iff.1 hParts
  exact ⟨h, hRead, hNamed, hHealth _ h hRead⟩

end Wire

end TransitForecast

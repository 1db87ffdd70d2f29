import TransitForecast.Proofs.Correlation

/-!
# TransitForecast — which ids can be read back

The reader of request ids wants four parts between dashes, a vehicle, a trip, and two numbers. The
writer puts a minus sign before a negative number, which counts as a dash, and writes nothing for an
empty name. So an id is read back iff both names are there and neither number is negative, and
nothing else that can be read names such an inference either.

## Results

* `CorrelationId.readable_of_parse`        — what is read has names and no negative number.
* `CorrelationId.readable_of_parse_render` — an id that is read back had them.
* `CorrelationId.malformed_of_unreadable`  — any other id is refused as malformed.
* `CorrelationId.parse_render_eq_ok_iff`   — both directions, and what is read of the vehicle and
  the time.
-/

namespace TransitForecast

-- ---------------------------------------------------------------------------
-- Parts
-- ---------------------------------------------------------------------------

section Split

variable {α : Type} [DecidableEq α] {x : α}

/-- There is one part more than there are separators. -/
theorem length_splitOnElement (l : List α) : (splitOnElement x l).length = l.count x + 1 := by
  induction l with
  | nil => rfl
  | cons y rest ih =>
    rw [splitOnElement, List.count_cons]
    by_cases hSeparator : y = x
    · rw [if_pos hSeparator, List.length_cons, ih, if_pos (beq_iff_eq.2 hSeparator)]
    · rw [if_neg hSeparator, if_neg (by simpa using hSeparator)]
      cases hParts : splitOnElement x rest with
      | nil =>
        rw [hParts] at ih
        cases ih
      | cons part parts =>
        rw [hParts] at ih
        exact ih

/-- No part holds the separator. -/
theorem not_mem_of_mem_splitOnElement {l part : List α} (h : part ∈ splitOnElement x l) :
    x ∉ part := by
  induction l generalizing part with
  | nil =>
    rw [List.mem_singleton.1 h]
    exact List.not_mem_nil
  | cons y rest ih =>
    rw [splitOnElement] at h
    split at h
    · rcases List.mem_cons.1 h with rfl | hRest
      · exact List.not_mem_nil
      · exact ih hRest
    · rename_i hOther
      split at h
      · rw [List.mem_singleton.1 h]
        exact fun hMem => hOther (List.mem_singleton.1 hMem).symm
      · rename_i first parts hParts
        rcases List.mem_cons.1 h with rfl | hRest
        · intro hMem
          rcases List.mem_cons.1 hMem with hEq | hLater
          · exact hOther hEq.symm
          · exact ih (hParts ▸ List.mem_cons_self ..) hLater
        · exact ih (hParts ▸ List.mem_cons_of_mem _ hRest)

end Split

namespace Decimal

/-- A number without a minus sign is not negative. -/
theorem integer?_nonneg {cs : List Char} {n : Int} (h : integer? cs = some n) (hMinus : '-' ∉ cs) :
    0 ≤ n := by
  unfold integer? at h
  split at h
  · exact absurd (List.mem_cons_self ..) hMinus
  · obtain ⟨k, -, rfl⟩ := Option.map_eq_some_iff.1 h
    exact Int.natCast_nonneg k
  · obtain ⟨k, -, rfl⟩ := Option.map_eq_some_iff.1 h
    exact Int.natCast_nonneg k

theorem read?_nonneg {b : Bounds} {s : String} {n : Int} (h : b.read? s = some n)
    (hMinus : '-' ∉ s.toList) : 0 ≤ n := by
  unfold Bounds.read? at h
  dsimp only at h
  split at h
  · cases h
  · obtain ⟨k, hRead, hCheck⟩ := Option.bind_eq_some_iff.1 h
    unfold Bounds.check at hCheck
    split at hCheck
    · cases hCheck
      exact integer?_nonneg hRead hMinus
    · cases hCheck

/-- A number has as many minus signs as it is negative. -/
theorem nonneg_of_count_minus {n : Int} (h : (toString n).toList.count '-' = 0) : 0 ≤ n := by
  cases n with
  | ofNat n => exact Int.natCast_nonneg n
  | negSucc n =>
    rw [toList_toString_negSucc, List.count_cons_self] at h
    cases h

end Decimal

-- ---------------------------------------------------------------------------
-- Batch ids
-- ---------------------------------------------------------------------------

/-- A position lies in its millisecond, before the epoch too. -/
theorem Instant.position_mem_millis (t : Instant) :
    t.epochMillis * 1000000 ≤ t.position ∧ t.position < (t.epochMillis + 1) * 1000000 := by
  unfold epochMillis
  omega

namespace BatchId

theorem vehicle_make (vehicle : String) (t : Instant) : (make vehicle t).vehicle = vehicle := by
  rw [BatchId.vehicle, parts?_make]

theorem millis_make (vehicle : String) (t : Instant) :
    (make vehicle t).millis = t.epochMillis := by
  rw [BatchId.millis, parts?_make]
  dsimp only
  rw [Decimal.read?_toString (by decide) (holds_epochMillis t), Option.getD_some]

/-- The batch id that is read is the text itself, and its vehicle has a name. -/
theorem parse_eq_ok {s : String} {b : BatchId} (h : parse s = .ok b) :
    b = ⟨s⟩ ∧ b.vehicle ≠ "" := by
  unfold parse at h
  split at h
  · rename_i vehicle millis hParts
    split at h
    · rename_i hNamed
      cases h
      refine ⟨rfl, ?_⟩
      rw [BatchId.vehicle, hParts]
      rw [Bool.and_eq_true, Bool.not_eq_true'] at hNamed
      exact fun hEmpty => by simp [hEmpty] at hNamed
    · cases h
  · cases h

theorem parse_eq_error {s : String} {e : PredictionError} (h : parse s = .error e) :
    ∃ text, e = .malformedCorrelation text := by
  unfold parse at h
  split at h
  · split at h
    · cases h
    · cases h
      exact ⟨_, rfl⟩
  · cases h
    exact ⟨_, rfl⟩

end BatchId

-- ---------------------------------------------------------------------------
-- Request ids
-- ---------------------------------------------------------------------------

namespace CorrelationId

/-- Whether an id names its vehicle and its trip, and has no negative number. -/
def Readable (c : CorrelationId) : Prop :=
  c.batch.vehicle ≠ "" ∧ c.trip ≠ "" ∧ 0 ≤ c.model ∧ 0 ≤ c.version

instance (c : CorrelationId) : Decidable c.Readable := inferInstanceAs (Decidable (_ ∧ _ ∧ _ ∧ _))

/-- What the parts of an id that can be read hold. -/
structure Parts (s : String) (c : CorrelationId) (batch trip model version : String) : Prop where
  parts : (splitOnElement '-' s.toList).map String.ofList = [batch, trip, model, version]
  batch : (Text.unescape? batch).map BatchId.parse = some (.ok c.batch)
  trip : Text.unescape? trip = some c.trip
  named : c.trip ≠ ""
  model : Decimal.int64.read? model = some c.model
  version : Decimal.int32.read? version = some c.version

theorem parse_cases (s : String) :
    (∃ text, parse s = .error (.malformedCorrelation text)) ∨
      ∃ c batch trip model version, parse s = .ok c ∧ Parts s c batch trip model version := by
  unfold parse
  dsimp only
  split
  · rename_i batch trip model version hParts
    cases hBatch : Text.unescape? batch with
    | none => exact .inl ⟨_, rfl⟩
    | some b =>
      simp only [Option.elim_some, bind, Except.bind]
      cases hId : BatchId.parse b with
      | error e =>
        obtain ⟨text, rfl⟩ := BatchId.parse_eq_error hId
        exact .inl ⟨text, rfl⟩
      | ok id =>
        dsimp only
        cases hTrip : Text.unescape? trip with
        | none => exact .inl ⟨s, rfl⟩
        | some name =>
          simp only [Option.elim_some]
          by_cases hNamed : name.isEmpty = true
          · rw [if_pos hNamed]
            exact .inl ⟨s, rfl⟩
          · rw [if_neg hNamed]
            simp only [pure, Except.pure]
            cases hModel : Decimal.int64.read? model with
            | none => exact .inl ⟨s, rfl⟩
            | some m =>
              cases hVersion : Decimal.int32.read? version with
              | none => exact .inl ⟨s, rfl⟩
              | some v =>
                have hName : name ≠ "" := fun hEmpty => hNamed (by rw [hEmpty]; rfl)
                exact .inr ⟨⟨id, name, m, v⟩, batch, trip, model, version, rfl,
                  ⟨hParts, by rw [hBatch]; exact congrArg some hId, hTrip, hName, hModel,
                    hVersion⟩⟩
  · exact .inl ⟨_, rfl⟩

theorem parts_of_parse {s : String} {c : CorrelationId} (h : parse s = .ok c) :
    ∃ batch trip model version, Parts s c batch trip model version := by
  rcases parse_cases s with ⟨text, hError⟩ | ⟨c', batch, trip, model, version, hOk, hParts⟩
  · rw [hError] at h
    cases h
  · rw [hOk] at h
    cases h
    exact ⟨batch, trip, model, version, hParts⟩

/-- What is read has names and no negative number. -/
theorem readable_of_parse {s : String} {c : CorrelationId} (h : parse s = .ok c) : c.Readable := by
  obtain ⟨batch, trip, model, version, hParts⟩ := parts_of_parse h
  have hMinus : ∀ part ∈ [batch, trip, model, version], '-' ∉ part.toList := by
    intro part hPart
    rw [← hParts.parts] at hPart
    obtain ⟨cs, hMem, rfl⟩ := List.mem_map.1 hPart
    rw [String.toList_ofList]
    exact not_mem_of_mem_splitOnElement hMem
  obtain ⟨b, -, hId⟩ := Option.map_eq_some_iff.1 hParts.batch
  exact ⟨(BatchId.parse_eq_ok hId).2, hParts.named,
    Decimal.read?_nonneg hParts.model (hMinus model (by simp)),
    Decimal.read?_nonneg hParts.version (hMinus version (by simp))⟩

section Render

variable {vehicle trip : String} {t : Instant} {model version : Int}

/-- An id that is read back has names and no negative number. -/
theorem readable_of_parse_render {c : CorrelationId}
    (h : parse (render ⟨.make vehicle t, trip, model, version⟩) = .ok c) :
    Readable ⟨.make vehicle t, trip, model, version⟩ := by
  obtain ⟨batch, name, model', version', hParts⟩ := parts_of_parse h
  have hSplit := hParts.parts
  rw [toList_render, splitOnElement_append (Text.minus_not_mem_escape _),
    splitOnElement_append (Text.minus_not_mem_escape _), List.map_cons, List.map_cons,
    String.ofList_toList, String.ofList_toList] at hSplit
  obtain ⟨rfl, rfl, hNumbers⟩ : escape (BatchId.make vehicle t).text = batch ∧
      escape trip = name ∧ _ = [model', version'] := by
    simpa only [List.cons.injEq] using hSplit
  -- two parts are left for the numbers, so neither has a minus sign
  have hCount := congrArg List.length hNumbers
  rw [List.length_map, length_splitOnElement, List.count_append, List.count_cons_self] at hCount
  have hModel : (toString model).toList.count '-' = 0 := by
    simp only [List.length_cons, List.length_nil] at hCount
    omega
  have hVersion : (toString version).toList.count '-' = 0 := by
    simp only [List.length_cons, List.length_nil] at hCount
    omega
  have hTrip := hParts.trip
  have hBatch := hParts.batch
  rw [Text.unescape?_escape] at hTrip hBatch
  have hId : BatchId.parse (BatchId.make vehicle t).text = .ok c.batch :=
    Option.some_inj.1 hBatch
  obtain ⟨hText, hVehicle⟩ := BatchId.parse_eq_ok hId
  rw [hText] at hVehicle
  refine ⟨hVehicle, ?_, Decimal.nonneg_of_count_minus hModel,
    Decimal.nonneg_of_count_minus hVersion⟩
  exact Option.some_inj.1 hTrip ▸ hParts.named

/-- An id without a name or with a negative number is refused as malformed. -/
theorem malformed_of_unreadable
    (h : ¬ Readable ⟨.make vehicle t, trip, model, version⟩) :
    ∃ text, parse (render ⟨.make vehicle t, trip, model, version⟩) =
      .error (.malformedCorrelation text) := by
  rcases parse_cases (render ⟨.make vehicle t, trip, model, version⟩) with
    hError | ⟨c, _, _, _, _, hOk, -⟩
  · exact hError
  · exact absurd (readable_of_parse_render hOk) h

/-- The id of a request is read back iff vehicle and trip have names and neither number of its model
is negative; otherwise it is refused as malformed. Nothing else is ever read, and what is read tells
the vehicle and the millisecond of its report. -/
theorem parse_render_eq_ok_iff (hModel : Decimal.int64.holds model = true)
    (hVersion : Decimal.int32.holds version = true) :
    (parse (render ⟨.make vehicle t, trip, model, version⟩) =
        .ok ⟨.make vehicle t, trip, model, version⟩ ↔
      vehicle ≠ "" ∧ trip ≠ "" ∧ 0 ≤ model ∧ 0 ≤ version) ∧
    (¬ (vehicle ≠ "" ∧ trip ≠ "" ∧ 0 ≤ model ∧ 0 ≤ version) →
      ∃ text, parse (render ⟨.make vehicle t, trip, model, version⟩) =
        .error (.malformedCorrelation text)) ∧
    ∀ c, parse (render ⟨.make vehicle t, trip, model, version⟩) = .ok c →
      c = ⟨.make vehicle t, trip, model, version⟩ ∧ c.batch.vehicle = vehicle ∧
        c.batch.millis * 1000000 ≤ t.position ∧
        t.position < (c.batch.millis + 1) * 1000000 := by
  have hNamed : Readable ⟨.make vehicle t, trip, model, version⟩ ↔
      vehicle ≠ "" ∧ trip ≠ "" ∧ 0 ≤ model ∧ 0 ≤ version := by
    rw [Readable, BatchId.vehicle_make]
  have hBack : (vehicle ≠ "" ∧ trip ≠ "" ∧ 0 ≤ model ∧ 0 ≤ version) →
      parse (render ⟨.make vehicle t, trip, model, version⟩) =
        .ok ⟨.make vehicle t, trip, model, version⟩ := by
    rintro ⟨hVehicle, hTrip, hModelNat, hVersionNat⟩
    exact parse_render hVehicle hTrip hModelNat hModel hVersionNat hVersion
  refine ⟨⟨fun hRead => hNamed.1 (readable_of_parse_render hRead), hBack⟩, ?_, ?_⟩
  · intro hUnnamed
    exact malformed_of_unreadable fun hReadable => hUnnamed (hNamed.1 hReadable)
  · intro c hRead
    -- what is read is readable, so it is the id itself
    rw [hBack (hNamed.1 (readable_of_parse_render hRead))] at hRead
    cases hRead
    refine ⟨rfl, BatchId.vehicle_make vehicle t, ?_⟩
    rw [BatchId.millis_make]
    exact t.position_mem_millis

/-- Ids full of reserved characters are read back, at the last nanosecond before the epoch. -/
theorem parse_render_before_the_epoch :
    let id : CorrelationId := ⟨.make "bus-12_a%" ⟨-1, 999999999, by decide, by decide⟩, "trip%2-9",
      11, 2⟩
    parse id.render = .ok id ∧ id.batch.vehicle = "bus-12_a%" ∧ id.batch.millis = -1 := by
  intro id
  have hRound := @parse_render_eq_ok_iff "bus-12_a%" "trip%2-9"
    ⟨-1, 999999999, by decide, by decide⟩ 11 2 (by decide) (by decide)
  have hRead : parse id.render = .ok id := hRound.1.2 ⟨by decide, by decide, by decide, by decide⟩
  obtain ⟨-, hVehicle, hAfter, hBefore⟩ := hRound.2.2 id hRead
  refine ⟨hRead, hVehicle, ?_⟩
  have hPosition : (⟨-1, 999999999, by decide, by decide⟩ : Instant).position = -1 := by decide
  rw [hPosition] at hAfter hBefore
  omega

end Render

end CorrelationId

end TransitForecast

import TransitForecast.Proofs.Readability

/-!
# TransitForecast — the normal form of an id

The reader of request ids takes far more texts than the writer makes: any byte may be escaped, in
digits of either case, and numbers may have plus signs and leading zeros. What it reads is written
again in one way, which it reads as the same id. So an id that was accepted in any spelling has a
normal form, and the normal form is its own.

## Results

* `Decimal.holds_of_read?`           — a number that is read lies in its range.
* `CorrelationId.parse_render_parse` — what was read is read again from the text written for it.
* `CorrelationId.normal_form`        — the normal form of every id that is accepted.
-/

namespace TransitForecast

/-- A number that is read lies in its range. -/
theorem Decimal.holds_of_read? {b : Bounds} {s : String} {n : Int} (h : b.read? s = some n) :
    b.holds n = true := by
  unfold Bounds.read? at h
  dsimp only at h
  split at h
  · cases h
  · obtain ⟨k, -, hCheck⟩ := Option.bind_eq_some_iff.1 h
    unfold Bounds.check at hCheck
    split at hCheck
    · rename_i hHolds
      cases hCheck
      exact hHolds
    · cases hCheck

namespace CorrelationId

/-- The text that is written for what is read of a text. -/
def normalize (s : String) : Except PredictionError String := (parse s).map render

section Accepted

variable {s : String} {c : CorrelationId}

/-- The batch id that is read can be read again as it stands. -/
theorem parse_batch_of_parse (h : parse s = .ok c) : BatchId.parse c.batch.text = .ok c.batch := by
  obtain ⟨_, _, _, _, hParts⟩ := parts_of_parse h
  obtain ⟨text, -, hId⟩ := Option.map_eq_some_iff.1 hParts.batch
  have hText : c.batch = ⟨text⟩ := (BatchId.parse_eq_ok hId).1
  rw [hText] at hId ⊢
  exact hId

/-- What was read is read again from the text written for it. -/
theorem parse_render_parse (h : parse s = .ok c) : parse c.render = .ok c := by
  obtain ⟨_, _, _, _, hParts⟩ := parts_of_parse h
  obtain ⟨-, hTrip, hModel, hVersion⟩ := readable_of_parse h
  exact parse_render_of_named (parse_batch_of_parse h) hTrip hModel
    (Decimal.holds_of_read? hParts.model) hVersion (Decimal.holds_of_read? hParts.version)

/-- Only the dashes between the parts are left in the text of an id without negative numbers. -/
theorem count_minus_render (hModel : 0 ≤ c.model) (hVersion : 0 ≤ c.version) :
    c.render.toList.count '-' = 3 := by
  have hBatch := List.count_eq_zero.2 (Text.minus_not_mem_escape c.batch.text)
  have hTrip := List.count_eq_zero.2 (Text.minus_not_mem_escape c.trip)
  have hModelNone := List.count_eq_zero.2 (Decimal.minus_not_mem_toString hModel)
  have hVersionNone := List.count_eq_zero.2 (Decimal.minus_not_mem_toString hVersion)
  rw [toList_render]
  simp only [List.count_append, List.count_cons_self, hBatch, hTrip, hModelNone, hVersionNone]

/-- Every id that is accepted, however it was spelled, names its vehicle and its trip and has no
negative number. The text written for it holds three dashes and is read as the same id, so it is its
own normal form. -/
theorem normal_form (h : parse s = .ok c) :
    (c.trip ≠ "" ∧ c.batch.vehicle ≠ "" ∧ 0 ≤ c.model ∧ 0 ≤ c.version) ∧
    c.render.toList.count '-' = 3 ∧ parse c.render = .ok c ∧
    normalize s = .ok c.render ∧ normalize c.render = .ok c.render := by
  obtain ⟨hVehicle, hTrip, hModel, hVersion⟩ := readable_of_parse h
  have hAgain := parse_render_parse h
  refine ⟨⟨hTrip, hVehicle, hModel, hVersion⟩, count_minus_render hModel hVersion, hAgain, ?_, ?_⟩
  · rw [normalize, h]
    rfl
  · rw [normalize, hAgain]
    rfl

/-- Escapes of either case, of letters and of both bytes of a letter, a plus sign and leading zeros
are gone from the normal form; the batch id keeps its text. -/
theorem normal_form_of_many_escapes :
    parse "%56%2d1_%5f+07-trip%2D%c3%A9%25-+0042-+003" = .ok ⟨⟨"V-1__+07"⟩, "trip-é%", 42, 3⟩ ∧
    normalize "%56%2d1_%5f+07-trip%2D%c3%A9%25-+0042-+003" = .ok "V%2D1__+07-trip%2Dé%25-42-3" ∧
    normalize "V%2D1__+07-trip%2Dé%25-42-3" = .ok "V%2D1__+07-trip%2Dé%25-42-3" := by
  have hFound : (parse "%56%2d1_%5f+07-trip%2D%c3%A9%25-+0042-+003").toOption =
      some ⟨⟨"V-1__+07"⟩, "trip-é%", 42, 3⟩ := by
    decide +kernel
  have hRead : parse "%56%2d1_%5f+07-trip%2D%c3%A9%25-+0042-+003" =
      .ok ⟨⟨"V-1__+07"⟩, "trip-é%", 42, 3⟩ := by
    cases hParse : parse "%56%2d1_%5f+07-trip%2D%c3%A9%25-+0042-+003" with
    | error e =>
      rw [hParse] at hFound
      cases hFound
    | ok c =>
      rw [hParse] at hFound
      rw [Option.some.inj hFound]
  obtain ⟨-, -, -, hNormal, hAgain⟩ := normal_form hRead
  have hText : render ⟨⟨"V-1__+07"⟩, "trip-é%", 42, 3⟩ = "V%2D1__+07-trip%2Dé%25-42-3" := by
    decide +kernel
  rw [hText] at hNormal hAgain
  exact ⟨hRead, hNormal, hAgain⟩

end Accepted

end CorrelationId

end TransitForecast

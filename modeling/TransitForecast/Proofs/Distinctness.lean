import TransitForecast.Proofs.Correlation

/-!
# TransitForecast — ids of requests never collide

The parts of an id stand between dashes, and a negative number starts with one. No dash is left in
the vehicle and the trip once they are escaped, so the first two dashes end them. Behind those a
number begins with a dash only if it is negative, so the next dash after its first character ends
it. Two ids with the same text are therefore the same id, also where the reader refuses the text.

## Results

* `Decimal.toString_pair_inj`       — two numbers with a dash between them can be told apart.
* `CorrelationId.render_injective`  — ids with the same text are the same.
* `CorrelationId.render_make_inj`   — they are of the same vehicle, millisecond, trip and model.
-/

namespace TransitForecast

/-- A list that is cut where an element first occurs is cut in one way only. -/
theorem append_cons_inj {α : Type} {x : α} {front front' back back' : List α} (h : x ∉ front)
    (h' : x ∉ front') :
    front ++ x :: back = front' ++ x :: back' ↔ front = front' ∧ back = back' := by
  constructor
  · intro hEq
    rcases List.append_eq_append_iff.1 hEq with ⟨more, rfl, hBack⟩ | ⟨more, rfl, hBack⟩
    · cases more with
      | nil => exact ⟨(List.append_nil _).symm, (List.cons.inj hBack).2⟩
      | cons y rest =>
        have hHead : x = y := (List.cons.inj hBack).1
        exact absurd (by simp [hHead]) h'
    · cases more with
      | nil => exact ⟨List.append_nil _, (List.cons.inj hBack).2.symm⟩
      | cons y rest =>
        have hHead : x = y := (List.cons.inj hBack).1
        exact absurd (by simp [hHead]) h
  · rintro ⟨rfl, rfl⟩
    rfl

-- ---------------------------------------------------------------------------
-- Numbers
-- ---------------------------------------------------------------------------

namespace Decimal

theorem toString_inj {m n : Int} : (toString m).toList = (toString n).toList ↔ m = n := by
  constructor
  · intro h
    have hRead := integer?_toString m
    rw [h, integer?_toString] at hRead
    exact (Option.some.inj hRead).symm
  · exact fun h => h ▸ rfl

/-- A number that is not negative does not start with a minus sign. -/
theorem toDigits_append_ne (n : Nat) (rest rest' : List Char) :
    Nat.toDigits 10 n ++ rest ≠ '-' :: rest' := by
  intro h
  have hMinus : '-' ∉ Nat.toDigits 10 n := not_mem_toDigits (by decide) n
  cases hDigits : Nat.toDigits 10 n with
  | nil => exact Nat.toDigits_ne_nil hDigits
  | cons d ds =>
    rw [hDigits, List.cons_append] at h
    rw [hDigits, (List.cons.inj h).1] at hMinus
    exact hMinus (List.mem_cons_self ..)

/-- Two numbers with a dash between them can be told apart, whatever their signs. -/
theorem toString_pair_inj {m m' n n' : Int}
    (h : (toString m).toList ++ '-' :: (toString n).toList =
      (toString m').toList ++ '-' :: (toString n').toList) : m = m' ∧ n = n' := by
  have hMinus : ∀ k : Nat, '-' ∉ Nat.toDigits 10 k := not_mem_toDigits (by decide)
  rw [← toString_inj, ← toString_inj (m := n)]
  cases m with
  | ofNat k =>
    cases m' with
    | ofNat k' =>
      rw [toList_toString_ofNat, toList_toString_ofNat] at *
      exact (append_cons_inj (hMinus k) (hMinus k')).1 h
    | negSucc k' =>
      rw [toList_toString_ofNat, toList_toString_negSucc, List.cons_append] at h
      exact absurd h (toDigits_append_ne k _ _)
  | negSucc k =>
    cases m' with
    | ofNat k' =>
      rw [toList_toString_ofNat, toList_toString_negSucc, List.cons_append] at h
      exact absurd h.symm (toDigits_append_ne k' _ _)
    | negSucc k' =>
      -- behind the two minus signs the numbers are cut as the others are
      rw [toList_toString_negSucc, toList_toString_negSucc] at *
      rw [List.cons_append, List.cons_append, List.cons_inj_right] at h
      rw [List.cons_inj_right]
      exact (append_cons_inj (hMinus (k + 1)) (hMinus (k' + 1))).1 h

end Decimal

-- ---------------------------------------------------------------------------
-- Ids
-- ---------------------------------------------------------------------------

namespace CorrelationId

theorem escape_injective : Function.Injective escape := by
  intro s s' h
  have hRead := Text.unescape?_escape s
  rw [h, Text.unescape?_escape] at hRead
  exact (Option.some.inj hRead).symm

/-- Ids with the same text are the same, whatever names and numbers they are made of. -/
theorem render_injective : Function.Injective render := by
  intro c c' h
  have hText := congrArg String.toList h
  rw [toList_render, toList_render, append_cons_inj (Text.minus_not_mem_escape _)
    (Text.minus_not_mem_escape _), append_cons_inj (Text.minus_not_mem_escape _)
    (Text.minus_not_mem_escape _)] at hText
  obtain ⟨hBatch, hTrip, hNumbers⟩ := hText
  obtain ⟨hModel, hVersion⟩ := Decimal.toString_pair_inj hNumbers
  obtain ⟨⟨batch⟩, trip, model, version⟩ := c
  obtain ⟨⟨batch'⟩, trip', model', version'⟩ := c'
  obtain rfl : batch = batch' := escape_injective (String.toList_injective hBatch)
  obtain rfl : trip = trip' := escape_injective (String.toList_injective hTrip)
  obtain rfl : model = model' := hModel
  obtain rfl : version = version' := hVersion
  rfl

/-- Ids of requests never collide: two have the same text iff they are of the same vehicle, the same
millisecond, the same trip and the same version of the same model, be the names empty or full of
separators and the numbers negative. -/
theorem render_make_inj {vehicle vehicle' trip trip' : String} {t t' : Instant}
    {model model' version version' : Int} :
    render ⟨.make vehicle t, trip, model, version⟩ =
        render ⟨.make vehicle' t', trip', model', version'⟩ ↔
      vehicle = vehicle' ∧ t.epochMillis = t'.epochMillis ∧ trip = trip' ∧ model = model' ∧
        version = version' := by
  rw [render_injective.eq_iff, mk.injEq, BatchId.make_inj, and_assoc]

/-- The minus sign of a version is not taken for that of a model, nor a dash in a name for one
between two parts. -/
example : render ⟨.make "a-b" .epoch, "t", 1, -1⟩ ≠ render ⟨.make "a" .epoch, "b_0-t", 1, -1⟩ ∧
    render ⟨.make "a" .epoch, "", -1, 1⟩ ≠ render ⟨.make "a" .epoch, "-", 1, 1⟩ := by
  decide +kernel

end CorrelationId

end TransitForecast

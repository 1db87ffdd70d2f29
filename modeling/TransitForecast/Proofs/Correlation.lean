import TransitForecast.Inference.Correlation

/-!
# TransitForecast — ids are read back

The id of a batch tells its vehicle and its millisecond apart, whatever the vehicle is called. The
id of an inference request is read back to what it was made of, as long as neither the vehicle nor
the trip is empty and the model's numbers are not negative.

## Results

* `make_inj`         — batches with the same id are of the same vehicle and millisecond.
* `unescape?_escape` — escaping loses nothing.
* `parse_render`     — the id of a request is read back.
-/

namespace TransitForecast

-- ---------------------------------------------------------------------------
-- Splitting
-- ---------------------------------------------------------------------------

section Split

variable {α : Type} [DecidableEq α] {x : α}

theorem splitLast?_of_not_mem {l : List α} (h : x ∉ l) : splitLast? x l = none := by
  induction l with
  | nil => rfl
  | cons y rest ih =>
    rw [List.mem_cons, not_or] at h
    rw [splitLast?, ih h.2]
    exact if_neg fun hEq => h.1 hEq.symm

/-- What follows the last occurrence does not hold the element. -/
theorem splitLast?_append {front back : List α} (h : x ∉ back) :
    splitLast? x (front ++ x :: back) = some (front, back) := by
  induction front with
  | nil =>
    rw [List.nil_append, splitLast?, splitLast?_of_not_mem h]
    exact if_pos rfl
  | cons y rest ih => rw [List.cons_append, splitLast?, ih]

theorem splitOnElement_of_not_mem {l : List α} (h : x ∉ l) : splitOnElement x l = [l] := by
  induction l with
  | nil => rfl
  | cons y rest ih =>
    rw [List.mem_cons, not_or] at h
    rw [splitOnElement, if_neg fun hEq => h.1 hEq.symm, ih h.2]

theorem splitOnElement_append {front back : List α} (h : x ∉ front) :
    splitOnElement x (front ++ x :: back) = front :: splitOnElement x back := by
  induction front with
  | nil =>
    rw [List.nil_append, splitOnElement, if_pos rfl]
  | cons y rest ih =>
    rw [List.mem_cons, not_or] at h
    rw [List.cons_append, splitOnElement, if_neg fun hEq => h.1 hEq.symm, ih h.2]

end Split

-- ---------------------------------------------------------------------------
-- Whole numbers
-- ---------------------------------------------------------------------------

namespace Decimal

theorem pushDigit_digitChar {d : Nat} (h : d < 10) (n : Nat) :
    pushDigit n d.digitChar = some (10 * n + d) := by
  have hDigit : digit? d.digitChar = some d := by
    revert h
    revert d
    decide
  rw [pushDigit, hDigit]
  rfl

theorem foldlM_pushDigit_toDigits (n : Nat) :
    (Nat.toDigits 10 n).foldlM pushDigit 0 = some n := by
  induction n using Nat.strongRecOn with
  | _ n ih =>
    rcases Nat.lt_or_ge n 10 with hSmall | hLarge
    · rw [Nat.toDigits_of_lt_base hSmall, List.foldlM_cons, pushDigit_digitChar hSmall]
      simp
    · -- the last digit is read last
      rw [Nat.toDigits_of_base_le (by omega) hLarge, List.foldlM_append,
        ih (n / 10) (by omega), Option.bind_eq_bind, Option.bind_some, List.foldlM_cons,
        pushDigit_digitChar (by omega), Nat.div_add_mod]
      rfl

theorem natural?_toDigits (n : Nat) : natural? (Nat.toDigits 10 n) = some n := by
  have hSome : (Nat.toDigits 10 n).isEmpty = false := by
    rw [List.isEmpty_eq_false_iff]
    exact Nat.toDigits_ne_nil
  rw [natural?, hSome]
  exact foldlM_pushDigit_toDigits n

theorem toList_toString_ofNat (n : Nat) : (toString (Int.ofNat n)).toList = Nat.toDigits 10 n :=
  Nat.toList_repr

theorem toList_toString_negSucc (n : Nat) :
    (toString (Int.negSucc n)).toList = '-' :: Nat.toDigits 10 (n + 1) := by
  show ("-" ++ Nat.repr (n + 1)).toList = _
  rw [String.toList_append, Nat.toList_repr]
  rfl

/-- A digit is no sign, and no separator of an id. -/
theorem not_mem_toDigits {c : Char} (hc : c.isDigit = false) (n : Nat) :
    c ∉ Nat.toDigits 10 n := by
  intro h
  rw [Nat.isDigit_of_mem_toDigits (by decide) (by decide) h] at hc
  cases hc

theorem not_mem_toString {c : Char} (hc : c.isDigit = false) (hMinus : c ≠ '-') (n : Int) :
    c ∉ (toString n).toList := by
  cases n with
  | ofNat n =>
    rw [toList_toString_ofNat]
    exact not_mem_toDigits hc n
  | negSucc n =>
    rw [toList_toString_negSucc, List.mem_cons, not_or]
    exact ⟨hMinus, not_mem_toDigits hc (n + 1)⟩

theorem minus_not_mem_toString {n : Int} (h : 0 ≤ n) : '-' ∉ (toString n).toList := by
  cases n with
  | ofNat n =>
    rw [toList_toString_ofNat]
    exact not_mem_toDigits (by decide) n
  | negSucc n => omega

/-- A whole number is read back. -/
theorem integer?_toString (n : Int) : integer? (toString n).toList = some n := by
  cases n with
  | ofNat n =>
    rw [toList_toString_ofNat]
    -- no digit is taken for a sign
    have hMinus : '-' ∉ Nat.toDigits 10 n := not_mem_toDigits (by decide) n
    have hPlus : '+' ∉ Nat.toDigits 10 n := not_mem_toDigits (by decide) n
    have hRead := natural?_toDigits n
    unfold integer?
    split
    · rename_i hEq
      exact absurd (hEq ▸ List.mem_cons_self ..) hMinus
    · rename_i hEq
      exact absurd (hEq ▸ List.mem_cons_self ..) hPlus
    · rw [hRead]
      rfl
  | negSucc n =>
    rw [toList_toString_negSucc]
    show (natural? (Nat.toDigits 10 (n + 1))).map _ = _
    rw [natural?_toDigits]
    rfl

/-- A number of a range with negative numbers is read back. -/
theorem read?_toString {b : Bounds} (hSigned : b.lo ≠ 0) {n : Int} (h : b.holds n = true) :
    b.read? (toString n) = some n := by
  rw [Bounds.read?, if_neg fun hBoth => hSigned hBoth.1, integer?_toString, Option.bind_some,
    Bounds.check, if_pos h]

end Decimal

-- ---------------------------------------------------------------------------
-- Escapes
-- ---------------------------------------------------------------------------

namespace Text

/-- A character that starts no escape stands for itself. -/
theorem strictBytes?_cons {c : Char} (hc : c ≠ '%') (rest : List Char) :
    strictBytes? (c :: rest) =
      (strictBytes? rest).map fun bytes => String.utf8EncodeChar c ++ bytes := by
  rw [strictBytes?.eq_def]
  split
  · rename_i hEq
    cases hEq
  · rename_i hEq
    cases hEq
    exact absurd rfl hc
  · rename_i hEq
    cases hEq
    exact if_neg hc

theorem strictBytes?_escaped {a b : Char} {byte : UInt8} (hByte : hexByte? a b = some byte)
    (rest : List Char) :
    strictBytes? ('%' :: a :: b :: rest) = (strictBytes? rest).map (byte :: ·) := by
  rw [strictBytes?, hByte]
  cases strictBytes? rest <;> rfl

theorem strictBytes?_escape (cs : List Char) :
    strictBytes? (cs.flatMap CorrelationId.escapeChar) =
      some (cs.flatMap String.utf8EncodeChar) := by
  induction cs with
  | nil => rfl
  | cons c rest ih =>
    rw [List.flatMap_cons, List.flatMap_cons, CorrelationId.escapeChar]
    split
    · rename_i hPercent
      subst hPercent
      rw [List.cons_append, List.cons_append, List.cons_append, List.nil_append,
        strictBytes?_escaped rfl, ih]
      rfl
    · rename_i hPercent
      split
      · rename_i hDash
        subst hDash
        rw [List.cons_append, List.cons_append, List.cons_append, List.nil_append,
          strictBytes?_escaped rfl, ih]
        rfl
      · rw [List.singleton_append, strictBytes?_cons hPercent, ih]
        rfl

theorem ofBytes?_utf8 (s : String) :
    ofBytes? (s.toList.flatMap String.utf8EncodeChar) = some s := by
  have hBytes : (⟨(s.toList.flatMap String.utf8EncodeChar).toArray⟩ : ByteArray) =
      s.toByteArray := by
    rw [← String.utf8Encode_toList, List.utf8Encode, ← List.data_toByteArray]
  rw [ofBytes?, hBytes, String.fromUTF8?, dif_pos s.isValidUTF8]
  rfl

/-- Escaping loses nothing. -/
theorem unescape?_escape (s : String) : unescape? (CorrelationId.escape s) = some s := by
  rw [unescape?, CorrelationId.escape, String.toList_ofList, strictBytes?_escape, Option.bind_some,
    ofBytes?_utf8]

theorem minus_not_mem_escape (s : String) : '-' ∉ (CorrelationId.escape s).toList := by
  rw [CorrelationId.escape, String.toList_ofList]
  intro h
  obtain ⟨c, -, hc⟩ := List.mem_flatMap.1 h
  unfold CorrelationId.escapeChar at hc
  split at hc
  · revert hc
    decide
  · split at hc
    · revert hc
      decide
    · rename_i hDash
      exact hDash (List.mem_singleton.1 hc).symm

end Text

-- ---------------------------------------------------------------------------
-- Batch ids
-- ---------------------------------------------------------------------------

namespace BatchId

theorem parts?_make (vehicle : String) (t : Instant) :
    (make vehicle t).parts? = some (vehicle, toString t.epochMillis) := by
  have hText : (make vehicle t).text.toList =
      vehicle.toList ++ '_' :: (toString t.epochMillis).toList := by
    rw [make, String.toList_append, String.toList_append, List.append_assoc]
    rfl
  rw [parts?, hText, splitLast?_append (Decimal.not_mem_toString (by decide) (by decide) _)]
  simp

/-- Batches with the same id are of the same vehicle and millisecond. -/
theorem make_inj {vehicle vehicle' : String} {t t' : Instant} :
    make vehicle t = make vehicle' t' ↔ vehicle = vehicle' ∧ t.epochMillis = t'.epochMillis := by
  constructor
  · intro h
    have hParts := parts?_make vehicle t
    rw [h, parts?_make, Option.some.injEq, Prod.mk.injEq] at hParts
    have hMillis := Decimal.integer?_toString t.epochMillis
    rw [← hParts.2, Decimal.integer?_toString] at hMillis
    exact ⟨hParts.1.symm, (Option.some.inj hMillis).symm⟩
  · rintro ⟨rfl, hMillis⟩
    rw [make, make, hMillis]

theorem holds_epochMillis (t : Instant) : Decimal.int64.holds t.epochMillis = true := by
  have hSecond := t.inRange
  have hNanos := t.nanos_lt
  have hLo : Decimal.int64.lo = -9223372036854775808 := by decide
  have hHi : Decimal.int64.hi = 9223372036854775807 := by decide
  rw [Decimal.Bounds.holds, hLo, hHi, Bool.and_eq_true, decide_eq_true_eq, decide_eq_true_eq,
    Instant.epochMillis, Instant.position, nanosPerSecond]
  omega

theorem parse_make {vehicle : String} (h : vehicle ≠ "") (t : Instant) :
    parse (make vehicle t).text = .ok (make vehicle t) := by
  have hMillis : (Decimal.int64.read? (toString t.epochMillis)).isSome = true := by
    rw [Decimal.read?_toString (by decide) (holds_epochMillis t)]
    rfl
  have hVehicle : vehicle.isEmpty = false := by
    simpa using h
  unfold parse
  rw [parts?_make]
  simp only [hMillis, hVehicle, Bool.not_false, Bool.and_self, if_true]

end BatchId

-- ---------------------------------------------------------------------------
-- Request ids
-- ---------------------------------------------------------------------------

namespace CorrelationId

theorem toList_render (c : CorrelationId) : c.render.toList =
    (escape c.batch.text).toList ++ '-' :: ((escape c.trip).toList ++ '-' ::
      ((toString c.model).toList ++ '-' :: (toString c.version).toList)) := by
  simp [render]

/-- An id that names a batch and a trip, and has no negative number, is read back. -/
theorem parse_render_of_named {c : CorrelationId}
    (hBatch : BatchId.parse c.batch.text = .ok c.batch) (hTrip : c.trip ≠ "")
    (hModel : 0 ≤ c.model) (hModelFits : Decimal.int64.holds c.model = true)
    (hVersion : 0 ≤ c.version) (hVersionFits : Decimal.int32.holds c.version = true) :
    parse c.render = .ok c := by
  have hTripSome : c.trip.isEmpty = false := by
    simpa using hTrip
  -- none of the four parts holds a dash of its own
  unfold parse
  rw [toList_render, splitOnElement_append (Text.minus_not_mem_escape _),
    splitOnElement_append (Text.minus_not_mem_escape _),
    splitOnElement_append (Decimal.minus_not_mem_toString hModel),
    splitOnElement_of_not_mem (Decimal.minus_not_mem_toString hVersion)]
  simp only [List.map_cons, List.map_nil, String.ofList_toList]
  rw [Text.unescape?_escape, Text.unescape?_escape, Decimal.read?_toString (by decide) hModelFits,
    Decimal.read?_toString (by decide) hVersionFits]
  simp only [Option.elim_some, bind, Except.bind]
  rw [hBatch]
  simp only [hTripSome]
  rfl

/-- The id of a request is read back. -/
theorem parse_render {vehicle trip : String} {t : Instant} {model version : Int}
    (hVehicle : vehicle ≠ "") (hTrip : trip ≠ "") (hModel : 0 ≤ model)
    (hModelFits : Decimal.int64.holds model = true) (hVersion : 0 ≤ version)
    (hVersionFits : Decimal.int32.holds version = true) :
    parse (render ⟨.make vehicle t, trip, model, version⟩) =
      .ok ⟨.make vehicle t, trip, model, version⟩ :=
  parse_render_of_named (BatchId.parse_make hVehicle t) hTrip hModel hModelFits hVersion
    hVersionFits

end CorrelationId

end TransitForecast

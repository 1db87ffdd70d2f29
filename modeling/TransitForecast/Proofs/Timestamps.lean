import TransitForecast.Proofs.Calendar
import TransitForecast.Proofs.Records
import Mathlib.Data.Nat.Digits.Defs

/-!
# TransitForecast — instants are read back

The text of an instant is read as this instant, to the nanosecond, in any year. Only an instant in a
leap second that is not the last of its minute would be shown as another, and none that has been
read is of this kind. Every reader of a part is shown to take its own part and to leave what
follows.

## Results

* `TimeReader.number_padded`   — a number is read, whatever zeros stand before it.
* `TimeReader.date_text`       — a date is read, whatever the sign of its year.
* `Instant.ofText?_text`       — the text of an instant is read back.
* `Instant.leapsAtMinute_of_ofText?` — every instant that is read can be shown.
-/

namespace TransitForecast

-- ---------------------------------------------------------------------------
-- Numbers and dates
-- ---------------------------------------------------------------------------

/-- Whether a text does not go on with a digit. -/
def EndsDigits (rest : List Char) : Prop := ∀ c ∈ rest.head?, c.isDigit = false

theorem endsDigits_cons {c : Char} {rest : List Char} (h : c.isDigit = false) :
    EndsDigits (c :: rest) := by
  rintro d ⟨⟩
  exact h

section Numbers

variable {w n : Nat} {rest : List Char}

namespace Date

theorem toList_padded (w n : Nat) : (padded w n).toList =
    List.replicate (w - (Nat.toDigits 10 n).length) '0' ++ Nat.toDigits 10 n := by
  unfold padded
  rw [String.toList_ofList]

theorem isDigit_of_mem_padded {c : Char} (h : c ∈ (padded w n).toList) : c.isDigit = true := by
  rw [toList_padded, List.mem_append] at h
  rcases h with hZero | hDigit
  · rw [List.eq_of_mem_replicate hZero]
    rfl
  · exact Nat.isDigit_of_mem_toDigits (by decide) (by decide) hDigit

/-- A number with zeros before it is read as this number. -/
theorem natural?_padded (w n : Nat) : Decimal.natural? (padded w n).toList = some n := by
  have hZeros : ∀ k, (List.replicate k '0').foldlM Decimal.pushDigit 0 = some 0 := by
    intro k
    induction k with
    | zero => rfl
    | succ k ih => exact ih
  have hSome : (padded w n).toList ≠ [] := by
    rw [toList_padded]
    exact List.append_ne_nil_of_right_ne_nil _ Nat.toDigits_ne_nil
  rw [Decimal.natural?, if_neg (by simpa using hSome), toList_padded, List.foldlM_append, hZeros]
  exact Decimal.foldlM_pushDigit_toDigits n

theorem length_padded (hWidth : 0 < w) (h : n < 10 ^ w) : (padded w n).toList.length = w := by
  have := Nat.toDigits_length 10 n w hWidth h
  rw [toList_padded, List.length_append, List.length_replicate]
  omega

theorem padded_eq_cons (w n : Nat) :
    ∃ d ds, (padded w n).toList = d :: ds ∧ d.isDigit = true := by
  obtain ⟨d, ds, hText⟩ : ∃ d ds, (padded w n).toList = d :: ds := by
    refine List.exists_cons_of_ne_nil fun hEmpty => ?_
    have hRead := natural?_padded w n
    rw [hEmpty] at hRead
    cases hRead
  exact ⟨d, ds, hText, isDigit_of_mem_padded (hText ▸ List.mem_cons_self)⟩

end Date

theorem Text.isBlank_of_isDigit {c : Char} (h : c.isDigit = true) : isBlank c = false := by
  simp only [Char.isDigit, Bool.and_eq_true, decide_eq_true_eq] at h
  have hFrom : 48 ≤ c.toNat := UInt32.le_iff_toNat_le.1 h.1
  have hTo : c.toNat ≤ 57 := UInt32.le_iff_toNat_le.1 h.2
  unfold isBlank
  simp
  omega

namespace TimeReader

theorem blanks_eq {c : Char} (h : Text.isBlank c = false) :
    blanks (c :: rest) = some ((), c :: rest) := by
  show some ((), Text.dropBlanks (c :: rest)) = _
  rw [Text.dropBlanks, List.dropWhile_cons_of_neg (by simp [h])]

theorem number_padded {limit : Option Nat}
    (hLimit : ∀ k ∈ limit, (Date.padded w n).toList.length ≤ k)
    (hRest : EndsDigits rest) :
    number limit ((Date.padded w n).toList ++ rest) = some (n, rest) := by
  obtain ⟨d, ds, hText, hDigit⟩ := Date.padded_eq_cons w n
  have hDigits := (Json.takeWhile_isDigit
    (fun c hc => Date.isDigit_of_mem_padded (w := w) (n := n) hc) hRest).1
  have hLeading : leadingDigits limit ((Date.padded w n).toList ++ rest) =
      (Date.padded w n).toList := by
    unfold leadingDigits
    rw [hDigits]
    cases limit with
    | none => rfl
    | some k => exact List.take_of_length_le (hLimit k rfl)
  have hBlanks : blanks ((Date.padded w n).toList ++ rest) =
      some ((), (Date.padded w n).toList ++ rest) := by
    rw [hText]
    exact blanks_eq (Text.isBlank_of_isDigit hDigit)
  unfold number
  rw [bind_eq hBlanks, bind_eq (a := (Date.padded w n).toList ++ rest) rfl,
    hLeading, Date.natural?_padded, bind_eq (a := n) rfl]
  show some (n, List.drop _ _) = _
  rw [List.drop_left]

/-- A number of two digits is read if it is in range. -/
theorem twoDigits_padded {lo hi : Nat} (hLo : lo ≤ n) (hHi : n ≤ hi) (hTwo : hi < 100)
    (hRest : EndsDigits rest) :
    twoDigits lo hi ((Date.padded 2 n).toList ++ rest) = some (n, rest) := by
  have hNumber : number (some 2) ((Date.padded 2 n).toList ++ rest) = some (n, rest) := by
    refine number_padded (fun k hk => ?_) hRest
    cases hk
    exact Nat.le_of_eq (Date.length_padded (by decide) (by omega))
  unfold twoDigits
  rw [bind_eq hNumber, if_pos ⟨hLo, hHi⟩]
  rfl

theorem char_eq (c : Char) : char c (c :: rest) = some ((), rest) := if_pos rfl

theorem year_of_isDigit {d : Char} {ds : List Char} (h : d.isDigit = true)
    (hNumber : number (some 4) (d :: ds) = some (n, rest)) :
    year (d :: ds) = some ((n : Int), rest) := by
  unfold year
  rw [bind_eq (blanks_eq (Text.isBlank_of_isDigit h))]
  generalize hText : d :: ds = cs at hNumber
  rw [bind_eq (a := cs) rfl]
  split
  · obtain ⟨rfl, -⟩ := List.cons.inj hText
    cases h
  · obtain ⟨rfl, -⟩ := List.cons.inj hText
    cases h
  · rw [bind_eq hNumber]
    rfl

theorem year_of_sign {c d : Char} {ds : List Char} {sign : Int}
    (hSign : c = '-' ∧ sign = -1 ∨ c = '+' ∧ sign = 1) (h : d.isDigit = true)
    (hNumber : number none (d :: ds) = some (n, rest)) :
    year (c :: d :: ds) = some (sign * n, rest) := by
  have hSigned : year.signed sign (d :: ds) = some (sign * n, rest) := by
    unfold year.signed
    generalize hText : d :: ds = cs at hNumber
    rw [bind_eq (a := cs) rfl]
    split
    · obtain ⟨rfl, -⟩ := List.cons.inj hText
      rw [if_pos h, bind_eq hNumber]
      rfl
    · cases hText
  rcases hSign with ⟨rfl, rfl⟩ | ⟨rfl, rfl⟩
  · exact hSigned
  · exact hSigned

/-- A year is read, whatever its sign and number of digits. -/
theorem year_yearText (y : Int) (hRest : EndsDigits rest) :
    year ((Date.yearText y).toList ++ rest) = some (y, rest) := by
  unfold Date.yearText
  split
  · rename_i hPlain
    obtain ⟨d, ds, hText, hDigit⟩ := Date.padded_eq_cons 4 y.toNat
    have hNumber : number (some 4) ((Date.padded 4 y.toNat).toList ++ rest) =
        some (y.toNat, rest) := by
      refine number_padded (fun k hk => ?_) hRest
      cases hk
      exact Nat.le_of_eq (Date.length_padded (by decide) (by omega))
    rw [hText, List.cons_append] at hNumber ⊢
    rw [year_of_isDigit hDigit hNumber, Int.toNat_of_nonneg hPlain.1]
  · obtain ⟨d, ds, hText, hDigit⟩ := Date.padded_eq_cons 4 y.natAbs
    have hNumber : number none ((Date.padded 4 y.natAbs).toList ++ rest) = some (y.natAbs, rest) :=
      number_padded (fun k hk => nomatch hk) hRest
    rw [String.toList_append, List.append_assoc, hText, List.cons_append] at *
    split
    · rw [show "-".toList = ['-'] from rfl, List.singleton_append,
        year_of_sign (.inl ⟨rfl, rfl⟩) hDigit hNumber]
      congr 2
      omega
    · rw [show "+".toList = ['+'] from rfl, List.singleton_append,
        year_of_sign (.inr ⟨rfl, rfl⟩) hDigit hNumber]
      congr 2
      omega

/-- A date is read up to what is no digit. -/
theorem date_text {d : Date} (h : Date.years.holds d.civil.year = true) (hRest : EndsDigits rest) :
    date true (d.text.toList ++ rest) = some (d, rest) := by
  have hPause {more : List Char} : blanks ('-' :: more) = some ((), '-' :: more) :=
    blanks_eq (by decide)
  unfold date Date.text
  simp only [String.toList_append, List.append_assoc, show "-".toList = ['-'] from rfl,
    List.cons_append, List.nil_append, if_true]
  rw [bind_eq (year_yearText _ (endsDigits_cons rfl)), bind_eq hPause, bind_eq (char_eq '-')]
  rw [bind_eq (twoDigits_padded d.civil_month.1 d.civil_month.2 (by decide) (endsDigits_cons rfl)),
    bind_eq hPause, bind_eq (char_eq '-')]
  rw [bind_eq (twoDigits_padded d.civil_day.1 d.civil_day.2 (by decide) hRest)]
  show (Date.ofCivil? d.civil).bind _ = _
  rw [Date.ofCivil?_civil h]
  rfl

end TimeReader

end Numbers

-- ---------------------------------------------------------------------------
-- Instants
-- ---------------------------------------------------------------------------

namespace Instant

open TimeReader (blanks_eq char_eq twoDigits_padded)

variable {t : Instant} {w n : Nat} {rest : List Char}

theorem readFraction_padded (hWidth : 0 < w ∧ w ≤ 9) (h : n < 10 ^ w) (hRest : EndsDigits rest) :
    readFraction ('.' :: ((Date.padded w n).toList ++ rest)) = some (n * 10 ^ (9 - w), rest) := by
  have hLength := Date.length_padded hWidth.1 h
  have hDigits := (Json.takeWhile_isDigit
    (fun c hc => Date.isDigit_of_mem_padded (w := w) (n := n) hc) hRest).1
  show (Decimal.natural? _).map _ = _
  rw [hDigits, List.take_of_length_le (by omega), Date.natural?_padded, Option.map_some,
    List.drop_left, hLength]
  rfl

/-- The fraction of a second is not shown, or with three, six or nine digits. -/
theorem fractionText_cases (h : n < 1000000000) :
    (n = 0 ∧ fractionText n = "") ∨
      ∃ w m, fractionText n = "." ++ Date.padded w m ∧ (0 < w ∧ w ≤ 9) ∧ m < 10 ^ w ∧
        m * 10 ^ (9 - w) = n := by
  unfold fractionText
  split
  · exact .inl ⟨‹_›, rfl⟩
  split
  · exact .inr ⟨3, _, rfl, by decide, by omega, by omega⟩
  split
  · exact .inr ⟨6, _, rfl, by decide, by omega, by omega⟩
  · exact .inr ⟨9, n, rfl, by decide, h, Nat.mul_one n⟩

/-- The fraction of a second is read back. -/
theorem readFraction_fractionText (h : n < 1000000000) (rest : List Char) :
    readFraction ((fractionText n).toList ++ 'Z' :: rest) = some (n, 'Z' :: rest) := by
  rcases fractionText_cases h with ⟨rfl, hText⟩ | ⟨w, m, hText, hWidth, hFits, hValue⟩
  · rfl
  · rw [hText, String.toList_append, List.append_assoc, ← hValue]
    exact readFraction_padded hWidth hFits (endsDigits_cons rfl)

theorem endsDigits_fractionText (h : n < 1000000000) (rest : List Char) :
    EndsDigits ((fractionText n).toList ++ 'Z' :: rest) := by
  rcases fractionText_cases h with ⟨rfl, hText⟩ | ⟨w, m, hText, -⟩
  · exact endsDigits_cons rfl
  · rw [hText, String.toList_append]
    exact endsDigits_cons rfl

/-- Whether a leap second that an instant lies in is the last of its minute. -/
def LeapsAtMinute (t : Instant) : Prop := t.isLeap = true → t.second % 60 = 59

/-- An instant is found at the second and the nanosecond that its text shows. -/
theorem at?_shown (h : t.LeapsAtMinute) :
    let shown := t.secondOfDay % 60 + t.nanos / 1000000000
    let ordinary : Nat := if shown = 60 then 59 else shown
    let leap : Nat := if shown = 60 then 1000000000 else 0
    at? (t.date.days * secondsPerDay + (t.secondOfDay / 3600 : Nat) * 3600 +
      (t.secondOfDay / 60 % 60 : Nat) * 60 + ordinary - 0) (leap + t.subsecond) = some t := by
  intro shown ordinary leap
  have hNanos := t.nanos_lt
  have hLeap : 1000000000 ≤ t.nanos → t.second % 60 = 59 := fun hLong => h (decide_eq_true hLong)
  have hDate : t.date.days * secondsPerDay + t.secondOfDay = t.second := by
    unfold secondOfDay secondsPerDay date
    dsimp only [secondsPerDay]
    omega
  have hDay : t.secondOfDay % 60 = (t.second % 60).toNat := by
    unfold secondOfDay secondsPerDay
    omega
  have hParts : ordinary = t.secondOfDay % 60 ∧ leap = t.nanos / 1000000000 * 1000000000 := by
    by_cases hSixty : shown = 60
    · rw [show ordinary = 59 from if_pos hSixty, show leap = 1000000000 from if_pos hSixty]
      omega
    · rw [show ordinary = shown from if_neg hSixty, show leap = 0 from if_neg hSixty]
      omega
  have hSecond : t.date.days * secondsPerDay + (t.secondOfDay / 3600 : Nat) * 3600 +
      (t.secondOfDay / 60 % 60 : Nat) * 60 + ordinary - 0 = t.second := by
    rw [hParts.1]
    omega
  have hFraction : leap + t.subsecond = t.nanos := by
    rw [hParts.2]
    exact Nat.div_add_mod' t.nanos 1000000000
  rw [hSecond, hFraction]
  exact dif_pos ⟨t.inRange, t.nanos_lt⟩

/-- The text of an instant is read back. -/
theorem ofText?_text (h : t.LeapsAtMinute) : ofText? t.text = some t := by
  have hPause {more : List Char} : TimeReader.blanks (':' :: more) = some ((), ':' :: more) :=
    blanks_eq (by decide)
  have hFraction : t.subsecond < 1000000000 := Nat.mod_lt _ (by decide)
  have hDay : t.secondOfDay < 86400 := by
    unfold secondOfDay secondsPerDay
    omega
  have hSecond : t.secondOfDay % 60 + t.nanos / 1000000000 ≤ 60 := by
    have := t.nanos_lt
    omega
  have hRead : reader t.text.toList = some (t, []) := by
    unfold reader text clockText
    simp only [String.toList_append, List.append_assoc, show "T".toList = ['T'] from rfl,
      show ":".toList = [':'] from rfl, show "Z".toList = ['Z'] from rfl, List.cons_append,
      List.nil_append]
    rw [bind_eq (TimeReader.date_text t.years_hold_date (endsDigits_cons rfl)),
      bind_eq (a := ()) (show readSeparator ('T' :: _) = some ((), _) from rfl)]
    rw [bind_eq (twoDigits_padded (Nat.zero_le _) (by omega) (by decide) (endsDigits_cons rfl)),
      bind_eq hPause, bind_eq (char_eq ':')]
    rw [bind_eq (twoDigits_padded (Nat.zero_le _) (by omega) (by decide) (endsDigits_cons rfl)),
      bind_eq hPause, bind_eq (char_eq ':')]
    rw [bind_eq (twoDigits_padded (Nat.zero_le _) hSecond (by decide)
        (endsDigits_fractionText hFraction [])),
      bind_eq (readFraction_fractionText hFraction []), bind_eq (blanks_eq (by decide)),
      bind_eq (a := 0) (show readOffset ['Z'] = some (0, []) from rfl)]
    show (at? _ _).bind _ = _
    rw [at?_shown h]
    rfl
  unfold ofText?
  rw [hRead]
  rfl

end Instant

-- ---------------------------------------------------------------------------
-- What can be read
-- ---------------------------------------------------------------------------

theorem Decimal.natural?_lt {ds : List Char} {n : Nat} (h : natural? ds = some n) :
    n < 10 ^ ds.length := by
  have hFold : ∀ {ds : List Char} {s n : Nat}, ds.foldlM pushDigit s = some n →
      n < (s + 1) * 10 ^ ds.length := by
    intro ds
    induction ds with
    | nil =>
      rintro s n ⟨⟩
      simp
    | cons d ds ih =>
      intro s n h
      rw [List.foldlM_cons] at h
      obtain ⟨next, hNext, hRest⟩ := Option.bind_eq_some_iff.1 h
      obtain ⟨value, hValue, rfl⟩ := Option.map_eq_some_iff.1 hNext
      have hDigit : value ≤ 9 := by
        unfold digit? at hValue
        split at hValue
        · rename_i hRange
          cases hValue
          have : d.toNat ≤ '9'.toNat := hRange.2
          have : '9'.toNat = 57 := rfl
          have : '0'.toNat = 48 := rfl
          omega
        · cases hValue
      calc n < (10 * s + value + 1) * 10 ^ ds.length := ih hRest
        _ ≤ (s + 1) * 10 * 10 ^ ds.length := Nat.mul_le_mul_right _ (by omega)
        _ = (s + 1) * 10 ^ (d :: ds).length := by
          rw [List.length_cons, Nat.pow_succ', Nat.mul_assoc]
  unfold natural? at h
  split at h
  · cases h
  · have := hFold h
    omega

namespace TimeReader

theorem le_of_twoDigits {lo hi n : Nat} {cs rest : List Char}
    (h : twoDigits lo hi cs = some (n, rest)) : n ≤ hi := by
  obtain ⟨m, more, -, hRange⟩ := bind_eq_some h
  split at hRange
  · rename_i hWithin
    cases hRange
    exact hWithin.2
  · cases hRange

end TimeReader

namespace Instant

theorem lt_of_readFraction {n : Nat} {cs rest : List Char} (h : readFraction cs = some (n, rest)) :
    n < 1000000000 := by
  unfold readFraction at h
  split at h
  · rename_i more
    obtain ⟨m, hRead, hEq⟩ := Option.map_eq_some_iff.1 h
    cases hEq
    have hKept := Decimal.natural?_lt hRead
    have hLength : ((more.takeWhile Char.isDigit).take 9).length ≤ 9 := List.length_take_le ..
    generalize ((more.takeWhile Char.isDigit).take 9).length = k at *
    calc m * 10 ^ (9 - k) < 10 ^ k * 10 ^ (9 - k) :=
          Nat.mul_lt_mul_of_pos_right hKept (Nat.pow_pos (by decide))
      _ = 1000000000 := by rw [← Nat.pow_add, Nat.add_sub_cancel' hLength]
  · cases h
    decide

/-- An offset is made of whole minutes. -/
theorem mod_of_readOffset {offset : Int} {cs rest : List Char}
    (h : readOffset cs = some (offset, rest)) : offset % 60 = 0 := by
  unfold readOffset at h
  split at h
  · cases h
  split at h
  · cases h
    rfl
  split at h
  · cases h
    rfl
  split at h
  · obtain ⟨⟨hours, afterHours⟩, -, h⟩ := Option.bind_eq_some_iff.1 h
    obtain ⟨⟨minutes, after⟩, -, h⟩ := Option.bind_eq_some_iff.1 h
    obtain ⟨-, -, h⟩ := Option.bind_eq_some_iff.1 h
    cases h
    split <;> omega
  · cases h

theorem eq_of_at? {second : Int} {nanos : Nat} {t : Instant} (h : at? second nanos = some t) :
    t.second = second ∧ t.nanos = nanos := by
  unfold at? at h
  split at h
  · cases h
    exact ⟨rfl, rfl⟩
  · cases h

/-- Every instant that is read can be shown. -/
theorem leapsAtMinute_of_ofText? {s : String} {t : Instant} (h : ofText? s = some t) :
    t.LeapsAtMinute := by
  unfold ofText? at h
  split at h
  · rename_i read rest hRead
    split at h
    · cases h
      unfold reader at hRead
      obtain ⟨date, _, -, hRead⟩ := bind_eq_some hRead
      obtain ⟨_, _, -, hRead⟩ := bind_eq_some hRead
      obtain ⟨hour, _, -, hRead⟩ := bind_eq_some hRead
      obtain ⟨_, _, -, hRead⟩ := bind_eq_some hRead
      obtain ⟨_, _, -, hRead⟩ := bind_eq_some hRead
      obtain ⟨minute, _, -, hRead⟩ := bind_eq_some hRead
      obtain ⟨_, _, -, hRead⟩ := bind_eq_some hRead
      obtain ⟨_, _, -, hRead⟩ := bind_eq_some hRead
      obtain ⟨second, _, hSecond, hRead⟩ := bind_eq_some hRead
      obtain ⟨fraction, _, hFraction, hRead⟩ := bind_eq_some hRead
      obtain ⟨_, _, -, hRead⟩ := bind_eq_some hRead
      obtain ⟨offset, _, hOffset, hRead⟩ := bind_eq_some hRead
      obtain ⟨found, hFound, hEq⟩ := Option.bind_eq_some_iff.1 hRead
      cases hEq
      have hLess := lt_of_readFraction hFraction
      have hMinutes := mod_of_readOffset hOffset
      have hBound := TimeReader.le_of_twoDigits hSecond
      obtain ⟨hPlace, hNanos⟩ := eq_of_at? hFound
      intro hLeap
      have hLong : 1000000000 ≤ t.nanos := of_decide_eq_true hLeap
      -- a fraction alone does not reach into a leap second
      have hSixty : second = 60 := by
        rw [hNanos] at hLong
        split at hLong
        · assumption
        · omega
      rw [hPlace, if_pos hSixty]
      unfold secondsPerDay
      omega
    · cases h
  · cases h

end Instant

end TransitForecast

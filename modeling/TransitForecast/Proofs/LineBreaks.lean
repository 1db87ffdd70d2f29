import Mathlib.Data.List.TakeWhile
import TransitForecast.Proofs.Printing

/-!
# TransitForecast — JSON over several lines

No token of JSON goes on after a line break, and no value goes on after its last token. So the
tokens of a text over several lines are those of its lines, one line after the other, and a text of
which two lines are values is no value itself, whatever its other lines are.

Readers of characters and readers of tokens are treated alike: each is shown to be indifferent to
what comes after the part that it reads. For characters that part ends with the line at the latest,
so there the reader may fail as well, and fails with and without the lines after it.

## Results

* `keepsToLine_lexToken?`   — a token is read from its line alone.
* `tokens?_break`           — the tokens of a text over two lines.
* `leavesRest_parse`        — a value is read the same before other tokens.
* `parse?_eq_none_of_two`   — two values on lines of their own are no value.
-/

namespace TransitForecast.Json

open Decimal (spanDigits spanSign lexExponent?)

-- ---------------------------------------------------------------------------
-- Readers that keep to a line
-- ---------------------------------------------------------------------------

/-- Whether a character is one of those that a line ends with. -/
def IsBreak (w : Char) : Prop := w = '\n' ∨ w = '\r'

/-- Whether a reader keeps to the line on which it starts: it reads the same with and without what
comes after the line, and leaves all of that over. -/
structure KeepsToLine {α : Type} (read : List Char → Option (α × List Char)) : Prop where
  length_le : ∀ {cs x after}, read cs = some (x, after) → after.length ≤ cs.length
  cut : ∀ {w}, IsBreak w → ∀ cs more,
    read (cs ++ w :: more) = (read cs).map (Prod.map id (· ++ w :: more))

namespace IsBreak

variable {w : Char}

theorem toNat_lt (h : IsBreak w) : w.toNat < 0x20 := by
  rcases h with rfl | rfl <;> decide

theorem isSpace (h : IsBreak w) : isSpace w = true := by
  rcases h with rfl | rfl <;> rfl

theorem isDigit (h : IsBreak w) : w.isDigit = false := by
  rcases h with rfl | rfl <;> rfl

theorem hexDigit? (h : IsBreak w) : Text.hexDigit? w = none := by
  rcases h with rfl | rfl <;> rfl

end IsBreak

namespace KeepsToLine

variable {α β : Type} {read : List Char → Option (α × List Char)}

protected theorem none : KeepsToLine fun _ => (none : Option (α × List Char)) :=
  ⟨nofun, fun _ _ _ => rfl⟩

protected theorem pure (x : α) : KeepsToLine fun cs => some (x, cs) where
  length_le h := by
    cases h
    exact Nat.le_refl _
  cut _ _ _ := rfl

/-- One reader after another. -/
theorem bind {next : α → List Char → Option (β × List Char)} (h : KeepsToLine read)
    (hNext : ∀ x, KeepsToLine (next x)) :
    KeepsToLine fun cs => (read cs).bind fun r => next r.1 r.2 where
  length_le hRead := by
    obtain ⟨⟨x, rest⟩, hFirst, hRest⟩ := Option.bind_eq_some_iff.1 hRead
    exact Nat.le_trans ((hNext x).length_le hRest) (h.length_le hFirst)
  cut hw cs more := by
    rw [h.cut hw]
    cases read cs with
    | none => rfl
    | some r => exact (hNext r.1).cut hw r.2 more

theorem map (f : α → β) (h : KeepsToLine read) :
    KeepsToLine fun cs => (read cs).map fun r => (f r.1, r.2) := by
  simp only [Option.map_eq_bind]
  exact h.bind fun x => .pure (f x)

protected theorem guard (p : Prop) [Decidable p] (h : KeepsToLine read) :
    KeepsToLine fun cs => if p then read cs else none := by
  by_cases hp : p
  · simpa only [if_pos hp] using h
  · simpa only [if_neg hp] using KeepsToLine.none

/-- A part that may be missing: it starts with a mark, which is no break. -/
theorem optional {x : α} (mark : Char → Prop) (hBreak : ∀ w, IsBreak w → ¬ mark w)
    (hMark : ∀ c, mark c → KeepsToLine fun rest => read (c :: rest))
    (hNil : read [] = some (x, []))
    (hOther : ∀ c, ¬ mark c → ∀ rest, read (c :: rest) = some (x, c :: rest)) :
    KeepsToLine read where
  length_le {cs} y after h := by
    cases cs with
    | nil =>
      rw [hNil] at h
      cases h
      exact Nat.le_refl _
    | cons c cs =>
      by_cases hc : mark c
      · exact Nat.le_succ_of_le ((hMark c hc).length_le h)
      · rw [hOther c hc] at h
        cases h
        exact Nat.le_refl _
  cut {w} hw cs more := by
    cases cs with
    | nil =>
      rw [hNil]
      exact hOther w (hBreak w hw) more
    | cons c cs =>
      by_cases hc : mark c
      · exact (hMark c hc).cut hw cs more
      · rw [List.cons_append, hOther c hc, hOther c hc]
        rfl

end KeepsToLine

-- ---------------------------------------------------------------------------
-- Strings
-- ---------------------------------------------------------------------------

section Strings

variable {w c e : Char} {rest : List Char}

theorem lexPieces?_of_control (h : c.toNat < 0x20) : lexPieces? (c :: rest) = none := by
  rw [lexPieces?.eq_def]
  split
  · rfl
  · rename_i hEq
    cases hEq
    exact absurd h (by decide)
  · rename_i hEq
    cases hEq
    exact absurd h (by decide)
  · rename_i hEq
    cases hEq
    exact absurd h (by decide)
  · rename_i hEq
    cases hEq
    exact if_pos (.inl h)

theorem hex4?_of_break {a b x y : Char} (hw : IsBreak w) (h : w ∈ [a, b, x, y]) :
    hex4? a b x y = none := by
  unfold hex4?
  simp only [List.mem_cons, List.not_mem_nil, or_false] at h
  rcases h with rfl | rfl | rfl | rfl
  all_goals
    rw [hw.hexDigit?]
    simp

/-- The digits of an escape are not looked for on the next line. -/
theorem lexPieces?_unit_break (hw : IsBreak w)
    (h : ∀ a b x y after, rest ≠ a :: b :: x :: y :: after) (more : List Char) :
    lexPieces? ('\\' :: 'u' :: (rest ++ w :: more)) = none := by
  have hDigits : ∀ a b x y after, rest ++ w :: more = a :: b :: x :: y :: after →
      w ∈ [a, b, x, y] := by
    intro a b x y after hEq
    match rest, h, hEq with
    | [], _, hEq =>
      cases hEq
      exact List.mem_cons_self
    | [_], _, hEq =>
      cases hEq
      simp
    | [_, _], _, hEq =>
      cases hEq
      simp
    | [_, _, _], _, hEq =>
      cases hEq
      simp
    | _ :: _ :: _ :: _ :: _, h, _ => exact absurd rfl (h _ _ _ _ _)
  generalize rest ++ w :: more = whole at hDigits
  rw [lexPieces?.eq_def]
  split
  · rfl
  · rename_i hEq
    cases hEq
  · rename_i hEq
    cases hEq
    rw [hex4?_of_break hw (hDigits _ _ _ _ _ rfl)]
  · rename_i hEq
    cases hEq
    rfl
  · rename_i hEq
    cases hEq
    exact if_pos (.inr rfl)

/-- A string that is not closed on its line is closed on no line: a break is no character of it, and
nothing is escaped by one. -/
theorem keepsToLine_lexPieces? : KeepsToLine lexPieces? where
  length_le {cs} pieces after h := by
    fun_induction lexPieces? cs generalizing pieces after with
    | case1 | case4 | case6 | case7 | case9 => cases h
    | case2 rest =>
      cases h
      exact Nat.le_succ _
    | case3 a b x y rest u pieces after hRest hUnit ih =>
      cases h
      have := ih _ _ hRest
      simp only [List.length_cons]
      omega
    | case5 e rest hNamed c pieces after hRest hShort ih =>
      cases h
      have := ih _ _ hRest
      simp only [List.length_cons]
      omega
    | case8 c rest hQuote hUnit hEscape hGood pieces after hRest ih =>
      cases h
      exact Nat.le_succ_of_le (ih _ _ hRest)
  cut {w} hw cs more := by
    fun_induction lexPieces? cs with
    | case1 => exact lexPieces?_of_control hw.toNat_lt
    | case2 rest => rfl
    | case3 a b x y rest u pieces after hRest hUnit ih =>
      rw [hRest] at ih
      exact lexPieces?_unit hUnit ih
    | case4 a b x y rest hNone ih =>
      show lexPieces? ('\\' :: 'u' :: a :: b :: x :: y :: (rest ++ w :: more)) = none
      rw [lexPieces?, ih]
      cases hUnit : hex4? a b x y with
      | none => rfl
      | some u =>
        cases hRest : lexPieces? rest with
        | none => rfl
        | some r => exact (hNone _ _ _ hUnit hRest).elim
    | case5 e rest hNamed c pieces after hRest hShort ih =>
      have hOther : e ≠ 'u' := by
        rintro rfl
        cases hShort
      rw [hRest] at ih
      exact lexPieces?_short hShort hOther ih
    | case6 e rest hNamed hNone ih =>
      by_cases hUnit : e = 'u'
      · subst hUnit
        exact lexPieces?_unit_break hw (fun a b x y after => hNamed a b x y after rfl) more
      · show lexPieces? ('\\' :: e :: (rest ++ w :: more)) = none
        rw [lexPieces?_escape hUnit, ih]
        cases hShort : shortEscape? e with
        | none => rfl
        | some c =>
          cases hRest : lexPieces? rest with
          | none => rfl
          | some r => exact (hNone _ _ _ hShort hRest).elim
    | case7 c rest hQuote hUnit hEscape hBad =>
      rcases hBad with hControl | rfl
      · exact lexPieces?_of_control hControl
      · -- a backslash at the end of the line
        cases rest with
        | nil => rcases hw with rfl | rfl <;> exact lexPieces?_escape (by decide)
        | cons e rest => exact (hEscape e rest rfl rfl).elim
    | case8 c rest hQuote hUnit hEscape hGood pieces after hRest ih =>
      rw [not_or] at hGood
      rw [List.cons_append, lexPieces?_cons hQuote hGood.2 hGood.1, ih, hRest]
      rfl
    | case9 c rest hQuote hUnit hEscape hGood hRest ih =>
      rw [not_or] at hGood
      rw [List.cons_append, lexPieces?_cons hQuote hGood.2 hGood.1, ih, hRest]
      rfl

end Strings

-- ---------------------------------------------------------------------------
-- Numbers
-- ---------------------------------------------------------------------------

section Numbers

variable {c : Char} {cs : List Char}

theorem keepsToLine_spanDigits : KeepsToLine fun cs => some (spanDigits cs) where
  length_le h := by
    cases h
    exact (List.dropWhile_suffix _).length_le
  cut {w} hw cs more := by
    unfold spanDigits
    induction cs with
    | nil => simp [hw.isDigit]
    | cons c cs ih =>
      cases hDigit : c.isDigit with
      | true => simpa [hDigit] using ih
      | false => simp [hDigit]

/-- A run of digits, of which there is at least one. -/
theorem keepsToLine_digits {α : Type} (f : List Char → α) :
    KeepsToLine fun cs =>
      if (spanDigits cs).1.isEmpty then none
      else some (f (spanDigits cs).1, (spanDigits cs).2) := by
  have hSome : ∀ ds : List Char,
      KeepsToLine fun after => if ds.isEmpty then none else some (f ds, after) := by
    intro ds
    cases ds with
    | nil => exact .none
    | cons d ds => exact .pure _
  have hDigits := keepsToLine_spanDigits.bind hSome
  exact hDigits

theorem lexFraction?_other (h : c ≠ '.') (rest : List Char) :
    lexFraction? (c :: rest) = some (none, c :: rest) := by
  unfold lexFraction?
  split
  · rename_i hEq
    exact absurd (List.cons.inj hEq).1 h
  · rfl

theorem keepsToLine_lexFraction? : KeepsToLine lexFraction? := by
  refine .optional (· = '.') ?_ ?_ rfl fun c hPoint => lexFraction?_other hPoint
  · rintro w (rfl | rfl)
    · decide
    · decide
  · rintro c rfl
    exact keepsToLine_digits some

theorem spanSign_other (h : ¬ (c = '-' ∨ c = '+')) (rest : List Char) :
    spanSign (c :: rest) = (false, c :: rest) := by
  unfold spanSign
  split
  · rename_i hEq
    exact absurd (.inl (List.cons.inj hEq).1) h
  · rename_i hEq
    exact absurd (.inr (List.cons.inj hEq).1) h
  · rfl

theorem keepsToLine_spanSign : KeepsToLine fun cs => some (spanSign cs) := by
  refine .optional (fun c => c = '-' ∨ c = '+') ?_ ?_ rfl fun c hSign rest =>
    congrArg some (spanSign_other hSign rest)
  · rintro w (rfl | rfl)
    · decide
    · decide
  · rintro c (rfl | rfl)
    · exact .pure true
    · exact .pure false

theorem lexExponent?_mark (h : c = 'e' ∨ c = 'E') (rest : List Char) :
    lexExponent? (c :: rest) = (some (spanSign rest)).bind fun sign =>
      if (spanDigits sign.2).1.isEmpty then none
      else some (some (if sign.1 then -(Decimal.digitsValue (spanDigits sign.2).1 : Int)
        else Decimal.digitsValue (spanDigits sign.2).1), (spanDigits sign.2).2) := by
  unfold lexExponent?
  dsimp only
  rw [if_pos (by simpa using h)]
  rfl

theorem lexExponent?_other (h : ¬ (c = 'e' ∨ c = 'E')) (rest : List Char) :
    lexExponent? (c :: rest) = some (none, c :: rest) := by
  unfold lexExponent?
  dsimp only
  rw [if_neg (by simpa using h)]

theorem keepsToLine_lexExponent? : KeepsToLine lexExponent? := by
  refine .optional (fun c => c = 'e' ∨ c = 'E') ?_ ?_ rfl fun c hOther => lexExponent?_other hOther
  · rintro w (rfl | rfl)
    · decide
    · decide
  · intro c hMark
    simp only [lexExponent?_mark hMark]
    have hPower := keepsToLine_spanSign.bind fun negative => keepsToLine_digits fun ds =>
      some (if negative then -(Decimal.digitsValue ds : Int) else Decimal.digitsValue ds)
    exact hPower

/-- Reads what follows the whole part of a number. -/
def lexAfterWhole? (negative : Bool) (whole cs : List Char) : Option (Numeral × List Char) :=
  if !whole.isEmpty && (whole.length == 1 || whole.head? != some '0') then
    (lexFraction? cs).bind fun (fraction, afterFraction) =>
      (lexExponent? afterFraction).bind fun (exponent, rest) =>
        some (⟨negative, whole, fraction, exponent⟩, rest)
  else none

theorem keepsToLine_lexAfterWhole? (negative : Bool) (whole : List Char) :
    KeepsToLine (lexAfterWhole? negative whole) := by
  refine .guard _ ?_
  have hRest := keepsToLine_lexFraction?.bind fun fraction =>
    keepsToLine_lexExponent?.bind fun exponent =>
      KeepsToLine.pure (⟨negative, whole, fraction, exponent⟩ : Numeral)
  exact hRest

theorem lexNumber?_eq (negative : Bool) (body : List Char)
    (h : (match cs with
      | '-' :: rest => (true, rest)
      | other => (false, other)) = (negative, body)) :
    lexNumber? cs = lexAfterWhole? negative (spanDigits body).1 (spanDigits body).2 := by
  unfold lexNumber? lexAfterWhole?
  split
  rename_i hSign
  obtain ⟨rfl, rfl⟩ := Prod.mk.inj (h.symm.trans hSign)
  dsimp only
  by_cases hWhole : (!(spanDigits body).1.isEmpty && ((spanDigits body).1.length == 1 ||
    (spanDigits body).1.head? != some '0')) = true
  · rw [if_pos hWhole, hWhole]
    rfl
  · rw [if_neg hWhole, (Bool.not_eq_true _).mp hWhole]
    rfl

theorem lexNumber?_minus (rest : List Char) :
    lexNumber? ('-' :: rest) = lexAfterWhole? true (spanDigits rest).1 (spanDigits rest).2 :=
  lexNumber?_eq true rest rfl

theorem lexNumber?_other (h : c ≠ '-') (rest : List Char) :
    lexNumber? (c :: rest) =
      lexAfterWhole? false (spanDigits (c :: rest)).1 (spanDigits (c :: rest)).2 := by
  refine lexNumber?_eq false (c :: rest) ?_
  split
  · rename_i hEq
    exact absurd (List.cons.inj hEq).1 h
  · rfl

theorem lexNumber?_eq_none (hMinus : c ≠ '-') (hDigit : c.isDigit = false) (rest : List Char) :
    lexNumber? (c :: rest) = none := by
  rw [lexNumber?_other hMinus]
  simp [spanDigits, hDigit, lexAfterWhole?]

theorem keepsToLine_lexNumber? (c : Char) : KeepsToLine fun rest => lexNumber? (c :: rest) := by
  by_cases hMinus : c = '-'
  · subst hMinus
    simp only [lexNumber?_minus]
    have hNumber := keepsToLine_spanDigits.bind (keepsToLine_lexAfterWhole? true)
    exact hNumber
  cases hDigit : c.isDigit with
  | true =>
    have hSpan : ∀ rest,
        spanDigits (c :: rest) = (c :: (spanDigits rest).1, (spanDigits rest).2) := by
      simp [spanDigits, hDigit]
    simp only [lexNumber?_other hMinus, hSpan]
    have hNumber := keepsToLine_spanDigits.bind fun ds =>
      keepsToLine_lexAfterWhole? false (c :: ds)
    exact hNumber
  | false =>
    simp only [lexNumber?_eq_none hMinus hDigit]
    exact .none

end Numbers

-- ---------------------------------------------------------------------------
-- Tokens
-- ---------------------------------------------------------------------------

section Tokens

variable {w c : Char} {cs more rest : List Char}

theorem keepsToLine_afterWord? (t : Token) {word : List Char} (h : ∀ w, IsBreak w → w ∉ word) :
    KeepsToLine fun rest => (afterWord? word rest).map fun after => (t, after) := by
  induction word with
  | nil => exact .pure t
  | cons d word ih =>
    have ih := ih fun w hw hMem => h w hw (List.mem_cons_of_mem _ hMem)
    refine ⟨fun {cs} x after hRead => ?_, fun {w} hw cs more => ?_⟩
    · cases cs with
      | nil => cases hRead
      | cons c cs =>
        unfold afterWord? at hRead
        split at hRead
        · exact Nat.le_succ_of_le (ih.length_le hRead)
        · cases hRead
    · cases cs with
      | nil =>
        have hOther : d ≠ w := fun hEq => h w hw (hEq ▸ List.mem_cons_self)
        simp [afterWord?, hOther]
      | cons c cs =>
        by_cases hSame : d = c
        · simpa [afterWord?, hSame] using ih.cut hw cs more
        · simp [afterWord?, hSame]

/-- The characters that start a token other than a number. -/
def tokenStarts : List Char :=
  ['\x7b', '\x7d', '[', ']', ',', ':', '"', 'n', 't', 'f']

theorem lexToken?_number (h : c ∉ tokenStarts) (rest : List Char) :
    lexToken? c rest = (lexNumber? (c :: rest)).map fun r => (.scalar r.1.value, r.2) := by
  unfold lexToken?
  split
  iterate 10
    · exact absurd (by decide) h
  rfl

theorem keepsToLine_lexToken? (c : Char) : KeepsToLine (lexToken? c) := by
  have hWord : ∀ word : List Char, '\n' ∉ word → '\r' ∉ word → ∀ w, IsBreak w → w ∉ word := by
    rintro word hFeed hReturn w (rfl | rfl)
    · exact hFeed
    · exact hReturn
  by_cases hStart : c ∈ tokenStarts
  · simp only [tokenStarts, List.mem_cons, List.not_mem_nil, or_false] at hStart
    rcases hStart with rfl | rfl | rfl | rfl | rfl | rfl | rfl | rfl | rfl | rfl
    -- the marks first
    iterate 6
      · exact .pure _
    · exact keepsToLine_lexPieces?.map fun pieces => Token.text ((spell? pieces).map String.ofList)
    · exact keepsToLine_afterWord? _ (hWord "ull".toList (by decide) (by decide))
    · exact keepsToLine_afterWord? _ (hWord "rue".toList (by decide) (by decide))
    · exact keepsToLine_afterWord? _ (hWord "alse".toList (by decide) (by decide))
  · have hNumber := (keepsToLine_lexNumber? c).map fun n => Token.scalar n.value
    simpa only [← lexToken?_number hStart] using hNumber

theorem tokensFrom?_of_spaces (h : cs.dropWhile isSpace = []) (n : Nat) :
    tokensFrom? (n + 1) cs = some [] := by
  rw [tokensFrom?, h]

theorem tokensFrom?_of_token (h : cs.dropWhile isSpace = c :: rest) (n : Nat) :
    tokensFrom? (n + 1) cs =
      (lexToken? c rest).bind fun r => (tokensFrom? n r.2).map (r.1 :: ·) := by
  rw [tokensFrom?, h]
  dsimp only
  cases lexToken? c rest with
  | none => rfl
  | some r => rfl

theorem length_lt_of_dropWhile (h : cs.dropWhile isSpace = c :: rest) :
    rest.length < cs.length := by
  have hDrop := (List.dropWhile_suffix (l := cs) isSpace).length_le
  rw [h, List.length_cons] at hDrop
  omega

/-- More steps than characters change nothing. -/
theorem tokensFrom?_of_length_le {m n : Nat} (hm : cs.length ≤ m) (hn : cs.length ≤ n) :
    tokensFrom? m cs = tokensFrom? n cs := by
  induction m generalizing n cs with
  | zero =>
    cases List.length_eq_zero_iff.1 (Nat.le_zero.1 hm)
    cases n with
    | zero => rfl
    | succ n => rfl
  | succ m ih =>
    cases n with
    | zero =>
      cases List.length_eq_zero_iff.1 (Nat.le_zero.1 hn)
      rfl
    | succ n =>
      cases hCut : cs.dropWhile isSpace with
      | nil => rw [tokensFrom?_of_spaces hCut, tokensFrom?_of_spaces hCut]
      | cons c rest =>
        rw [tokensFrom?_of_token hCut, tokensFrom?_of_token hCut]
        refine Option.bind_congr ?_
        rintro ⟨t, after⟩ hToken
        have hLeft := (keepsToLine_lexToken? c).length_le hToken
        have hRest := length_lt_of_dropWhile hCut
        dsimp only
        rw [ih (n := n) (by omega) (by omega)]

theorem tokens?_eq (s : String) : tokens? s = tokensFrom? (s.toList.length + 1) s.toList :=
  tokensFrom?_of_length_le (Nat.le_refl _) (Nat.le_succ _)

/-- Two lines are cut into tokens one after the other. The induction is on the steps, which are
taken on the first line until only white space is left of it. -/
theorem tokensFrom?_break (hw : IsBreak w) {n : Nat} (hLength : cs.length + more.length < n) :
    tokensFrom? n (cs ++ w :: more) =
      (tokensFrom? n cs).bind fun ts => (tokensFrom? n more).map (ts ++ ·) := by
  induction n generalizing cs with
  | zero => cases hLength
  | succ n ih =>
    cases hCut : cs.dropWhile isSpace with
    | nil =>
      have hMore : tokensFrom? (n + 1) (cs ++ w :: more) = tokensFrom? (n + 1) more := by
        rw [tokensFrom?, tokensFrom?, List.dropWhile_append, hCut,
          List.dropWhile_cons_of_pos hw.isSpace]
        rfl
      rw [hMore, tokensFrom?_of_spaces hCut]
      simp
    | cons c rest =>
      have hWhole : (cs ++ w :: more).dropWhile isSpace = c :: (rest ++ w :: more) := by
        rw [List.dropWhile_append, hCut]
        rfl
      have hRest := length_lt_of_dropWhile hCut
      have hMore : tokensFrom? (n + 1) more = tokensFrom? n more :=
        tokensFrom?_of_length_le (by omega) (by omega)
      rw [tokensFrom?_of_token hWhole, tokensFrom?_of_token hCut, hMore,
        (keepsToLine_lexToken? c).cut hw, Option.bind_map, Option.bind_assoc]
      refine Option.bind_congr ?_
      rintro ⟨t, after⟩ hToken
      have hLeft := (keepsToLine_lexToken? c).length_le hToken
      show (tokensFrom? n (after ++ w :: more)).map (t :: ·) = _
      rw [ih (by omega), Option.map_bind, Option.bind_map]
      refine Option.bind_congr fun ts _ => ?_
      rw [Function.comp, Option.map_map]
      rfl

/-- The tokens of a text over two lines are those of the first line, and behind them those of the
second. -/
theorem tokens?_break (hw : IsBreak w) {s a b : String} (h : s.toList = a.toList ++ w :: b.toList) :
    tokens? s = (tokens? a).bind fun ts => (tokens? b).map (ts ++ ·) := by
  have hLength : s.toList.length = a.toList.length + (b.toList.length + 1) := by
    rw [h, List.length_append, List.length_cons]
  have hEnough : ∀ t : String, t.toList.length ≤ s.toList.length →
      tokens? t = tokensFrom? s.toList.length t.toList := fun t hLe =>
    tokensFrom?_of_length_le (Nat.le_refl _) hLe
  rw [hEnough s (Nat.le_refl _), hEnough a (by omega), hEnough b (by omega)]
  generalize s.toList.length = n at hLength
  rw [h]
  exact tokensFrom?_break hw (by omega)

/-- The tokens of lines, one line after the other. -/
def lineTokens? : List String → Option (List Token)
  | [] => some []
  | line :: rest => (tokens? line).bind fun ts => (lineTokens? rest).map (ts ++ ·)

end Tokens

-- ---------------------------------------------------------------------------
-- Values
-- ---------------------------------------------------------------------------

/-- Whether what a reader of tokens reads does not depend on what follows, nor on steps that it does
not need. -/
def LeavesRest {α : Type} (read : Nat → List Token → Option (α × List Token)) (fuel : Nat) : Prop :=
  ∀ {ts x rest}, read fuel ts = some (x, rest) →
    ∀ extra more, read (fuel + extra) (ts ++ more) = some (x, rest ++ more)

section Values

variable {fuel : Nat}

theorem parseItems?_nil (fuel : Nat) : parseItems? fuel [] = none := by
  cases fuel with
  | zero => rfl
  | succ fuel =>
    cases fuel with
    | zero => rfl
    | succ fuel => rfl

theorem parseMembers?_nil (fuel : Nat) : parseMembers? fuel [] = none := by
  cases fuel with
  | zero => rfl
  | succ fuel => rfl

theorem parseValue?_openBrace {t : Token} (h : t ≠ .closeBrace) (fuel : Nat) (ts : List Token) :
    parseValue? (fuel + 1) (.openBrace :: t :: ts) =
      (parseMembers? fuel (t :: ts)).map fun (members, after) =>
        (if members.any (fun m => m.1.isNone) then .unreadable
          else .object (members.map fun m => (m.1.getD "", m.2)), after) := by
  cases t with
  | closeBrace => exact absurd rfl h
  | _ => rfl

theorem leavesRest_parseValue? (hItems : LeavesRest parseItems? fuel)
    (hMembers : LeavesRest parseMembers? fuel) : LeavesRest parseValue? (fuel + 1) := by
  intro ts v rest h extra more
  rw [parseValue?.eq_def] at h
  dsimp only at h
  rw [Nat.succ_add]
  split at h
  · cases h
    rfl
  · cases h
    rfl
  · cases h
    rfl
  · cases h
    rfl
  · rename_i body hNotEmpty
    obtain ⟨⟨items, after⟩, hRead, hEq⟩ := Option.map_eq_some_iff.1 h
    cases hEq
    cases body with
    | nil =>
      rw [parseItems?_nil] at hRead
      cases hRead
    | cons t ts =>
      have hFirst : t ≠ .closeBracket := fun hEq => hNotEmpty ts (by rw [hEq])
      rw [List.cons_append, List.cons_append, parseValue?_openBracket hFirst, ← List.cons_append,
        hItems hRead]
      rfl
  · cases h
    rfl
  · rename_i body hNotEmpty
    obtain ⟨⟨members, after⟩, hRead, hEq⟩ := Option.map_eq_some_iff.1 h
    cases hEq
    cases body with
    | nil =>
      rw [parseMembers?_nil] at hRead
      cases hRead
    | cons t ts =>
      have hFirst : t ≠ .closeBrace := fun hEq => hNotEmpty ts (by rw [hEq])
      rw [List.cons_append, List.cons_append, parseValue?_openBrace hFirst, ← List.cons_append,
        hMembers hRead]
      rfl
  · cases h

theorem leavesRest_parseItems? (hValue : LeavesRest parseValue? fuel)
    (hItems : LeavesRest parseItems? fuel) : LeavesRest parseItems? (fuel + 1) := by
  intro ts items rest h extra more
  rw [parseItems?] at h
  rw [Nat.succ_add, parseItems?]
  split at h
  · rename_i item after hItem
    cases h
    rw [hValue hItem]
    rfl
  · rename_i item after hItem
    obtain ⟨⟨others, left⟩, hRead, hEq⟩ := Option.map_eq_some_iff.1 h
    cases hEq
    rw [hValue hItem]
    show (parseItems? (fuel + extra) (after ++ more)).map _ = _
    rw [hItems hRead]
    rfl
  · cases h

theorem leavesRest_parseMembers? (hValue : LeavesRest parseValue? fuel)
    (hMembers : LeavesRest parseMembers? fuel) : LeavesRest parseMembers? (fuel + 1) := by
  intro ts members rest h extra more
  rw [parseMembers?.eq_def] at h
  dsimp only at h
  rw [Nat.succ_add]
  split at h
  · rename_i name body
    rw [List.cons_append, List.cons_append, parseMembers?]
    split at h
    · rename_i value after hItem
      cases h
      rw [hValue hItem]
      rfl
    · rename_i value after hItem
      obtain ⟨⟨others, left⟩, hRead, hEq⟩ := Option.map_eq_some_iff.1 h
      cases hEq
      rw [hValue hItem]
      show (parseMembers? (fuel + extra) (after ++ more)).map _ = _
      rw [hMembers hRead]
      rfl
    · cases h
  · cases h

theorem leavesRest_parse (fuel : Nat) :
    LeavesRest parseValue? fuel ∧ LeavesRest parseItems? fuel ∧ LeavesRest parseMembers? fuel := by
  induction fuel with
  | zero => exact ⟨nofun, nofun, nofun⟩
  | succ fuel ih =>
    obtain ⟨hValue, hItems, hMembers⟩ := ih
    exact ⟨leavesRest_parseValue? hItems hMembers, leavesRest_parseItems? hValue hItems,
      leavesRest_parseMembers? hValue hMembers⟩

theorem tokens_of_parse? {s : String} {v : Json} (h : parse? s = some v) :
    ∃ ts, tokens? s = some ts ∧ parseValue? (2 * ts.length + 2) ts = some (v, []) := by
  obtain ⟨ts, hTokens, hRead⟩ := Option.bind_eq_some_iff.1 h
  refine ⟨ts, hTokens, ?_⟩
  split at hRead
  · rename_i value hValue
    cases hRead
    exact hValue
  · cases hRead

/-- Two values one after the other are no value: the first one is read, and the tokens of the second
are left over. -/
theorem parse?_eq_none_of_two {s a b : String} {v w : Json} {rest : List String}
    (h : tokens? s = lineTokens? (a :: b :: rest)) (ha : parse? a = some v)
    (hb : parse? b = some w) : parse? s = none := by
  obtain ⟨ts, hFirst, hRead⟩ := tokens_of_parse? ha
  obtain ⟨us, hSecond, hOther⟩ := tokens_of_parse? hb
  have hSome : us ≠ [] := by
    rintro rfl
    cases hOther
  rw [lineTokens?, hFirst, Option.bind_some, lineTokens?, hSecond, Option.bind_some,
    Option.map_map] at h
  cases hWhole : parse? s with
  | none => rfl
  | some x =>
    obtain ⟨all, hTokens, hAll⟩ := tokens_of_parse? hWhole
    rw [hTokens] at h
    obtain ⟨more, -, rfl⟩ := Option.map_eq_some_iff.1 h.symm
    have hFuel : 2 * (ts ++ (us ++ more)).length + 2 =
        2 * ts.length + 2 + 2 * (us ++ more).length := by
      simp only [List.length_append]
      omega
    have hLeft := (leavesRest_parse _).1 hRead (2 * (us ++ more).length) (us ++ more)
    rw [← hFuel] at hLeft
    have hNone : us ++ more = [] := congrArg Prod.snd (Option.some.inj (hLeft.symm.trans hAll))
    exact absurd (List.append_eq_nil_iff.1 hNone).1 hSome

end Values

end TransitForecast.Json

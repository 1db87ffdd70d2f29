import TransitForecast.Json.Parser
import TransitForecast.Json.Printer
import TransitForecast.Proofs.Correlation

/-!
# TransitForecast — JSON is read back

The compact text of a value is read as that value, as long as nothing in it is a floating point
number or could not be read in the first place. Three layers come between: the characters of a
string and of a number, the tokens that the text is cut into, and the value that the tokens are put
together to. Each layer is read with something after it, since that is how the next one uses it.

## Results

* `lexPieces?_written`   — a string is read up to its closing quote, whatever its characters are.
* `lexNumber?_toString`  — a whole number is read up to the character after it.
* `lexes_compact`        — the tokens of the text of a value.
* `parseValue?_tokensOf` — the value of these tokens.
* `parse?_compact`       — the text of a value is read back.
-/

namespace TransitForecast.Json

-- ---------------------------------------------------------------------------
-- Strings
-- ---------------------------------------------------------------------------

section Strings

variable {c e : Char} {cs rest after : List Char} {pieces : List Piece}

/-- A unit below the surrogates stands for its character, whatever follows. -/
theorem spell?_unit {u : Nat} (h : u < 0xd800) :
    spell? (.unit u :: pieces) = (spell? pieces).map (Char.ofNat u :: ·) := by
  have hHigh : isHighSurrogate u = false := by
    rw [isHighSurrogate, Bool.and_eq_false_iff, decide_eq_false_iff_not]
    omega
  have hLow : isLowSurrogate u = false := by
    rw [isLowSurrogate, Bool.and_eq_false_iff, decide_eq_false_iff_not]
    omega
  match pieces with
  | [] => simp [spell?, hHigh, hLow]
  | .char c :: rest => simp [spell?, hHigh, hLow]
  | .unit v :: rest =>
    rw [spell?, hHigh, hLow, if_neg Bool.false_ne_true, if_neg Bool.false_ne_true]

theorem lexPieces?_escape (h : e ≠ 'u') : lexPieces? ('\\' :: e :: rest) =
    match shortEscape? e, lexPieces? rest with
    | some c, some (pieces, after) => some (.char c :: pieces, after)
    | _, _ => none :=
  lexPieces?.eq_4 e rest fun _ _ _ _ _ hEq => absurd hEq h

theorem lexPieces?_cons (hQuote : c ≠ '"') (hBackslash : c ≠ '\\') (h : ¬ c.toNat < 0x20) :
    lexPieces? (c :: rest) = (lexPieces? rest).map fun r => (.char c :: r.1, r.2) := by
  rw [lexPieces?.eq_5 c rest hQuote (fun _ _ _ _ _ hEq => absurd hEq hBackslash)
    fun _ _ hEq => absurd hEq hBackslash, if_neg (not_or.2 ⟨h, hBackslash⟩)]
  cases lexPieces? rest with
  | none => rfl
  | some r => rfl

theorem lexPieces?_short (hShort : shortEscape? e = some c) (hNamed : e ≠ 'u')
    (h : lexPieces? rest = some (pieces, after)) :
    lexPieces? ('\\' :: e :: rest) = some (.char c :: pieces, after) := by
  rw [lexPieces?_escape hNamed, hShort, h]

theorem lexPieces?_unit {a b x y : Char} {u : Nat} (hUnit : hex4? a b x y = some u)
    (h : lexPieces? rest = some (pieces, after)) :
    lexPieces? ('\\' :: 'u' :: a :: b :: x :: y :: rest) = some (.unit u :: pieces, after) := by
  rw [lexPieces?, hUnit, h]

theorem lexPieces?_plain (hQuote : c ≠ '"') (hBackslash : c ≠ '\\') (hPrinted : ¬ c.toNat < 0x20)
    (h : lexPieces? rest = some (pieces, after)) :
    lexPieces? (c :: rest) = some (.char c :: pieces, after) := by
  rw [lexPieces?_cons hQuote hBackslash hPrinted, h, Option.map_some]

/-- The four digits of a control character. -/
theorem hex4?_control {n : Nat} (h : n < 0x20) :
    hex4? '0' '0' (Nat.digitChar (n / 16)) (Nat.digitChar (n % 16)) = some n := by
  revert n
  decide

/-- A character is read back from its text, and the rest as it would be without it. -/
theorem lexPieces?_escapedChar (c : Char) (h : lexPieces? rest = some (pieces, after)) :
    ∃ piece, lexPieces? (escapedChar c ++ rest) = some (piece :: pieces, after) ∧
      spell? (piece :: pieces) = (spell? pieces).map (c :: ·) := by
  have hShort : ∀ e, shortEscape? e = some c → e ≠ 'u' →
      ∃ piece, lexPieces? (['\\', e] ++ rest) = some (piece :: pieces, after) ∧
        spell? (piece :: pieces) = (spell? pieces).map (c :: ·) := fun e hShort hNamed =>
    ⟨.char c, lexPieces?_short hShort hNamed h, rfl⟩
  unfold escapedChar
  split
  · rename_i hEq
    exact hShort '"' (by rw [hEq]; rfl) (by decide)
  rename_i hQuote
  split
  · rename_i hEq
    exact hShort '\\' (by rw [hEq]; rfl) (by decide)
  rename_i hBackslash
  split
  · rename_i hEq
    exact hShort 'n' (by rw [hEq]; rfl) (by decide)
  split
  · rename_i hEq
    exact hShort 'r' (by rw [hEq]; rfl) (by decide)
  split
  · rename_i hEq
    exact hShort 't' (by rw [hEq]; rfl) (by decide)
  split
  · rename_i hEq
    exact hShort 'b' (by rw [hEq]; rfl) (by decide)
  split
  · rename_i hEq
    exact hShort 'f' (by rw [hEq]; rfl) (by decide)
  split
  · rename_i hControl
    refine ⟨.unit c.toNat, lexPieces?_unit (hex4?_control hControl) h, ?_⟩
    rw [spell?_unit (by omega), Char.ofNat_toNat]
  · rename_i hPrinted
    exact ⟨.char c, lexPieces?_plain hQuote hBackslash hPrinted h, rfl⟩

/-- A string is read up to its closing quote. -/
theorem lexPieces?_written (cs rest : List Char) :
    ∃ pieces, lexPieces? (cs.flatMap escapedChar ++ '"' :: rest) = some (pieces, rest) ∧
      spell? pieces = some cs := by
  induction cs with
  | nil => exact ⟨[], rfl, rfl⟩
  | cons c cs ih =>
    obtain ⟨pieces, hLex, hSpell⟩ := ih
    obtain ⟨piece, hLexed, hSpelled⟩ := lexPieces?_escapedChar c hLex
    rw [List.flatMap_cons, List.append_assoc]
    exact ⟨piece :: pieces, hLexed, by rw [hSpelled, hSpell]; rfl⟩

end Strings

-- ---------------------------------------------------------------------------
-- Whole numbers
-- ---------------------------------------------------------------------------

/-- Whether a text cannot go on with the number before it. -/
def EndsNumber (rest : List Char) : Prop :=
  ∀ c ∈ rest.head?, c.isDigit = false ∧ c ≠ '.' ∧ c ≠ 'e' ∧ c ≠ 'E'

section Numbers

variable {rest : List Char}

theorem takeWhile_isDigit {ds : List Char} (hDigits : ∀ d ∈ ds, d.isDigit = true)
    (hRest : ∀ c ∈ rest.head?, c.isDigit = false) :
    (ds ++ rest).takeWhile Char.isDigit = ds ∧ (ds ++ rest).dropWhile Char.isDigit = rest := by
  rw [List.takeWhile_append_of_pos hDigits, List.dropWhile_append_of_pos hDigits]
  cases rest with
  | nil => simp
  | cons c more =>
    have hc : c.isDigit = false := hRest c rfl
    rw [List.takeWhile_cons_of_neg (by simp [hc]), List.dropWhile_cons_of_neg (by simp [hc])]
    exact ⟨List.append_nil ds, rfl⟩

theorem lexFraction?_none (h : EndsNumber rest) : lexFraction? rest = some (none, rest) := by
  cases rest with
  | nil => rfl
  | cons c more =>
    unfold lexFraction?
    split
    · rename_i hEq
      exact absurd (List.cons.inj hEq).1 (h c rfl).2.1
    · rfl

theorem lexExponent?_none (h : EndsNumber rest) :
    Decimal.lexExponent? rest = some (none, rest) := by
  cases rest with
  | nil => rfl
  | cons c more =>
    obtain ⟨-, -, hSmall, hLarge⟩ := h c rfl
    simp [Decimal.lexExponent?, hSmall, hLarge]

theorem toDigits_eq_cons (n : Nat) : ∃ d ds, Nat.toDigits 10 n = d :: ds ∧ d.isDigit = true := by
  obtain ⟨d, ds, hDigits⟩ := List.exists_cons_of_ne_nil (Nat.toDigits_ne_nil (n := n) (b := 10))
  exact ⟨d, ds, hDigits,
    Nat.isDigit_of_mem_toDigits (by decide) (by decide) (hDigits ▸ List.mem_cons_self)⟩

/-- A number of several digits does not start with zero. -/
theorem head?_toDigits {n : Nat} (h : (Nat.toDigits 10 n).length ≠ 1) :
    (Nat.toDigits 10 n).head? ≠ some '0' := by
  induction n using Nat.strongRecOn with
  | _ n ih =>
    rcases Nat.lt_or_ge n 10 with hSmall | hLarge
    · rw [Nat.toDigits_of_lt_base hSmall] at h
      exact absurd rfl h
    · obtain ⟨d, ds, hFront, -⟩ := toDigits_eq_cons (n / 10)
      have hHead : (Nat.toDigits 10 n).head? = (Nat.toDigits 10 (n / 10)).head? := by
        rw [Nat.toDigits_of_base_le (by omega) hLarge, hFront]
        rfl
      rw [hHead]
      rcases Nat.lt_or_ge (n / 10) 10 with hTwo | hMore
      · rw [Nat.toDigits_of_lt_base hTwo]
        have hPos : 0 < n / 10 := by omega
        revert hTwo hPos
        generalize n / 10 = d
        revert d
        decide
      · refine ih (n / 10) (by omega) ?_
        rw [Nat.toDigits_of_base_le (by omega) hMore, List.length_append]
        obtain ⟨d, ds, hDigits, -⟩ := toDigits_eq_cons (n / 10 / 10)
        rw [hDigits]
        simp

/-- A whole number is read up to what cannot go on with it. -/
theorem lexNumber?_toString (n : Int) (h : EndsNumber rest) :
    lexNumber? ((toString n).toList ++ rest) =
      some (⟨decide (n < 0), Nat.toDigits 10 n.natAbs, none, none⟩, rest) := by
  obtain ⟨hWhole, hAfter⟩ := takeWhile_isDigit
    (fun d (hd : d ∈ Nat.toDigits 10 n.natAbs) =>
      Nat.isDigit_of_mem_toDigits (by decide) (by decide) hd) (fun c hc => (h c hc).1)
  have hSome : (Nat.toDigits 10 n.natAbs).isEmpty = false :=
    List.isEmpty_eq_false_iff.2 Nat.toDigits_ne_nil
  have hCanonical : (!(Nat.toDigits 10 n.natAbs).isEmpty &&
      ((Nat.toDigits 10 n.natAbs).length == 1 ||
        (Nat.toDigits 10 n.natAbs).head? != some '0')) = true := by
    rw [hSome]
    by_cases hOne : (Nat.toDigits 10 n.natAbs).length = 1
    · simp [hOne]
    · simp [hOne, head?_toDigits hOne]
  unfold lexNumber?
  split
  rename_i negative body hSign
  obtain ⟨rfl, rfl⟩ : negative = decide (n < 0) ∧ body = Nat.toDigits 10 n.natAbs ++ rest := by
    cases n with
    | ofNat m =>
      rw [Decimal.toList_toString_ofNat] at hSign
      obtain ⟨d, ds, hDigits, hDigit⟩ := toDigits_eq_cons m
      rw [hDigits, List.cons_append] at hSign
      split at hSign
      · -- no digit is taken for a sign
        rename_i hEq
        rw [(List.cons.inj hEq).1] at hDigit
        cases hDigit
      · cases hSign
        exact ⟨rfl, by rw [Int.natAbs_ofNat', hDigits]; rfl⟩
    | negSucc m =>
      rw [Decimal.toList_toString_negSucc] at hSign
      cases hSign
      exact ⟨(decide_eq_true (Int.negSucc_lt_zero m)).symm, rfl⟩
  unfold Decimal.spanDigits
  dsimp only
  rw [hWhole, hAfter, hCanonical, lexFraction?_none h]
  show (Decimal.lexExponent? rest).bind _ = _
  rw [lexExponent?_none h]
  rfl

theorem le_of_foldlM_pushDigit {ds : List Char} {s n : Nat}
    (h : ds.foldlM Decimal.pushDigit s = some n) : s ≤ n := by
  induction ds generalizing s with
  | nil =>
    cases h
    exact Nat.le_refl _
  | cons d ds ih =>
    rw [List.foldlM_cons] at h
    obtain ⟨next, hNext, hRest⟩ := Option.bind_eq_some_iff.1 h
    obtain ⟨value, -, rfl⟩ := Option.map_eq_some_iff.1 hNext
    have := ih hRest
    omega

/-- Digits of a number of 64 bits are all appended. -/
theorem gather_of_foldlM {ds : List Char} {s n : Nat} (hFits : n < 18446744073709551616)
    (h : ds.foldlM Decimal.pushDigit s = some n) : gather s ds = (n, []) := by
  induction ds generalizing s with
  | nil =>
    cases h
    rfl
  | cons d ds ih =>
    rw [List.foldlM_cons] at h
    obtain ⟨next, hNext, hRest⟩ := Option.bind_eq_some_iff.1 h
    obtain ⟨value, hValue, rfl⟩ := Option.map_eq_some_iff.1 hNext
    have hDigit : Decimal.digitsValue [d] = value := by
      simp [Decimal.digitsValue, Decimal.natural?, Decimal.pushDigit, hValue]
    have hLe := le_of_foldlM_pushDigit hRest
    rw [gather, hDigit, if_pos (by omega)]
    exact ih (by rwa [Nat.mul_comm])

/-- Whether a whole number is one of those that JSON values hold. -/
def Whole (n : Int) : Prop := -9223372036854775808 ≤ n ∧ n < 18446744073709551616

theorem value_toDigits {n : Int} (h : Whole n) :
    Numeral.value ⟨decide (n < 0), Nat.toDigits 10 n.natAbs, none, none⟩ = .int n := by
  unfold Whole at h
  have hGather := gather_of_foldlM (by omega) (Decimal.foldlM_pushDigit_toDigits n.natAbs)
  unfold Numeral.value
  rw [hGather]
  dsimp only
  rcases Int.lt_or_le n 0 with hNeg | hNonneg
  · have hHolds : Decimal.int64.holds (-(n.natAbs : Int)) = true := by
      rw [Decimal.Bounds.holds, Bool.and_eq_true, decide_eq_true_eq, decide_eq_true_eq]
      show -9223372036854775808 ≤ -(n.natAbs : Int) ∧ -(n.natAbs : Int) ≤ 9223372036854775807
      omega
    have hAbs : -(n.natAbs : Int) = n := by omega
    rw [hHolds, hAbs]
    simp [hNeg]
    omega
  · have hAbs : (n.natAbs : Int) = n := by omega
    have hSign : decide (n < 0) = false := by
      rw [decide_eq_false_iff_not]
      omega
    rw [hSign, hAbs]
    rfl

end Numbers

-- ---------------------------------------------------------------------------
-- Tokens
-- ---------------------------------------------------------------------------

/-- Whether every number in a value is a whole one that JSON values hold, and all of it can be
read. -/
inductive Printable : Json → Prop
  | null : Printable .null
  | bool (b : Bool) : Printable (.bool b)
  | int {n : Int} (h : Whole n) : Printable (.int n)
  | string (s : String) : Printable (.string s)
  | array {items : List Json} (h : ∀ i ∈ items, Printable i) : Printable (.array items)
  | object {members : List (String × Json)} (h : ∀ m ∈ members, Printable m.2) :
    Printable (.object members)

mutual

/-- The tokens of the text of a value. -/
def tokensOf : Json → List Token
  | .array items => .openBracket :: (itemTokens items ++ [.closeBracket])
  | .object members => .openBrace :: (memberTokens members ++ [.closeBrace])
  | .string s => [.text (some s)]
  | scalar => [.scalar scalar]

/-- The tokens of items with commas between them. -/
def itemTokens : List Json → List Token
  | [] => []
  | [item] => tokensOf item
  | item :: rest => tokensOf item ++ .comma :: itemTokens rest

/-- The tokens of members with commas between them. -/
def memberTokens : List (String × Json) → List Token
  | [] => []
  | [(name, value)] => .text (some name) :: .colon :: tokensOf value
  | (name, value) :: rest =>
    .text (some name) :: .colon :: (tokensOf value ++ .comma :: memberTokens rest)

end

/-- Whether a text in front of another is cut into tokens of its own. There are no more of them than
characters. -/
structure Lexes (cs : List Char) (ts : List Token) (rest : List Char) : Prop where
  length_le : ts.length ≤ cs.length
  cut : ∀ fuel, tokensFrom? (ts.length + fuel) (cs ++ rest) = (tokensFrom? fuel rest).map (ts ++ ·)

section Tokens

variable {c : Char} {cs ds rest : List Char} {t : Token} {ts us : List Token} {j : Json}

theorem Lexes.append (hFront : Lexes cs ts (ds ++ rest)) (hBack : Lexes ds us rest) :
    Lexes (cs ++ ds) (ts ++ us) rest := by
  refine ⟨?_, fun fuel => ?_⟩
  · have := hFront.length_le
    have := hBack.length_le
    simp only [List.length_append]
    omega
  · rw [List.length_append, Nat.add_assoc, List.append_assoc, hFront.cut, hBack.cut,
      Option.map_map]
    exact congrArg (Option.map · _) (funext fun more => (List.append_assoc ts us more).symm)

theorem lexes_nil : Lexes [] [] rest :=
  ⟨Nat.le_refl _, fun fuel => by simp⟩

theorem lexes_token (hSpace : isSpace c = false) (h : lexToken? c (cs ++ rest) = some (t, rest)) :
    Lexes (c :: cs) [t] rest := by
  refine ⟨by simp, fun fuel => ?_⟩
  rw [List.length_singleton, Nat.add_comm, List.cons_append, tokensFrom?,
    List.dropWhile_cons_of_neg (by simp [hSpace])]
  dsimp only
  rw [h]
  rfl

/-- A mark is a token of its own. -/
theorem lexes_mark (c : Char) (t : Token) (hSpace : isSpace c = false)
    (h : ∀ rest, lexToken? c rest = some (t, rest)) : Lexes [c] [t] rest :=
  lexes_token hSpace (h rest)

theorem lexes_writeString (s : String) : Lexes (writeString s).toList [.text (some s)] rest := by
  obtain ⟨pieces, hLex, hSpell⟩ := lexPieces?_written s.toList rest
  rw [writeString, String.toList_ofList]
  refine lexes_token rfl ?_
  rw [List.append_assoc]
  show (lexPieces? _).map _ = _
  rw [List.singleton_append, hLex, Option.map_some]
  dsimp only
  rw [hSpell, Option.map_some, String.ofList_toList]

theorem lexes_toString {n : Int} (h : Whole n) (hRest : EndsNumber rest) :
    Lexes (toString n).toList [.scalar (.int n)] rest := by
  have hNumber := lexNumber?_toString n hRest
  obtain ⟨c, cs, hText, hStart⟩ : ∃ c cs, (toString n).toList = c :: cs ∧
      (c = '-' ∨ c.isDigit = true) := by
    cases n with
    | ofNat m =>
      obtain ⟨d, ds, hDigits, hDigit⟩ := toDigits_eq_cons m
      exact ⟨d, ds, (Decimal.toList_toString_ofNat m).trans hDigits, .inr hDigit⟩
    | negSucc m => exact ⟨_, _, Decimal.toList_toString_negSucc m, .inl rfl⟩
  rw [hText] at hNumber ⊢
  have hOther : ∀ d : Char, d ≠ '-' → d.isDigit = false → c ≠ d := by
    rintro d hMinus hDigit rfl
    rcases hStart with rfl | hStart
    · exact hMinus rfl
    · rw [hDigit] at hStart
      cases hStart
  refine lexes_token ?_ ?_
  · simp [isSpace, hOther ' ' (by decide) (by decide), hOther '\n' (by decide) (by decide),
      hOther '\t' (by decide) (by decide), hOther '\r' (by decide) (by decide)]
  · rw [List.cons_append] at hNumber
    unfold lexToken?
    split
    iterate 10
      · exact absurd rfl (hOther _ (by decide) (by decide))
    rw [hNumber, Option.map_some]
    dsimp only
    rw [value_toDigits h]

theorem endsNumber_cons (h : c.isDigit = false ∧ c ≠ '.' ∧ c ≠ 'e' ∧ c ≠ 'E') :
    EndsNumber (c :: rest) := by
  rintro d hd
  cases hd
  exact h

/-- Items are cut into tokens if each of them is. -/
theorem lexes_items {items : List Json} (hRest : EndsNumber rest)
    (h : ∀ i ∈ items, ∀ rest, EndsNumber rest → Lexes i.compact.toList (tokensOf i) rest) :
    Lexes (compactItems items).toList (itemTokens items) rest := by
  induction items with
  | nil => exact lexes_nil
  | cons item others ih =>
    have hItem := h item List.mem_cons_self
    cases others with
    | nil => exact hItem rest hRest
    | cons next others =>
      have hOthers := ih fun i hi => h i (List.mem_cons_of_mem _ hi)
      rw [compactItems, itemTokens, String.toList_append, String.toList_append, List.append_assoc]
      · refine (hItem _ (endsNumber_cons (by decide))).append ?_
        exact (lexes_mark ',' .comma rfl fun _ => rfl).append hOthers
      · exact fun hEq => nomatch hEq
      · exact fun hEq => nomatch hEq

/-- Members are cut into tokens if the value of each of them is. -/
theorem lexes_members {members : List (String × Json)} (hRest : EndsNumber rest)
    (h : ∀ m ∈ members, ∀ rest, EndsNumber rest → Lexes m.2.compact.toList (tokensOf m.2) rest) :
    Lexes (compactMembers members).toList (memberTokens members) rest := by
  induction members with
  | nil => exact lexes_nil
  | cons member others ih =>
    obtain ⟨name, value⟩ := member
    have hValue := h (name, value) List.mem_cons_self
    cases others with
    | nil =>
      rw [compactMembers, memberTokens, String.toList_append, String.toList_append,
        List.append_assoc]
      exact (lexes_writeString name).append
        ((lexes_mark ':' .colon rfl fun _ => rfl).append (hValue rest hRest))
    | cons next others =>
      have hOthers := ih fun m hm => h m (List.mem_cons_of_mem _ hm)
      rw [compactMembers, memberTokens]
      · simp only [String.toList_append, List.append_assoc]
        refine (lexes_writeString name).append
          ((lexes_mark ':' .colon rfl fun _ => rfl).append ?_)
        refine (hValue _ (endsNumber_cons (by decide))).append ?_
        exact (lexes_mark ',' .comma rfl fun _ => rfl).append hOthers
      · exact fun hEq => nomatch hEq
      · exact fun hEq => nomatch hEq

/-- The tokens of the text of a value. -/
theorem lexes_compact (h : Printable j) :
    ∀ rest, EndsNumber rest → Lexes j.compact.toList (tokensOf j) rest := by
  induction h with
  | null => exact fun rest _ => lexes_token rfl rfl
  | bool b =>
    intro rest _
    cases b with
    | true => exact lexes_token rfl rfl
    | false => exact lexes_token rfl rfl
  | int h => exact fun rest hRest => lexes_toString h hRest
  | string s => exact fun rest _ => lexes_writeString s
  | array h ih =>
    intro rest _
    rw [compact, tokensOf, String.toList_append, String.toList_append, List.append_assoc]
    refine (lexes_mark '[' .openBracket rfl fun _ => rfl).append ?_
    refine (lexes_items (endsNumber_cons (by decide)) ih).append ?_
    exact lexes_mark ']' .closeBracket rfl fun _ => rfl
  | object h ih =>
    intro rest _
    rw [compact, tokensOf, String.toList_append, String.toList_append, List.append_assoc]
    refine (lexes_mark '\x7b' .openBrace rfl fun _ => rfl).append ?_
    refine (lexes_members (endsNumber_cons (by decide)) ih).append ?_
    exact lexes_mark '\x7d' .closeBrace rfl fun _ => rfl

/-- The tokens of a text that is a value. -/
theorem tokens?_compact (h : Printable j) : tokens? j.compact = some (tokensOf j) := by
  have hLexes := lexes_compact h [] (fun c hc => nomatch hc)
  obtain ⟨fuel, hFuel⟩ := Nat.le.dest hLexes.length_le
  have hEnd : tokensFrom? fuel [] = some [] := by
    cases fuel with
    | zero => rfl
    | succ fuel => rfl
  unfold tokens?
  dsimp only
  rw [← hFuel, ← List.append_nil j.compact.toList, hLexes.cut, hEnd]
  simp

end Tokens

-- ---------------------------------------------------------------------------
-- Values
-- ---------------------------------------------------------------------------

/-- Whether tokens in front of others are read as a value, in two steps a token at most. -/
def Reads (j : Json) : Prop :=
  ∀ fuel rest, 2 * (tokensOf j).length ≤ fuel →
    parseValue? fuel (tokensOf j ++ rest) = some (j, rest)

section Values

variable {j : Json} {rest : List Token}

/-- No value starts with the end of a list. -/
theorem tokensOf_eq_cons (j : Json) :
    ∃ t ts, tokensOf j = t :: ts ∧ t ≠ .closeBracket := by
  cases j with
  | array items => exact ⟨_, _, rfl, nofun⟩
  | object members => exact ⟨_, _, rfl, nofun⟩
  | string s => exact ⟨_, _, rfl, nofun⟩
  | null => exact ⟨_, _, rfl, nofun⟩
  | bool b => exact ⟨_, _, rfl, nofun⟩
  | int n => exact ⟨_, _, rfl, nofun⟩
  | float x => exact ⟨_, _, rfl, nofun⟩
  | unreadable => exact ⟨_, _, rfl, nofun⟩

theorem itemTokens_eq_cons (item : Json) (others : List Json) :
    ∃ t ts, itemTokens (item :: others) = t :: ts ∧ t ≠ .closeBracket := by
  obtain ⟨t, ts, hTokens, hStart⟩ := tokensOf_eq_cons item
  cases others with
  | nil => exact ⟨t, ts, hTokens, hStart⟩
  | cons next others =>
    refine ⟨t, ts ++ .comma :: itemTokens (next :: others), ?_, hStart⟩
    rw [itemTokens, hTokens]
    · rfl
    · exact fun hEq => nomatch hEq

/-- Items are read if each of them is. -/
theorem parseItems?_itemTokens {items : List Json} (hSome : items ≠ []) (h : ∀ i ∈ items, Reads i) :
    ∀ fuel rest, 2 * (itemTokens items).length + 1 ≤ fuel →
      parseItems? fuel (itemTokens items ++ .closeBracket :: rest) = some (items, rest) := by
  induction items with
  | nil => exact absurd rfl hSome
  | cons item others ih =>
    have hItem := h item List.mem_cons_self
    intro fuel rest hFuel
    obtain ⟨fuel, rfl⟩ : ∃ f, fuel = f + 1 := ⟨fuel - 1, by omega⟩
    cases others with
    | nil =>
      rw [itemTokens] at hFuel ⊢
      rw [parseItems?, hItem fuel _ (by omega)]
    | cons next others =>
      have hTokens : itemTokens (item :: next :: others) =
          tokensOf item ++ .comma :: itemTokens (next :: others) :=
        itemTokens.eq_3 _ _ fun hEq => nomatch hEq
      rw [hTokens, List.length_append, List.length_cons] at hFuel
      have hOthers := ih (List.cons_ne_nil _ _) (fun i hi => h i (List.mem_cons_of_mem _ hi)) fuel
        rest (by omega)
      rw [hTokens, List.append_assoc, List.cons_append, parseItems?, hItem fuel _ (by omega)]
      dsimp only
      rw [hOthers]
      rfl

/-- Members are read if the value of each of them is. -/
theorem parseMembers?_memberTokens {members : List (String × Json)} (hSome : members ≠ [])
    (h : ∀ m ∈ members, Reads m.2) :
    ∀ fuel rest, 2 * (memberTokens members).length + 1 ≤ fuel →
      parseMembers? fuel (memberTokens members ++ .closeBrace :: rest) =
        some (members.map fun m => (some m.1, m.2), rest) := by
  induction members with
  | nil => exact absurd rfl hSome
  | cons member others ih =>
    obtain ⟨name, value⟩ := member
    have hValue : Reads value := h (name, value) List.mem_cons_self
    intro fuel rest hFuel
    obtain ⟨fuel, rfl⟩ : ∃ f, fuel = f + 1 := ⟨fuel - 1, by omega⟩
    cases others with
    | nil =>
      rw [memberTokens] at hFuel ⊢
      simp only [List.length_cons] at hFuel
      rw [List.cons_append, List.cons_append, parseMembers?, hValue fuel _ (by omega)]
      rfl
    | cons next others =>
      have hTokens : memberTokens ((name, value) :: next :: others) =
          .text (some name) :: .colon ::
            (tokensOf value ++ .comma :: memberTokens (next :: others)) :=
        memberTokens.eq_3 _ _ _ fun hEq => nomatch hEq
      rw [hTokens] at hFuel ⊢
      simp only [List.length_cons, List.length_append] at hFuel
      have hOthers := ih (List.cons_ne_nil _ _) (fun m hm => h m (List.mem_cons_of_mem _ hm)) fuel
        rest (by omega)
      rw [List.cons_append, List.cons_append, List.append_assoc, List.cons_append, parseMembers?,
        hValue fuel _ (by omega)]
      dsimp only
      rw [hOthers]
      rfl

theorem parseValue?_openBracket {t : Token} (h : t ≠ .closeBracket) (fuel : Nat) :
    parseValue? (fuel + 1) (.openBracket :: t :: rest) =
      (parseItems? fuel (t :: rest)).map fun (items, after) => (.array items, after) := by
  cases t with
  | closeBracket => exact absurd rfl h
  | _ => rfl

theorem reads_scalar {t : Token} (hTokens : tokensOf j = [t])
    (h : ∀ fuel rest, parseValue? (fuel + 1) (t :: rest) = some (j, rest)) : Reads j := by
  intro fuel rest hFuel
  rw [hTokens, List.length_singleton] at hFuel
  obtain ⟨fuel, rfl⟩ : ∃ f, fuel = f + 1 := ⟨fuel - 1, by omega⟩
  rw [hTokens]
  exact h fuel rest

theorem reads_array {items : List Json} (h : ∀ i ∈ items, Reads i) : Reads (.array items) := by
  intro fuel rest hFuel
  simp only [tokensOf, List.length_cons, List.length_append, List.length_nil] at hFuel
  obtain ⟨fuel, rfl⟩ : ∃ f, fuel = f + 1 := ⟨fuel - 1, by omega⟩
  rw [tokensOf, List.cons_append, List.append_assoc, List.singleton_append]
  cases items with
  | nil => rfl
  | cons item others =>
    have hItems := parseItems?_itemTokens (List.cons_ne_nil item others) h fuel rest (by omega)
    obtain ⟨t, ts, hTokens, hStart⟩ := itemTokens_eq_cons item others
    rw [hTokens, List.cons_append] at hItems ⊢
    rw [parseValue?_openBracket hStart, hItems]
    rfl

theorem reads_object {members : List (String × Json)} (h : ∀ m ∈ members, Reads m.2) :
    Reads (.object members) := by
  intro fuel rest hFuel
  simp only [tokensOf, List.length_cons, List.length_append, List.length_nil] at hFuel
  obtain ⟨fuel, rfl⟩ : ∃ f, fuel = f + 1 := ⟨fuel - 1, by omega⟩
  rw [tokensOf, List.cons_append, List.append_assoc, List.singleton_append]
  cases members with
  | nil => rfl
  | cons member others =>
    have hMembers := parseMembers?_memberTokens (List.cons_ne_nil member others) h fuel rest
      (by omega)
    obtain ⟨name, ts, hTokens⟩ : ∃ name ts, memberTokens (member :: others) = .text name :: ts := by
      cases others with
      | nil => exact ⟨_, _, rfl⟩
      | cons next others => exact ⟨_, _, rfl⟩
    have hNamed : ((member :: others).map fun m => (some m.1, m.2)).any
        (fun m => m.1.isNone) = false := by
      simp
    rw [hTokens, List.cons_append] at hMembers ⊢
    show (parseMembers? fuel _).map _ = _
    rw [hMembers, Option.map_some]
    dsimp only
    rw [hNamed, if_neg Bool.false_ne_true, List.map_map]
    exact congrArg (fun ms => some (object ms, rest)) (List.map_id _)

/-- The tokens of a value are read as this value. -/
theorem parseValue?_tokensOf (h : Printable j) : Reads j := by
  induction h with
  | null => exact reads_scalar rfl fun _ _ => rfl
  | bool b => exact reads_scalar rfl fun _ _ => rfl
  | int h => exact reads_scalar rfl fun _ _ => rfl
  | string s => exact reads_scalar rfl fun _ _ => rfl
  | array h ih => exact reads_array ih
  | object h ih => exact reads_object ih

/-- The text of a value is read back. -/
theorem parse?_compact (h : Printable j) : parse? j.compact = some j := by
  unfold parse?
  have hRead := parseValue?_tokensOf h (2 * (tokensOf j).length + 2) [] (by omega)
  rw [List.append_nil] at hRead
  rw [tokens?_compact h, Option.bind_eq_bind, Option.bind_some, hRead]

end Values

end TransitForecast.Json

import Mathlib
import TransitForecast.Console.Publish
import TransitForecast.Proofs.LineBreaks
import TransitForecast.Proofs.Timestamps

/-!
# TransitForecast — the messages of a file

A file is first tried as one document, so that a file with one document on each line is told apart
only because no two documents on lines of their own are one. Its lines are then read one by one:
blank ones are passed over but counted, and the first that is no document is the one that is named.
Nothing has been sent by then.

A file is described by how it was put together: lines with the ends that they have, and what comes
after the last end. Every text is put together in such a way.

## Results

* `tokens?_joinLines`      — the tokens of a file are those of its lines.
* `document?_text`         — a file with two documents on lines of their own is no document.
* `lineMessages_textLines` — the lines that are read are those that the file was put together of.
* `messages_by_line`       — documents on lines of their own are read in order, a line that is no
  document is named by its number and keeps everything from being sent.
-/

namespace TransitForecast

namespace Console

open Json (tokens? lineTokens? document? parse?)

-- ---------------------------------------------------------------------------
-- Files
-- ---------------------------------------------------------------------------

/-- What a line ends with. -/
inductive LineEnd
  | feed
  | returnFeed
  deriving DecidableEq, Repr

/-- The text of an end of a line. -/
def LineEnd.text : LineEnd → String
  | feed => "\n"
  | returnFeed => "\r\n"

/-- Lines with their ends, and what comes after the last end. -/
def joinLines (last : String) : List (String × LineEnd) → String
  | [] => last
  | (line, mark) :: rest => line ++ mark.text ++ joinLines last rest

/-- A file as it was put together: lines with their ends, and what comes after the last end, which
may be empty. -/
structure MessageFile where
  ended : List (String × LineEnd)
  last : String
  oneLine : ∀ line ∈ ended.map (·.1) ++ [last], '\n' ∉ line.toList

namespace MessageFile

/-- The text of a file. -/
def text (f : MessageFile) : String := joinLines f.last f.ended

/-- All lines of a file. -/
def lines (f : MessageFile) : List String := f.ended.map (·.1) ++ [f.last]

/-- The lines of a file that are not blank. -/
def written (f : MessageFile) : List String := f.lines.filter fun line => !isBlankLine line

end MessageFile

/-- Whether a line is neither blank nor a document. -/
def isMalformed (line : String) : Bool := !isBlankLine line && (document? line).isNone

/-- The number of the first line of a file that is neither blank nor a document, counted from 1. -/
def MessageFile.firstMalformed (f : MessageFile) : Nat := f.lines.findIdx isMalformed + 1

variable {line last : String} {ended : List (String × LineEnd)} {lines : List String}

/-- Puts a file together out of characters, from the last one to the first. -/
theorem exists_joinLines (cs : List Char) : ∃ last ended,
    (∀ line ∈ ended.map (·.1) ++ [last], '\n' ∉ line.toList) ∧
      (joinLines last ended).toList = cs := by
  induction cs with
  | nil => exact ⟨"", [], by simp, rfl⟩
  | cons c rest ih =>
    obtain ⟨last, ended, hOneLine, hText⟩ := ih
    by_cases hFeed : c = '\n'
    · subst hFeed
      refine ⟨last, ("", .feed) :: ended, fun line hMem => ?_, ?_⟩
      · rcases List.mem_cons.1 hMem with rfl | hMem
        · simp
        · exact hOneLine line hMem
      · simp [joinLines, LineEnd.text, hText]
    · -- the character goes to the front of the first line
      have hFirst : ∀ line : String, '\n' ∉ line.toList →
          '\n' ∉ (String.ofList (c :: line.toList)).toList := by
        intro line hLine
        rw [String.toList_ofList, List.mem_cons, not_or]
        exact ⟨fun hEq => hFeed hEq.symm, hLine⟩
      cases ended with
      | nil =>
        refine ⟨String.ofList (c :: last.toList), [], fun line hMem => ?_, ?_⟩
        · cases List.mem_singleton.1 hMem
          exact hFirst last (hOneLine last (by simp))
        · rw [joinLines, String.toList_ofList, ← hText, joinLines]
      | cons l ended =>
        obtain ⟨first, mark⟩ := l
        refine ⟨last, (String.ofList (c :: first.toList), mark) :: ended,
          fun line hMem => ?_, ?_⟩
        · rcases List.mem_cons.1 hMem with rfl | hMem
          · exact hFirst first (hOneLine first List.mem_cons_self)
          · exact hOneLine line (List.mem_cons_of_mem _ hMem)
        · simp [joinLines, ← hText]

theorem exists_text (contents : String) : ∃ f : MessageFile, f.text = contents := by
  obtain ⟨last, ended, hOneLine, hText⟩ := exists_joinLines contents.toList
  exact ⟨⟨ended, last, hOneLine⟩, String.toList_inj.1 hText⟩

-- ---------------------------------------------------------------------------
-- A file as one document
-- ---------------------------------------------------------------------------

theorem tokens?_ended (line rest : String) (mark : LineEnd) :
    tokens? (line ++ mark.text ++ rest) =
      (tokens? line).bind fun ts => (tokens? rest).map (ts ++ ·) := by
  cases mark with
  | feed => exact Json.tokens?_break (.inl rfl) (by simp [LineEnd.text])
  | returnFeed =>
    -- the carriage return ends the line, and an empty one follows
    have hFeed : tokens? ("\n" ++ rest) = tokens? rest := by
      rw [Json.tokens?_break (a := "") (b := rest) (.inl rfl) (by simp)]
      simp [tokens?, Json.tokensFrom?]
    rw [Json.tokens?_break (a := line) (b := "\n" ++ rest) (.inr rfl) (by simp [LineEnd.text]),
      hFeed]

theorem tokens?_joinLines (last : String) (ended : List (String × LineEnd)) :
    tokens? (joinLines last ended) = lineTokens? (ended.map (·.1) ++ [last]) := by
  induction ended with
  | nil => simp [joinLines, lineTokens?]
  | cons l rest ih =>
    obtain ⟨line, mark⟩ := l
    rw [joinLines, tokens?_ended, ih]
    rfl

/-- A blank that is no white space of JSON starts no token. -/
theorem lexToken?_of_isBlank {c : Char} (h : Text.isBlank c = true) (rest : List Char) :
    Json.lexToken? c rest = none := by
  have hStart : c ∉ Json.tokenStarts := by
    intro hMem
    simp only [Json.tokenStarts, List.mem_cons, List.not_mem_nil, or_false] at hMem
    rcases hMem with rfl | rfl | rfl | rfl | rfl | rfl | rfl | rfl | rfl | rfl
    all_goals cases h
  have hMinus : c ≠ '-' := by
    rintro rfl
    cases h
  have hDigit : c.isDigit = false := by
    cases hDigit : c.isDigit with
    | false => rfl
    | true =>
      rw [Text.isBlank_of_isDigit hDigit] at h
      cases h
  rw [Json.lexToken?_number hStart, Json.lexNumber?_eq_none hMinus hDigit]
  rfl

theorem tokens_of_isBlankLine (h : isBlankLine line = true) {ts : List Json.Token}
    (hTokens : tokens? line = some ts) : ts = [] := by
  have hBlank : ∀ c ∈ line.toList, Text.isBlank c = true := List.all_eq_true.1 h
  rw [Json.tokens?_eq] at hTokens
  cases hCut : line.toList.dropWhile Json.isSpace with
  | nil =>
    rw [Json.tokensFrom?_of_spaces hCut] at hTokens
    cases hTokens
    rfl
  | cons c rest =>
    have hMem : c ∈ line.toList :=
      (List.dropWhile_suffix Json.isSpace).subset (hCut ▸ List.mem_cons_self)
    rw [Json.tokensFrom?_of_token hCut, lexToken?_of_isBlank (hBlank c hMem)] at hTokens
    cases hTokens

/-- Where lines have tokens, blank ones have none. -/
theorem lineTokens?_written {ts : List Json.Token} (h : lineTokens? lines = some ts) :
    lineTokens? (lines.filter fun line => !isBlankLine line) = some ts := by
  induction lines generalizing ts with
  | nil => exact h
  | cons line rest ih =>
    obtain ⟨us, hLine, hRest⟩ := Option.bind_eq_some_iff.1 h
    obtain ⟨more, hMore, rfl⟩ := Option.map_eq_some_iff.1 hRest
    cases hBlank : isBlankLine line with
    | true =>
      cases tokens_of_isBlankLine hBlank hLine
      simpa [hBlank] using ih hMore
    | false => simp [hBlank, lineTokens?, hLine, ih hMore]

/-- A file with two documents on lines of their own is no document. -/
theorem document?_text (f : MessageFile) (hTwo : 2 ≤ f.written.length)
    (h : ∀ line ∈ f.written, ∃ v, document? line = some v) : document? f.text = none := by
  have hText : tokens? f.text = lineTokens? f.lines := tokens?_joinLines f.last f.ended
  cases hLines : lineTokens? f.lines with
  | none =>
    unfold document? parse?
    rw [hText, hLines]
    rfl
  | some ts =>
    have hWritten : tokens? f.text = lineTokens? f.written := by
      rw [hText, hLines, MessageFile.written, lineTokens?_written hLines]
    match f.written, hTwo, h, hWritten with
    | a :: b :: rest, _, h, hWritten =>
      obtain ⟨v, hFirst⟩ := h a List.mem_cons_self
      obtain ⟨w, hSecond⟩ := h b (List.mem_cons_of_mem _ List.mem_cons_self)
      obtain ⟨x, hx, -⟩ := Option.bind_eq_some_iff.1 hFirst
      obtain ⟨y, hy, -⟩ := Option.bind_eq_some_iff.1 hSecond
      rw [document?, Json.parse?_eq_none_of_two hWritten hx hy]
      rfl

-- ---------------------------------------------------------------------------
-- A file line by line
-- ---------------------------------------------------------------------------

/-- The carriage return that belongs to an end of a line. -/
def LineEnd.carriage : LineEnd → List Char
  | feed => []
  | returnFeed => ['\r']

theorem toList_ended (line rest : String) (mark : LineEnd) :
    (line ++ mark.text ++ rest).toList =
      (line.toList ++ mark.carriage) ++ '\n' :: rest.toList := by
  cases mark with
  | feed => simp [LineEnd.carriage, LineEnd.text]
  | returnFeed => simp [LineEnd.carriage, LineEnd.text]

theorem splitOnElement_joinLines (h : ∀ line ∈ ended.map (·.1) ++ [last], '\n' ∉ line.toList) :
    splitOnElement '\n' (joinLines last ended).toList =
      ended.map (fun l => l.1.toList ++ l.2.carriage) ++ [last.toList] := by
  induction ended with
  | nil => exact splitOnElement_of_not_mem (h last (by simp))
  | cons l rest ih =>
    obtain ⟨line, mark⟩ := l
    have hLine : '\n' ∉ line.toList ++ mark.carriage := by
      have := h line (by simp)
      cases mark with
      | feed => simpa [LineEnd.carriage] using this
      | returnFeed => simpa [LineEnd.carriage] using this
    rw [joinLines, toList_ended, splitOnElement_append hLine,
      ih fun other hMem => h other (List.mem_cons_of_mem _ hMem)]
    rfl

theorem textLines_joinLines (h : ∀ line ∈ ended.map (·.1) ++ [last], '\n' ∉ line.toList) :
    textLines (joinLines last ended) =
      ended.map (fun l => String.ofList (stripReturn (l.1.toList ++ l.2.carriage))) ++
        if last.toList.isEmpty then [] else [last] := by
  unfold textLines
  rw [splitOnElement_joinLines h]
  dsimp only
  rw [List.dropLast_concat, List.getLast?_concat, Option.getD_some]
  split
  · simp
  · simp

/-- Whether two lines are the same to a reader of messages. -/
structure Alike (a b : String) : Prop where
  blank : isBlankLine a = isBlankLine b
  document : document? a = document? b

theorem stripReturn_cases (cs : List Char) :
    stripReturn cs = cs ∨ cs = stripReturn cs ++ ['\r'] := by
  unfold stripReturn
  split
  · rename_i hLast
    exact .inr (List.dropLast_append_getLast? _ hLast).symm
  · exact .inl rfl

/-- A carriage return at the end of a line is blank, and white space to JSON. -/
theorem alike_stripReturn (cs : List Char) :
    Alike (String.ofList (stripReturn cs)) (String.ofList cs) := by
  rcases stripReturn_cases cs with hSame | hReturn
  · rw [hSame]
    exact ⟨rfl, rfl⟩
  · generalize stripReturn cs = ds at hReturn
    subst hReturn
    have hTokens : tokens? (String.ofList (ds ++ ['\r'])) = tokens? (String.ofList ds) := by
      rw [Json.tokens?_break (a := String.ofList ds) (b := "") (.inr rfl) (by simp)]
      simp [tokens?, Json.tokensFrom?]
    refine ⟨?_, ?_⟩
    · simp [isBlankLine, show Text.isBlank '\r' = true from rfl]
    · unfold document? parse?
      rw [hTokens]

theorem alike_ended (line : String) (mark : LineEnd) :
    Alike (String.ofList (stripReturn (line.toList ++ mark.carriage))) line := by
  cases mark with
  | feed =>
    have hLine := alike_stripReturn line.toList
    rw [String.ofList_toList] at hLine
    simpa [LineEnd.carriage] using hLine
  | returnFeed =>
    have hStrip : stripReturn (line.toList ++ ['\r']) = line.toList := by simp [stripReturn]
    rw [LineEnd.carriage, hStrip, String.ofList_toList]
    exact ⟨rfl, rfl⟩

theorem lineMessages_congr {as bs : List String} (h : List.Forall₂ Alike as bs) (number : Nat) :
    lineMessages number as = lineMessages number bs := by
  induction h generalizing number with
  | nil => rfl
  | cons hLine hRest ih => rw [lineMessages, lineMessages, hLine.blank, hLine.document, ih]

theorem lineMessages_concat (h : isBlankLine line = true) (number : Nat) (lines : List String) :
    lineMessages number (lines ++ [line]) = lineMessages number lines := by
  induction lines generalizing number with
  | nil => simp [lineMessages, h]
  | cons first rest ih => rw [List.cons_append, lineMessages, lineMessages, ih]

theorem lineMessages_textLines (f : MessageFile) (number : Nat) :
    lineMessages number (textLines f.text) = lineMessages number f.lines := by
  have hEnded : List.Forall₂ Alike
      (f.ended.map fun l => String.ofList (stripReturn (l.1.toList ++ l.2.carriage)))
      (f.ended.map (·.1)) := by
    rw [List.forall₂_map_left_iff, List.forall₂_map_right_iff]
    exact List.forall₂_same.2 fun l _ => alike_ended l.1 l.2
  rw [MessageFile.text, textLines_joinLines f.oneLine, MessageFile.lines]
  split
  · rename_i hEmpty
    rw [List.append_nil, lineMessages_congr hEnded, lineMessages_concat]
    rw [isBlankLine, List.isEmpty_iff.1 hEmpty]
    rfl
  · exact lineMessages_congr (List.rel_append hEnded (.cons ⟨rfl, rfl⟩ .nil)) number

/-- Lines that are blank or documents. -/
theorem lineMessages_of_written {values : List Json} (number : Nat)
    (h : (lines.filter fun line => !isBlankLine line).map document? = values.map some) :
    lineMessages number lines = .ok values := by
  induction lines generalizing number values with
  | nil =>
    cases values with
    | nil => rfl
    | cons v values => cases h
  | cons line rest ih =>
    cases hBlank : isBlankLine line with
    | true =>
      rw [lineMessages, if_pos hBlank]
      exact ih _ (by simpa [hBlank] using h)
    | false =>
      rw [List.filter_cons_of_pos (by simp [hBlank]), List.map_cons] at h
      cases values with
      | nil => cases h
      | cons v values =>
        obtain ⟨hLine, hRest⟩ := List.cons.inj h
        rw [lineMessages, hBlank, if_neg Bool.false_ne_true, hLine, ih (number + 1) hRest]

/-- Lines of which one is neither. -/
theorem lineMessages_of_malformed (number : Nat) (h : ∃ line ∈ lines, isMalformed line = true) :
    lineMessages number lines = .error (number + lines.findIdx isMalformed) := by
  induction lines generalizing number with
  | nil =>
    obtain ⟨line, hLine, -⟩ := h
    cases hLine
  | cons line rest ih =>
    cases hBad : isMalformed line with
    | true =>
      obtain ⟨hBlank, hNone⟩ := Bool.and_eq_true_iff.1 hBad
      rw [lineMessages, if_neg (by simpa using hBlank), Option.isNone_iff_eq_none.1 hNone,
        List.findIdx_cons, hBad]
      rfl
    | false =>
      have hRest : ∃ line ∈ rest, isMalformed line = true := by
        obtain ⟨other, hMem, hOther⟩ := h
        rcases List.mem_cons.1 hMem with rfl | hMem
        · rw [hBad] at hOther
          cases hOther
        · exact ⟨other, hMem, hOther⟩
      rw [lineMessages, ih (number + 1) hRest, List.findIdx_cons, hBad, cond_false,
        Nat.add_right_comm, ← Nat.add_assoc]
      -- whether the line is blank or a document, the error of the others is passed on
      cases hBlank : isBlankLine line with
      | true => rw [if_pos rfl]
      | false =>
        cases hLine : document? line with
        | none => simp [isMalformed, hBlank, hLine] at hBad
        | some v => rw [if_neg Bool.false_ne_true]

-- ---------------------------------------------------------------------------
-- Messages
-- ---------------------------------------------------------------------------

theorem messages_of_not_document {f : MessageFile} (h : document? f.text = none) :
    messages f.text = lineMessages 1 f.lines := by
  unfold messages
  rw [h]
  exact lineMessages_textLines f 1

theorem messages_of_written {f : MessageFile} {values : List Json} (hTwo : 2 ≤ f.written.length)
    (h : f.written.map document? = values.map some) : messages f.text = .ok values := by
  have hDocuments : ∀ line ∈ f.written, ∃ v, document? line = some v := by
    intro line hMem
    have hValue : document? line ∈ values.map some := h ▸ List.mem_map_of_mem hMem
    obtain ⟨v, -, hEq⟩ := List.mem_map.1 hValue
    exact ⟨v, hEq.symm⟩
  rw [messages_of_not_document (document?_text f hTwo hDocuments)]
  exact lineMessages_of_written 1 h

theorem messages_of_malformed {f : MessageFile} (hNone : document? f.text = none)
    (h : ∃ line ∈ f.lines, isMalformed line = true) :
    messages f.text = .error f.firstMalformed := by
  rw [messages_of_not_document hNone, lineMessages_of_malformed 1 h, Nat.add_comm]
  rfl

/-- Every text is put together of lines. Two or more documents on lines of their own, whatever the
ends of these lines are and wherever blank lines stand between them, are the messages of the file in
order. And a file that is no document, with a line that is neither blank nor a document, has no
messages: the number of the first such line is reported, and publishing the file ends with that
report without an effect, whatever sends the requests. -/
theorem messages_by_line :
    (∀ contents : String, ∃ f : MessageFile, f.text = contents) ∧
    (∀ (f : MessageFile) (values : List Json), 2 ≤ f.written.length →
      f.written.map document? = values.map some → messages f.text = .ok values) ∧
    ∀ f : MessageFile, document? f.text = none → (∃ line ∈ f.lines, isMalformed line = true) →
      messages f.text = .error f.firstMalformed ∧
      (PublishError.badLine f.firstMalformed).message =
        "Line " ++ toString f.firstMalformed ++ " is not valid JSON" ∧
      ∀ (m : Type → Type) [Monad m] (send : Transport m) (address : Address)
        (subject file : String),
        publishFile send address subject file (some f.text) =
          pure (.error (.badLine f.firstMalformed)) := by
  refine ⟨exists_text, fun f values => messages_of_written, fun f hNone hBad => ?_⟩
  have hMessages := messages_of_malformed hNone hBad
  refine ⟨hMessages, rfl, fun m _ send address subject file => ?_⟩
  unfold publishFile
  dsimp only
  rw [hMessages]

end Console

namespace Sample

open Console (MessageFile)

/-- Three documents among blank lines of every kind; the last of them has no line end. -/
def scattered : MessageFile :=
  ⟨[("\u00a0\t", .feed), (" \x7b\"a\": [1]\x7d ", .returnFeed), ("", .feed),
    ("\"x\\u0041\\n\"\r", .feed), ("\u2028", .returnFeed)], "7", by decide⟩

/-- A list that goes on over three lines, after a document and a blank line. -/
def broken : MessageFile :=
  ⟨[("1", .returnFeed), (" \u3000", .feed), ("[2,", .feed), ("3", .feed)], "]", by decide⟩

end Sample

namespace Console

theorem messages_by_line_scattered_and_broken :
    messages Sample.scattered.text =
      .ok [.object [("a", .array [.int 1])], .string "xA\n", .int 7] ∧
    messages Sample.broken.text = .error 3 ∧
    ∀ (m : Type → Type) [Monad m] (send : Transport m) (address : Address)
      (subject file : String),
      publishFile send address subject file (some Sample.broken.text) =
        pure (.error (.badLine 3)) := by
  obtain ⟨-, hWritten, hMalformed⟩ := messages_by_line
  have hValues : Sample.scattered.written.map Json.document? =
      [.object [("a", .array [.int 1])], .string "xA\n", .int 7].map some := by
    cbv
  have hThird : Sample.broken.firstMalformed = 3 := by decide +kernel
  obtain ⟨hMessages, -, hNothing⟩ := hMalformed Sample.broken
    (Option.isNone_iff_eq_none.1 (by decide +kernel)) (by decide +kernel)
  rw [hThird] at hMessages hNothing
  exact ⟨hWritten Sample.scattered _ (by decide +kernel) hValues, hMessages, hNothing⟩

end Console

end TransitForecast

import RelationQuery.Proofs.SearchParts

/-!
# Values that end by themselves

The last grammar reads a bare word to the end of its line, and a quotation to its second mark. A
value that comes to its end in this way before the text does is settled: it is read the same when
the text goes on behind a blank. A value that only the end of the text ends is open.
-/

namespace RelationQuery.Search

open Sql (MadeOf)
open Text (isBlank trim)

/-! ## Open values -/

/-- Whether text behind a first quotation mark goes to its end without a second one and without a
line break. -/
def openQuote : Bool → List Char → Bool
  | _, [] => true
  | escaped, c :: rest =>
      if isLineBreak c then false
      else if c == '"' && !escaped then false
      else openQuote (c == '\\') rest

/-- Whether the value in front of a text would go on if the text did. -/
def isOpen : List Char → Bool
  | '"' :: body => openQuote false body
  | text => (cutWord text).2.isEmpty

section Apart

variable {more : List Char} (apart : Apart more)

/-- A quotation that is not open is there, or is not, however the text goes on. -/
theorem cutQuoted?_settled {escaped : Bool} {text : List Char}
    (settled : openQuote escaped text = false) (more : List Char) :
    cutQuoted? escaped (text ++ more) = (cutQuoted? escaped text).map (extendRest more) := by
  fun_induction cutQuoted? escaped text with
  | case1 => cases settled
  | case2 escaped c rest lineBreak =>
      simp only [List.cons_append, cutQuoted?, if_pos lineBreak]
      rfl
  | case3 escaped c rest sameLine mark =>
      simp only [List.cons_append, cutQuoted?, if_neg sameLine, if_pos mark]
      rfl
  | case4 escaped c rest sameLine other ih =>
      rw [openQuote, if_neg sameLine, if_neg other] at settled
      simp only [List.cons_append, cutQuoted?, if_neg sameLine, if_neg other, ih settled,
        Option.map_map]
      rfl

/-- A text with a line break has a bare word that ends before the text does. -/
theorem cutWord_of_lineBreak {c : Char} (lineBreak : isLineBreak c = true) {text : List Char}
    (member : c ∈ text) : (cutWord text).2 ≠ [] := by
  fun_induction cutWord text with
  | case1 => cases member
  | case2 => exact List.cons_ne_nil _ _
  | case3 d rest onward ih =>
      rcases List.mem_cons.mp member with rfl | later
      · exact absurd (by rw [lineBreak]; rfl) onward
      · exact ih later

/-- A quotation that is neither open nor closed has met a line break. -/
theorem exists_lineBreak {escaped : Bool} {text : List Char}
    (settled : openQuote escaped text = false) (unread : cutQuoted? escaped text = none) :
    ∃ c ∈ text, isLineBreak c = true := by
  fun_induction cutQuoted? escaped text with
  | case1 => cases settled
  | case2 escaped c rest lineBreak => exact ⟨c, List.mem_cons_self, lineBreak⟩
  | case3 => cases unread
  | case4 escaped c rest sameLine other ih =>
      rw [openQuote, if_neg sameLine, if_neg other] at settled
      obtain ⟨d, member, lineBreak⟩ := ih settled (Option.map_eq_none_iff.mp unread)
      exact ⟨d, List.mem_cons_of_mem _ member, lineBreak⟩

include apart

theorem cutWord_settled {text : List Char} (settled : (cutWord text).2 ≠ []) :
    cutWord (text ++ more) = extendRest more (cutWord text) := by
  fun_induction cutWord text with
  | case1 => exact absurd rfl settled
  | case2 c rest stop =>
      rw [← isPrefixOf_apart apart (by decide)] at stop
      rw [List.cons_append] at stop ⊢
      rw [cutWord, if_pos stop]
      rfl
  | case3 c rest onward ih =>
      rw [← isPrefixOf_apart apart (by decide)] at onward
      rw [List.cons_append] at onward ⊢
      rw [cutWord, if_neg onward, ih settled]
      rfl

omit apart in
theorem readWord_of_cut {text word rest : List Char} (cut : cutWord text = (word, rest))
    (ended : rest ≠ []) :
    readWord text =
      if (cutBackslashes word).2.isEmpty then valueReading (.text (String.ofList word)) rest
      else ⟨.equals (.text (String.ofList (cutBackslashes word).1)) false,
        (cutBackslashes word).2 ++ rest⟩ := by
  unfold readWord
  rw [cut]
  exact if_neg (by simpa using ended)

theorem readWord_settled {text : List Char} (settled : (cutWord text).2 ≠ []) :
    readWord (text ++ more) = (readWord text).extend more := by
  have on : (cutWord text).2 ++ more ≠ [] := fun empty =>
    settled (List.append_eq_nil_iff.mp empty).1
  rw [readWord_of_cut (cutWord_settled apart settled) on, readWord_of_cut rfl settled]
  split
  · exact valueReading_apart apart _ _
  · simp only [Reading.extend, List.append_assoc]

theorem readQuoted?_settled {body : List Char} (settled : openQuote false body = false) :
    readQuoted? ('"' :: body ++ more) = (readQuoted? ('"' :: body)).map (Reading.extend more) := by
  simp only [List.cons_append, readQuoted?, cutQuoted?_settled settled, Option.map_map]
  congr 1
  funext found
  exact valueReading_apart apart _ found.2

omit apart in
theorem readQuoted?_of_unquoted {text : List Char} (unquoted : ∀ body, text ≠ '"' :: body) :
    readQuoted? text = none := by
  unfold readQuoted?
  split
  · exact absurd rfl (unquoted _)
  · rfl

/-- A settled value is read the same when the text goes on behind a blank. -/
theorem read?_string_settled {text : List Char} (settled : isOpen text = false) :
    Grammar.string.read? (text ++ more) =
      (Grammar.string.read? text).map (Reading.extend more) := by
  unfold isOpen at settled
  split at settled
  · rename_i body
    have quoted := readQuoted?_settled apart settled
    cases found : readQuoted? ('"' :: body) with
    | some reading =>
        rw [found] at quoted
        simp only [Grammar.read?, found, quoted]
        rfl
    | none =>
        -- A quotation without an end has met a line break, which ends the bare word instead.
        rw [found] at quoted
        obtain ⟨c, member, lineBreak⟩ :=
          exists_lineBreak settled (Option.map_eq_none_iff.mp found)
        have ended := cutWord_of_lineBreak lineBreak (List.mem_cons_of_mem '"' member)
        simp only [Grammar.read?, found, quoted]
        exact congrArg some (readWord_settled apart ended)
  · rename_i other unquoted
    have ended : (cutWord text).2 ≠ [] := by
      simpa using settled
    have neverOn : ∀ body, text ++ more ≠ '"' :: body := by
      rcases mark_apart apart '"' (by decide) text with ⟨behind, here, _⟩ | ⟨_, never⟩
      · exact absurd here (unquoted _)
      · exact never
    simp only [Grammar.read?, readQuoted?_of_unquoted unquoted, readQuoted?_of_unquoted neverOn]
    exact congrArg some (readWord_settled apart ended)

end Apart

/-! ## Finding a settled value -/

def Found.after (text : List Char) (found : Found) : List Char :=
  text.drop (found.front.length + found.key.length + 1)

theorem Found.StandsIn.after_eq {found : Found} {grammar : Grammar} {text behind : List Char}
    (stands : found.StandsIn grammar text behind) : found.after text = behind := by
  have length : found.front.length + found.key.length + 1 =
      (found.front ++ found.key ++ [':']).length := by
    simp [Nat.add_assoc]
  have split : text = (found.front ++ found.key ++ [':']) ++ behind := by
    rw [stands.split]
    simp
  unfold Found.after
  rw [length, split, List.drop_left]

theorem termAt?_extend {grammar : Grammar} {before behind more : List Char} {found : Found}
    (here : termAt? grammar before behind = some found)
    (same : grammar.read? (behind ++ more) = some (found.reading.extend more)) :
    termAt? grammar before (behind ++ more) = some (found.extend more) := by
  unfold termAt? at here ⊢
  dsimp only at here ⊢
  split at here
  · cases here
  · rename_i key
    obtain ⟨reading, got, rfl⟩ := Option.map_eq_some_iff.mp here
    rw [if_neg key, same]
    rfl

/-- Where the last grammar has no term, there is no key, whatever stands behind the colon. -/
theorem termAt?_string_none {before behind : List Char}
    (none : termAt? .string before behind = none) (other : List Char) :
    termAt? .string before other = .none := by
  unfold termAt? at none ⊢
  dsimp only at none ⊢
  split at none
  · rename_i key
    rw [if_pos key]
  · cases none

/-- The last grammar finds the same term when the text goes on, if it reads the same there. -/
theorem find?_string_extend {before text more : List Char} {found : Found}
    (read : find? .string before text = some found)
    (same : ∀ behind, found.StandsIn .string (before.reverse ++ text) behind →
      Grammar.string.read? (behind ++ more) = some (found.reading.extend more)) :
    find? .string before (text ++ more) = some (found.extend more) := by
  induction text generalizing before with
  | nil => cases read
  | cons c rest ih =>
      have onward (later : find? .string (c :: before) rest = some found) :
          find? .string (c :: before) (rest ++ more) = some (found.extend more) := by
        apply ih later
        intro behind stands
        apply same
        rwa [List.reverse_cons, List.append_assoc] at stands
      unfold find? at read
      rw [List.cons_append, find?]
      split
      · rename_i colon
        rw [if_pos colon] at read
        subst colon
        cases here : termAt? .string before rest with
        | some other =>
            rw [here] at read
            cases read
            rw [termAt?_extend here (same rest (Found.standsIn_of_termAt? here))]
        | none =>
            rw [here] at read
            rw [termAt?_string_none here]
            exact onward read
      · rename_i other
        rw [if_neg other] at read
        exact onward read

/-- A term with a settled value is found when the text goes on behind a blank. -/
theorem find?_string_settled {text more : List Char} (apart : Apart more) {found : Found}
    (read : find? .string [] text = some found) (settled : isOpen (found.after text) = false) :
    find? .string [] (text ++ more) = some (found.extend more) := by
  apply find?_string_extend read
  intro behind stands
  rw [List.reverse_nil, List.nil_append] at stands
  rw [stands.after_eq] at settled
  rw [read?_string_settled apart settled, stands.read]
  rfl

/-! ## Trimming a text that goes on -/

theorem apart_trimRight {text : List Char} (apart : Apart text) : Apart (Text.trimRight text) := by
  obtain ⟨blanks, _, kept⟩ := Text.exists_trimRight text
  rw [kept] at apart
  exact apart.front

/-- A text that goes on behind a blank is trimmed to the text trimmed and something apart from it,
in which only blanks are missing of what followed. -/
theorem exists_trim_append {text more : List Char} (filled : trim text ≠ [])
    (apart : Apart more) :
    ∃ later, Apart later ∧ trim later = trim more ∧ trim (text ++ more) = trim text ++ later := by
  obtain ⟨front, back, blankFront, blankBack, split⟩ := Text.exists_trim text
  refine ⟨Text.trimRight (back ++ more), ?_, ?_, ?_⟩
  · exact apart_trimRight ((apart_of_blank blankBack).append apart)
  · rw [Text.trim_trimRight, Text.trim_behind_blanks blankBack]
  · have around := Text.trim_behind_blanks blankFront (trim text ++ (back ++ more))
    calc trim (text ++ more) = trim (front ++ (trim text ++ back) ++ more) :=
          congrArg (fun text => trim (text ++ more)) split
      _ = trim (trim text ++ (back ++ more)) := by simpa using around
      _ = trim text ++ Text.trimRight (back ++ more) :=
          Text.trim_append (Text.trim_trim text) filled _

end RelationQuery.Search

import Mathlib.Data.List.DropRight
import RelationQuery.Proofs.ValueWords

/-!
# Bare words line by line

Lines of a key, a colon and a bare word give a term each, in their order. A line break ends a word
as a null ending does, and here too the backslashes before it are left in the text; so a word keeps
those at its end on the last line only.
-/

namespace RelationQuery.Search

open Sql (MadeOf)
open Text (isBlank trim trimLeft trimRight)

/-! ## Lines -/

/-- A key and a bare word: a trimmed text on one line, without colons, quotation marks and null
endings, that does not begin with a word of another grammar. -/
structure Line where
  key : Key
  word : List Char
  filled : word ≠ []
  oneLine : ∀ c ∈ word, isLineBreak c = false
  colonless : ':' ∉ word
  unquoted : '"' ∉ word
  unending : ¬nullEnding <:+: word
  trimmed : trim word = word
  valueless : ¬BeginsValue word

def Line.text (line : Line) : List Char := line.key.chars ++ ':' :: line.word

def Line.term (line : Line) : Term :=
  ⟨String.ofList line.key.chars, .equals (.text (String.ofList line.word)) false⟩

/-- The term of a word without the backslashes at its end. -/
def Line.cutTerm (line : Line) : Term :=
  ⟨String.ofList line.key.chars, .equals (.text (String.ofList (cutBackslashes line.word).1)) false⟩

def joinedText (lines : List Line) : List Char := List.intercalate ['\n'] (lines.map Line.text)

/-- What lines give: the last word is whole, the others lose the backslashes at their ends. -/
def wordTerms : List Line → List Term
  | [] => []
  | [line] => [line.term]
  | line :: next :: later => line.cutTerm :: wordTerms (next :: later)

def leftBackslashes : List Line → List Char
  | [] => []
  | [_] => []
  | line :: next :: later => (cutBackslashes line.word).2 ++ '\n' :: leftBackslashes (next :: later)

theorem joinedText_cons_cons (line next : Line) (later : List Line) :
    joinedText (line :: next :: later) = line.text ++ '\n' :: joinedText (next :: later) := by
  simp [joinedText]

/-! ## No other words -/

theorem foreign_newline : Foreign '\n' := ⟨by decide, by decide, by decide⟩

theorem Line.not_holdsValue (line : Line) : ¬HoldsValue line.text := by
  rw [Line.text, holdsValue_key_iff]
  rintro (begins | holds)
  · exact line.valueless begins
  · exact line.colonless holds.colon_mem

theorem not_holdsValue_joinedText (lines : List Line) : ¬HoldsValue (joinedText lines) := by
  fun_induction wordTerms lines with
  | case1 => exact fun holds => List.not_mem_nil holds.colon_mem
  | case2 line =>
      rw [joinedText, List.map_singleton, List.intercalate_singleton]
      exact line.not_holdsValue
  | case3 line next later ih =>
      rw [joinedText_cons_cons, holdsValue_append_cons_iff foreign_newline]
      rintro (here | behind)
      · exact line.not_holdsValue here
      · exact ih behind

/-! ## One word -/

/-- A word ends where its line does. -/
theorem cutWord_line {word : List Char} (oneLine : ∀ c ∈ word, isLineBreak c = false)
    (unending : ¬nullEnding <:+: word) (more : List Char) (ends : ∀ c ∈ more.head?, c = '\n') :
    cutWord (word ++ more) = (word, more) := by
  have apart : Apart more := fun c member => by
    rw [ends c member]
    decide
  induction word with
  | nil =>
      cases more with
      | nil => rfl
      | cons c rest =>
          rw [ends c rfl]
          rfl
  | cons c word ih =>
      have later := ih (fun d member => oneLine d (List.mem_cons_of_mem _ member))
        fun member => unending (member.trans (List.suffix_cons c word).isInfix)
      have onward : nullEnding.isPrefixOf (c :: word ++ more) = false := by
        rw [isPrefixOf_apart apart (by decide), Bool.eq_false_iff]
        exact fun front => unending (List.isPrefixOf_iff_prefix.mp front).isInfix
      rw [List.cons_append] at onward ⊢
      rw [cutWord, oneLine c List.mem_cons_self, onward, later]
      rfl

theorem Line.read?_word (line : Line) (more : List Char) :
    Grammar.string.read? (line.word ++ more) = some (readWord (line.word ++ more)) := by
  obtain ⟨first, rest, begins⟩ := List.exists_cons_of_ne_nil line.filled
  have unquoted : ∀ body, line.word ++ more ≠ '"' :: body := by
    intro body same
    rw [begins] at same
    obtain rfl := List.head_eq_of_cons_eq same
    exact line.unquoted (begins ▸ List.mem_cons_self)
  rw [Grammar.read?, readQuoted?_of_unquoted unquoted]
  rfl

/-- At the end of the text a word is read whole. -/
theorem Line.readWord_last (line : Line) :
    readWord line.word = ⟨.equals (.text (String.ofList line.word)) false, []⟩ := by
  have cut := cutWord_line line.oneLine line.unending [] fun c member => nomatch member
  rw [List.append_nil] at cut
  unfold readWord
  rw [cut]
  rfl

/-- Before a line break the backslashes at the end of a word are left. -/
theorem Line.readWord_break (line : Line) (more : List Char) :
    readWord (line.word ++ '\n' :: more) =
      ⟨.equals (.text (String.ofList (cutBackslashes line.word).1)) false,
        (cutBackslashes line.word).2 ++ '\n' :: more⟩ := by
  have cut := cutWord_line line.oneLine line.unending ('\n' :: more) fun c member =>
    (Option.some.inj (Option.mem_def.mp member)).symm
  rw [readWord_of_cut cut (List.cons_ne_nil _ _)]
  split
  · rename_i unslashed
    have whole := cutBackslashes_append line.word
    have without : cutWord? nullEnding ('\n' :: more) = none := rfl
    rw [List.isEmpty_iff.mp unslashed, List.append_nil] at whole
    rw [valueReading, without, whole, List.isEmpty_iff.mp unslashed, List.nil_append]
  · rfl

/-! ## All lines -/

theorem Line.exists_text (line : Line) :
    ∃ first rest, line.text = first :: rest ∧ isBlank first = false := by
  obtain ⟨first, rest, begins⟩ := List.exists_cons_of_ne_nil line.key.filled
  refine ⟨first, rest ++ ':' :: line.word, by simp [Line.text, begins], ?_⟩
  exact not_blank_of_keyChar (line.key.keyChars first (by simp [begins]))

theorem Line.exists_last (line : Line) :
    ∃ front last, line.text = front ++ [last] ∧ isBlank last = false := by
  have ends := List.dropLast_concat_getLast line.filled
  refine ⟨line.key.chars ++ ':' :: line.word.dropLast, line.word.getLast line.filled, ?_, ?_⟩
  · rw [Line.text, List.append_assoc, List.cons_append, ends]
  · have trimmed := line.trimmed
    rw [← ends] at trimmed
    exact Text.not_blank_last_trimRight trimmed

theorem exists_joinedText_cons (line : Line) (later : List Line) :
    ∃ first rest, joinedText (line :: later) = first :: rest ∧ isBlank first = false := by
  obtain ⟨first, rest, begins, solid⟩ := line.exists_text
  cases later with
  | nil => exact ⟨first, rest, by simpa [joinedText] using begins, solid⟩
  | cons next later =>
      refine ⟨first, rest ++ '\n' :: joinedText (next :: later), ?_, solid⟩
      rw [joinedText_cons_cons, begins, List.cons_append]

theorem exists_joinedText_last (line : Line) (later : List Line) :
    ∃ front last, joinedText (line :: later) = front ++ [last] ∧ isBlank last = false := by
  induction later generalizing line with
  | nil => simpa [joinedText] using line.exists_last
  | cons next later ih =>
      obtain ⟨front, last, ends, solid⟩ := ih next
      refine ⟨line.text ++ '\n' :: front, last, ?_, solid⟩
      rw [joinedText_cons_cons, ends, List.append_assoc, List.cons_append]

/-- Behind other text, trimming leaves lines as they are. -/
theorem trim_before_lines (done : List Char) (line : Line) (later : List Line) :
    trim (done ++ joinedText (line :: later)) = trimLeft done ++ joinedText (line :: later) := by
  obtain ⟨first, rest, begins, solidFirst⟩ := exists_joinedText_cons line later
  obtain ⟨front, last, ends, solidLast⟩ := exists_joinedText_last line later
  have left : trimLeft (done ++ joinedText (line :: later)) =
      trimLeft done ++ joinedText (line :: later) := by
    have kept : trimLeft (joinedText (line :: later)) = joinedText (line :: later) := by
      rw [begins]
      exact Text.trimLeft_cons solidFirst rest
    unfold trimLeft at kept ⊢
    rw [List.dropWhile_append, kept]
    split
    · rename_i empty
      rw [List.isEmpty_iff.mp empty, List.nil_append]
    · rfl
  rw [trim, left, ends, ← List.append_assoc]
  exact Text.trimRight_concat solidLast _

def isLeftover (c : Char) : Bool := isBackslash c || c == '\n'

theorem isLeftover_cases {c : Char} (left : isLeftover c = true) : c = '\\' ∨ c = '\n' := by
  simpa [isLeftover, isBackslash] using left

theorem find?_behind_leftover {done : List Char} (left : MadeOf isLeftover done)
    (text : List Char) :
    find? .string [] (trimLeft done ++ text) =
      (find? .string [] text).map (Found.behind (trimLeft done)) := by
  have either (c : Char) (member : c ∈ trimLeft done) : c = '\\' ∨ c = '\n' :=
    isLeftover_cases (left c ((List.dropWhile_sublist isBlank).subset member))
  apply find?_behind_foreign
  · intro c member
    rcases either c member with rfl | rfl
    · decide
    · decide
  · intro c member
    rcases either c member with rfl | rfl
    · decide
    · decide

theorem madeOf_cutBackslashes (word : List Char) :
    MadeOf isLeftover (cutBackslashes word).2 := fun c member => by
  have slash : isBackslash c = true := List.all_eq_true.mp List.all_takeWhile c member
  simp [isLeftover, slash]

theorem exhaust_leftover_text {done : List Char} (left : MadeOf isLeftover done) :
    exhaust .string (trim done) = ([], trim done) := by
  apply exhaust_of_none
  rw [find?_string_eq_none_iff, hasKey_trim_iff]
  apply keyless_of_colonless
  intro member
  rcases isLeftover_cases (left ':' member) with same | same
  · cases same
  · cases same

/-- Behind what is left of earlier lines, the last grammar finds the next one. -/
theorem find?_line {done : List Char} (left : MadeOf isLeftover done) (line : Line)
    (more : List Char) :
    find? .string [] (trimLeft done ++ (line.text ++ more)) =
      some ⟨trimLeft done, line.key.chars, readWord (line.word ++ more)⟩ := by
  have split : line.text ++ more = line.key.chars ++ ':' :: (line.word ++ more) := by
    simp [Line.text]
  rw [find?_behind_leftover left, split, find?_key, line.read?_word]
  simp [Found.behind]

theorem trim_trimLeft_append (front back : List Char) :
    trim (trimLeft front ++ back) = trim (front ++ back) := by
  obtain ⟨blanks, blank, split⟩ := Text.exists_trimLeft front
  have behind := Text.trim_behind_blanks blank (trimLeft front ++ back)
  rw [← List.append_assoc, ← split] at behind
  exact behind.symm

/-- The last grammar takes line after line, and leaves backslashes and line breaks. -/
theorem exhaust_lines (done : List Char) (left : MadeOf isLeftover done) (lines : List Line) :
    exhaust .string (trim (done ++ joinedText lines)) =
      (wordTerms lines, trim (done ++ leftBackslashes lines)) := by
  -- Each line is found behind what the lines before it have left, and leaves its part there.
  fun_induction wordTerms lines generalizing done with
  | case1 =>
      rw [joinedText, leftBackslashes]
      simpa using exhaust_leftover_text left
  | case2 line =>
      have alone : joinedText [line] = line.text := by simp [joinedText]
      have found := find?_line left line []
      rw [List.append_nil, List.append_nil, line.readWord_last, ← alone] at found
      rw [trim_before_lines, exhaust_of_find? found, Found.remainder, trim_trimLeft_append,
        leftBackslashes, List.append_nil, exhaust_leftover_text left]
      rfl
  | case3 line next later ih =>
      have behind := madeOf_cutBackslashes line.word
      have further : MadeOf isLeftover (done ++ ((cutBackslashes line.word).2 ++ ['\n'])) :=
        Sql.madeOf_append left (Sql.madeOf_append behind (Sql.madeOf_single rfl))
      have found := find?_line left line ('\n' :: joinedText (next :: later))
      rw [line.readWord_break, ← joinedText_cons_cons] at found
      have later := ih _ further
      simp only [List.append_assoc, List.singleton_append] at later
      rw [trim_before_lines, exhaust_of_find? found, Found.remainder, trim_trimLeft_append, later,
        leftBackslashes]
      rfl

/-! ## Lexing lines -/

def joined (lines : List Line) : String := String.ofList (joinedText lines)

theorem lex_joined (lines : List Line) :
    lex (joined lines) = ⟨wordTerms lines, String.ofList (trim (leftBackslashes lines))⟩ := by
  have run := exhaust_lines [] (List.forall_mem_nil _) lines
  rw [List.nil_append, List.nil_append] at run
  rw [joined, lex_of_valueless (not_holdsValue_joinedText lines), run]

def Line.Unslashed (line : Line) : Prop := line.word.getLast? ≠ some '\\'

instance (line : Line) : Decidable line.Unslashed := inferInstanceAs (Decidable (_ ≠ _))

theorem Line.unslashed_iff (line : Line) :
    line.Unslashed ↔ (cutBackslashes line.word).1 = line.word := by
  have kept : (cutBackslashes line.word).1 = line.word.rdropWhile isBackslash := rfl
  rw [kept, List.rdropWhile_eq_self_iff, Line.Unslashed, List.getLast?_eq_some_getLast line.filled]
  simp [isBackslash, line.filled]

theorem Line.cutTerm_eq_iff (line : Line) : line.cutTerm = line.term ↔ line.Unslashed := by
  rw [line.unslashed_iff]
  constructor
  · intro same
    injection same with _ content
    injection content with value
    injection value with text
    exact String.ofList_injective text
  · intro kept
    rw [Line.cutTerm, kept, Line.term]

theorem wordTerms_eq_iff (lines : List Line) :
    wordTerms lines = lines.map Line.term ↔ ∀ line ∈ lines.dropLast, line.Unslashed := by
  fun_induction wordTerms lines with
  | case1 => exact iff_of_true rfl (List.forall_mem_nil _)
  | case2 line => exact iff_of_true rfl (List.forall_mem_nil _)
  | case3 line next later ih =>
      rw [List.map_cons, List.cons_eq_cons, ih, line.cutTerm_eq_iff, List.dropLast_cons_cons,
        List.forall_mem_cons]

theorem blank_leftBackslashes {lines : List Line}
    (unslashed : ∀ line ∈ lines.dropLast, line.Unslashed) :
    MadeOf isBlank (leftBackslashes lines) := by
  fun_induction leftBackslashes lines with
  | case1 => exact List.forall_mem_nil _
  | case2 => exact List.forall_mem_nil _
  | case3 line next later ih =>
      rw [List.dropLast_cons_cons, List.forall_mem_cons] at unslashed
      have split := cutBackslashes_append line.word
      rw [line.unslashed_iff.mp unslashed.1] at split
      rw [List.append_right_eq_self.mp split, List.nil_append]
      exact Sql.madeOf_cons (by decide) (ih unslashed.2)

theorem lex_joined_eq_iff (lines : List Line) :
    lex (joined lines) = ⟨lines.map Line.term, ""⟩ ↔
      ∀ line ∈ lines.dropLast, line.Unslashed := by
  rw [← wordTerms_eq_iff, lex_joined]
  constructor
  · intro same
    injection same
  · intro terms
    have nothing : trim (leftBackslashes lines) = [] :=
      congrArg trimRight (Text.trimLeft_of_blank
        (blank_leftBackslashes ((wordTerms_eq_iff lines).mp terms)))
    rw [terms, nothing]

/-- Lines of bare words give their terms in order. A word is its line's to the end, but for the
backslashes there, which stay in the text with those of the other lines; the last word keeps its
own. So each line gives its own word, and nothing is left, exactly when no word but the last ends
with a backslash. -/
theorem word_lines_read (lines : List Line) :
    lex (joined lines) = ⟨wordTerms lines, String.ofList (trim (leftBackslashes lines))⟩ ∧
      (lex (joined lines) = ⟨lines.map Line.term, ""⟩ ↔
        ∀ line ∈ lines.dropLast, line.Unslashed) :=
  ⟨lex_joined lines, lex_joined_eq_iff lines⟩

def slashedLines : List Line :=
  [⟨⟨['a'], by decide, by decide⟩, ['x', '\\'], by decide, by simp [isLineBreak], by decide,
      by decide, by decide, by decide, by decide⟩,
    ⟨⟨['b'], by decide, by decide⟩, ['y'], by decide, by simp [isLineBreak], by decide,
      by decide, by decide, by decide, by decide⟩]

theorem slashed_line_loses_backslash :
    lex (joined slashedLines) =
        ⟨[⟨"a", .equals (.text "x") false⟩, ⟨"b", .equals (.text "y") false⟩], "\\"⟩ ∧
      lex (joined slashedLines) ≠ ⟨slashedLines.map Line.term, ""⟩ :=
  ⟨lex_joined slashedLines, (lex_joined_eq_iff slashedLines).not.mpr (by decide)⟩

end RelationQuery.Search

import RelationQuery.Proofs.IntegerText
import RelationQuery.Proofs.SettledValues

/-!
# Printed search items

A search item is a key and what is asked of it, in a form that a person writes: a null test, a UUID,
a truth value, a range of numbers, or a quotation. The parts of an item carry what makes them
readable, so every item is printed to a text from which its grammar reads it back.
-/

namespace RelationQuery.Search

open Sql (MadeOf)
open Text (Stops stops_nil stops_cons takeWhile_run dropWhile_run ne_of_digit readMagnitude_digits
  readMagnitude_refused)

/-! ## The parts of an item -/

structure Key where
  chars : List Char
  filled : chars ≠ []
  keyChars : MadeOf isKeyChar chars

structure Amount where
  whole : List Char
  fraction : List Char
  filled : whole ≠ []
  wholeDigits : MadeOf Char.isDigit whole
  fractionDigits : MadeOf Char.isDigit fraction

structure UuidDigits where
  digits : List Char
  count : digits.length = 32
  lowerHex : MadeOf Uuid.isLowerHex digits

/-- Text on one line, without backslashes, and in which no key stands before a colon. -/
structure Quotable where
  chars : List Char
  oneLine : ∀ c ∈ chars, isLineBreak c = false
  unescaped : '\\' ∉ chars
  keyless : ¬ HasKey chars

/-- What an item asks of its key; all but the null test may let null pass as well. -/
inductive Asked where
  | isNull
  | uuid (value : UuidDigits) (orNull : Bool)
  | bool (value : Bool) (orNull : Bool)
  | range (low high : Amount) (orNull : Bool)
  | quoted (text : Quotable) (orNull : Bool)

structure Item where
  key : Key
  asked : Asked

/-! ## Printing -/

def Amount.text (amount : Amount) : List Char :=
  match amount.fraction with
  | [] => amount.whole
  | fraction => amount.whole ++ '.' :: fraction

def UuidDigits.text (uuid : UuidDigits) : List Char := Uuid.hyphenated Uuid.groupLengths uuid.digits

def escape (text : List Char) : List Char :=
  text.flatMap fun c => if c = '"' then ['\\', '"'] else [c]

def ending (orNull : Bool) : List Char := if orNull then nullEnding else []

def Asked.text : Asked → List Char
  | .isNull => ['n', 'u', 'l', 'l']
  | .uuid value orNull => value.text ++ ending orNull
  | .bool value orNull => Json.boolText value ++ ending orNull
  | .range low high orNull => low.text ++ '-' :: (high.text ++ ending orNull)
  | .quoted text orNull => '"' :: (escape text.chars ++ '"' :: ending orNull)

def Item.text (item : Item) : List Char := item.key.chars ++ ':' :: item.asked.text

def printed (items : List Item) : String :=
  String.ofList (List.intercalate [' '] (items.map Item.text))

/-! ## What is asked -/

/-- A number is whole where it has no fraction and fits 64 bits; else it is the nearest double. -/
def Amount.value (amount : Amount) : Value :=
  if amount.fraction = [] ∧ Nat.ofDigitChars 10 amount.whole 0 < 2 ^ 63 then
    .int64 (.ofInt (Nat.ofDigitChars 10 amount.whole 0))
  else
    .float64 (Binary.ofNumeral .double false
      ⟨Nat.ofDigitChars 10 (amount.whole ++ amount.fraction) 0, -amount.fraction.length⟩)

def Asked.content : Asked → Content
  | .isNull => .isNull
  | .uuid value orNull => .equals (.text (String.ofList value.text)) orNull
  | .bool value orNull => .equals (.bool value) orNull
  | .range low _ orNull => .equals low.value orNull
  | .quoted text orNull => .equals (.text (String.ofList text.chars)) orNull

def Asked.grammar : Asked → Grammar
  | .isNull => .null
  | .uuid .. => .uuid
  | .bool .. => .bool
  | .range .. => .range
  | .quoted .. => .string

def Item.term (item : Item) : Term := ⟨String.ofList item.key.chars, item.asked.content⟩

def Item.grammar (item : Item) : Grammar := item.asked.grammar

/-! ## Reading the null ending -/

theorem valueReading_ending (value : Value) (orNull : Bool) :
    valueReading value (ending orNull) = ⟨.equals value orNull, []⟩ := by
  cases orNull with
  | false => rfl
  | true => rfl

/-! ## Reading numbers -/

theorem Amount.text_of_whole {amount : Amount} (whole : amount.fraction = []) :
    amount.text = amount.whole := by
  unfold Amount.text
  rw [whole]

theorem Amount.text_of_fraction {amount : Amount} (broken : amount.fraction ≠ []) :
    amount.text = amount.whole ++ '.' :: amount.fraction := by
  unfold Amount.text
  split
  · contradiction
  · rfl

/-- A number is cut from a text that goes on with neither a digit nor a point. -/
theorem cutNumber?_amount (amount : Amount) {more : List Char}
    (stops : Stops (fun c => c.isDigit || c == '.') more) :
    cutNumber? (amount.text ++ more) = some (amount.text, more) := by
  have noDigit : Stops Char.isDigit more := fun c member =>
    (Bool.or_eq_false_iff.mp (stops c member)).1
  have noPoint : ∀ tail, more ≠ '.' :: tail := by
    rintro tail rfl
    exact absurd (stops '.' rfl) (by decide)
  have filled : amount.whole.isEmpty = false := by simpa using amount.filled
  unfold cutNumber?
  by_cases whole : amount.fraction = []
  · rw [Amount.text_of_whole whole, takeWhile_run noDigit amount.wholeDigits,
      dropWhile_run noDigit amount.wholeDigits]
    simp only [filled, Bool.false_eq_true, if_false]
  · have broken : amount.fraction.isEmpty = false := by simpa using whole
    have point : Stops Char.isDigit ('.' :: (amount.fraction ++ more)) :=
      stops_cons (by decide) _
    rw [Amount.text_of_fraction whole, List.append_assoc, List.cons_append,
      takeWhile_run point amount.wholeDigits, dropWhile_run point amount.wholeDigits]
    simp only [filled, broken, Bool.false_eq_true, if_false,
      takeWhile_run noDigit amount.fractionDigits,
      dropWhile_run noDigit amount.fractionDigits]

theorem Amount.exists_text (amount : Amount) :
    ∃ first rest, amount.text = first :: rest ∧ first.isDigit = true := by
  obtain ⟨first, rest, begins⟩ := List.exists_cons_of_ne_nil amount.filled
  have digit : first.isDigit = true := amount.wholeDigits first (by simp [begins])
  by_cases whole : amount.fraction = []
  · exact ⟨first, rest, (Amount.text_of_whole whole).trans begins, digit⟩
  · refine ⟨first, rest ++ '.' :: amount.fraction, ?_, digit⟩
    rw [Amount.text_of_fraction whole, begins, List.cons_append]

theorem readInt64_of_digit {first : Char} (digit : first.isDigit = true) (rest : List Char) :
    Text.readInt64 (first :: rest) =
      (Text.readMagnitude (2 ^ 63 - 1) .tooLarge 0 (first :: rest)).map Int.ofNat := by
  have minus := ne_of_digit digit (d := '-') (by decide)
  have plus := ne_of_digit digit (d := '+') (by decide)
  simp [Text.readInt64, Text.readDigits, minus, plus]

theorem numeral?_amount (amount : Amount) :
    Binary.numeral? amount.text =
      some ⟨Nat.ofDigitChars 10 (amount.whole ++ amount.fraction) 0, -amount.fraction.length⟩ := by
  have filled : amount.whole.isEmpty = false := by simpa using amount.filled
  unfold Binary.numeral? Binary.digitsOf Binary.afterDigits
  by_cases whole : amount.fraction = []
  · have taken := takeWhile_run stops_nil amount.wholeDigits
    have dropped := dropWhile_run stops_nil amount.wholeDigits
    rw [List.append_nil] at taken dropped
    rw [Amount.text_of_whole whole, taken, dropped, whole]
    simp [filled, Binary.exponentOf?]
  · have point : Stops Char.isDigit ('.' :: amount.fraction) := stops_cons (by decide) _
    have taken := takeWhile_run stops_nil amount.fractionDigits
    have dropped := dropWhile_run stops_nil amount.fractionDigits
    rw [List.append_nil] at taken dropped
    rw [Amount.text_of_fraction whole, takeWhile_run point amount.wholeDigits,
      dropWhile_run point amount.wholeDigits]
    simp [filled, taken, dropped, Binary.exponentOf?]

theorem read_amount (amount : Amount) :
    Binary.read .double amount.text = .ok (Binary.ofNumeral .double false
      ⟨Nat.ofDigitChars 10 (amount.whole ++ amount.fraction) 0, -amount.fraction.length⟩) := by
  obtain ⟨first, rest, begins, digit⟩ := amount.exists_text
  have numeral := numeral?_amount amount
  rw [begins] at numeral ⊢
  unfold Binary.read
  rw [Binary.splitSign_of_digit digit]
  simp only [numeral]
  rfl

theorem numberValue_amount (amount : Amount) : numberValue amount.text = amount.value := by
  obtain ⟨first, rest, begins, digit⟩ := amount.exists_text
  have integer : Text.readInt64 amount.text =
      (Text.readMagnitude (2 ^ 63 - 1) .tooLarge 0 amount.text).map Int.ofNat := by
    rw [begins, readInt64_of_digit digit]
  unfold numberValue Amount.value
  rw [integer, read_amount]
  by_cases whole : amount.fraction = []
  · rw [Amount.text_of_whole whole, readMagnitude_digits amount.wholeDigits _ (Nat.zero_le _)]
    by_cases fits : Nat.ofDigitChars 10 amount.whole 0 ≤ 2 ^ 63 - 1
    · rw [if_pos fits, if_pos ⟨whole, by omega⟩]
      rfl
    · rw [if_neg fits, if_neg (fun both => by omega)]
      rfl
  · -- The point is no digit, so the number is not read as a whole one.
    have point : '.' ∈ amount.text := by
      rw [Amount.text_of_fraction whole]
      simp
    obtain ⟨error, refused⟩ :=
      readMagnitude_refused (by decide) point (2 ^ 63 - 1) 0 .tooLarge
    rw [refused, if_neg fun both => whole both.1]
    rfl

theorem stops_ending (orNull : Bool) : Stops (fun c => c.isDigit || c == '.') (ending orNull) := by
  cases orNull with
  | false => exact stops_nil
  | true => exact stops_cons (by decide) _

theorem readRange?_printed (low high : Amount) (orNull : Bool) :
    readRange? (Asked.range low high orNull).text = some ⟨.equals low.value orNull, []⟩ := by
  unfold readRange? Asked.text
  rw [cutNumber?_amount low (stops_cons (by decide) _)]
  simp only [cutNumber?_amount high (stops_ending orNull), Option.map_some, numberValue_amount,
    valueReading_ending]

/-! ## Reading UUIDs -/

theorem cutGroups?_hyphenated {lengths : List Nat} {digits : List Char}
    (count : digits.length = lengths.foldr (· + ·) 0) (hex : MadeOf Uuid.isLowerHex digits)
    (more : List Char) :
    Uuid.cutGroups? lengths (Uuid.hyphenated lengths digits ++ more) =
      some (Uuid.hyphenated lengths digits, more) := by
  induction lengths generalizing digits with
  | nil => rfl
  | cons length lengths ih =>
      have full : (digits.take length).length = length := by
        rw [List.length_take, count, List.foldr_cons]
        omega
      have group : (digits.take length).all Uuid.isLowerHex = true :=
        List.all_eq_true.mpr fun c member => hex c (List.mem_of_mem_take member)
      have front (behind : List Char) : (digits.take length ++ behind).take length =
          digits.take length := by
        rw [List.take_append_of_le_length (by omega), List.take_of_length_le (by omega)]
      have back (behind : List Char) : (digits.take length ++ behind).drop length = behind := by
        rw [List.drop_append_of_le_length (by omega), List.drop_of_length_le (by omega),
          List.nil_append]
      cases lengths with
      | nil =>
          rw [Uuid.hyphenated, Uuid.cutGroups?, front, back, if_pos ⟨full, group⟩]
      | cons next lengths =>
          have rest : (digits.drop length).length = (next :: lengths).foldr (· + ·) 0 := by
            rw [List.length_drop, count, List.foldr_cons]
            omega
          have hexRest : MadeOf Uuid.isLowerHex (digits.drop length) := fun c member =>
            hex c (List.mem_of_mem_drop member)
          simp only [Uuid.hyphenated, List.append_assoc, List.cons_append, Uuid.cutGroups?, front,
            back, if_pos (And.intro full group), ih rest hexRest, Option.map_some]

theorem readUuid?_printed (value : UuidDigits) (orNull : Bool) :
    readUuid? (Asked.uuid value orNull).text =
      some ⟨.equals (.text (String.ofList value.text)) orNull, []⟩ := by
  unfold readUuid? Asked.text UuidDigits.text
  rw [cutGroups?_hyphenated value.count value.lowerHex, Option.map_some, valueReading_ending]

/-! ## Reading quotations -/

theorem escape_mark (text : List Char) : escape ('"' :: text) = '\\' :: '"' :: escape text := rfl

theorem escape_cons {c : Char} (other : c ≠ '"') (text : List Char) :
    escape (c :: text) = c :: escape text := by
  unfold escape
  rw [List.flatMap_cons, if_neg other, List.singleton_append]

/-- A quotation ends at its own mark and at none of its text. -/
theorem cutQuoted?_escape {text : List Char} (oneLine : ∀ c ∈ text, isLineBreak c = false)
    (unescaped : '\\' ∉ text) (more : List Char) :
    cutQuoted? false (escape text ++ '"' :: more) = some (escape text, more) := by
  induction text with
  | nil => rfl
  | cons c rest ih =>
      have later := ih (fun d member => oneLine d (List.mem_cons_of_mem _ member))
        (fun member => unescaped (List.mem_cons_of_mem _ member))
      by_cases mark : c = '"'
      · subst mark
        rw [escape_mark]
        change ((cutQuoted? false (escape rest ++ '"' :: more)).map _).map _ = _
        rw [later]
        rfl
      · have sameLine := oneLine c List.mem_cons_self
        have plain : (c == '\\') = false :=
          beq_false_of_ne fun same => unescaped (same ▸ List.mem_cons_self)
        rw [escape_cons mark, List.cons_append, cutQuoted?]
        simp only [sameLine, beq_false_of_ne mark, plain, later]
        rfl

/-- Taking the backslashes out again leaves the text. -/
theorem replace_escape {text : List Char} (unescaped : '\\' ∉ text) :
    Text.replace ['\\', '"'] ['"'] (escape text) = text := by
  induction text with
  | nil => rfl
  | cons c rest ih =>
      have later := ih fun member => unescaped (List.mem_cons_of_mem _ member)
      by_cases mark : c = '"'
      · subst mark
        exact congrArg ('"' :: ·) later
      · have plain : c ≠ '\\' := fun same => unescaped (same ▸ List.mem_cons_self)
        have differs : ['\\', '"'].isPrefixOf (c :: escape rest) = false := by
          simp [List.isPrefixOf, plain.symm]
        rw [escape_cons mark, Text.replace_cons_of_differs differs, later]

/-- A quotation is read up to its closing mark, and its marks are put right. -/
theorem readQuoted?_escape {text : List Char} (oneLine : ∀ c ∈ text, isLineBreak c = false)
    (unescaped : '\\' ∉ text) (orNull : Bool) :
    readQuoted? ('"' :: (escape text ++ '"' :: ending orNull)) =
      some ⟨.equals (.text (String.ofList text)) orNull, []⟩ := by
  rw [readQuoted?, cutQuoted?_escape oneLine unescaped, Option.map_some,
    replace_escape unescaped, valueReading_ending]

theorem readQuoted?_printed (text : Quotable) (orNull : Bool) :
    readQuoted? (Asked.quoted text orNull).text =
      some ⟨.equals (.text (String.ofList text.chars)) orNull, []⟩ :=
  readQuoted?_escape text.oneLine text.unescaped orNull

/-! ## Reading an item -/

/-- The grammar of what is asked reads it to its end. -/
theorem Asked.read?_own (asked : Asked) :
    asked.grammar.read? asked.text = some ⟨asked.content, []⟩ := by
  cases asked with
  | isNull => rfl
  | uuid value orNull => exact readUuid?_printed value orNull
  | bool value orNull =>
      cases value with
      | false => cases orNull with
        | false => rfl
        | true => rfl
      | true => cases orNull with
        | false => rfl
        | true => rfl
  | range low high orNull => exact readRange?_printed low high orNull
  | quoted text orNull =>
      change some ((readQuoted? (Asked.quoted text orNull).text).getD _) = _
      rw [readQuoted?_printed]
      rfl

end RelationQuery.Search

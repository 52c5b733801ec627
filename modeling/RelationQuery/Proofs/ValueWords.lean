import RelationQuery.Proofs.ItemGrammars

/-!
# Words that name values

Every grammar but the last reads words of a few forms: `null`, a truth value, a UUID, two numbers
with a hyphen between them. These grammars find a term exactly where such a word follows a key and a
colon. The words are made of few characters, so a text that is divided by any other character has
such a place only within its parts.
-/

namespace RelationQuery.Search

open Sql (MadeOf)
open Text (stops_cons)

/-! ## Words -/

inductive ValueWord : List Char → Prop where
  | null : ValueWord ['n', 'u', 'l', 'l']
  | bool (value : Bool) : ValueWord (Json.boolText value)
  | uuid (value : UuidDigits) : ValueWord value.text
  | range (low high : Amount) : ValueWord (low.text ++ '-' :: high.text)

def BeginsValue (text : List Char) : Prop := ∃ word, ValueWord word ∧ word <+: text

/-- A colon stands directly behind a character of a key and directly before a word that names a
value. -/
def HoldsValue (text : List Char) : Prop :=
  ∃ c word, isKeyChar c = true ∧ ValueWord word ∧ c :: ':' :: word <:+: text

def isWordChar (c : Char) : Bool :=
  Uuid.isLowerHex c || ['n', 'u', 'l', 't', 'r', 's', '-', '.'].contains c

theorem isWordChar_of_lowerHex {c : Char} (hex : Uuid.isLowerHex c = true) :
    isWordChar c = true := by
  simp [isWordChar, hex]

theorem isWordChar_of_digit {c : Char} (digit : c.isDigit = true) : isWordChar c = true :=
  isWordChar_of_lowerHex (by simp [Uuid.isLowerHex, digit])

theorem Amount.wordChars (amount : Amount) : MadeOf isWordChar amount.text := by
  have digits {run : List Char} (made : MadeOf Char.isDigit run) : MadeOf isWordChar run :=
    fun c member => isWordChar_of_digit (made c member)
  by_cases whole : amount.fraction = []
  · rw [Amount.text_of_whole whole]
    exact digits amount.wholeDigits
  · rw [Amount.text_of_fraction whole]
    exact Sql.madeOf_append (digits amount.wholeDigits)
      (Sql.madeOf_cons (by decide) (digits amount.fractionDigits))

namespace ValueWord

theorem wordChars {word : List Char} (names : ValueWord word) : MadeOf isWordChar word := by
  cases names with
  | null => decide
  | bool value => cases value <;> decide
  | uuid value =>
      intro c member
      rcases Uuid.mem_hyphenated member with rfl | digit
      · decide
      · exact isWordChar_of_lowerHex (value.lowerHex c digit)
  | range low high =>
      exact Sql.madeOf_append low.wordChars (Sql.madeOf_cons (by decide) high.wordChars)

theorem ne_nil {word : List Char} (names : ValueWord word) : word ≠ [] := by
  cases names with
  | null => decide
  | bool value => cases value <;> decide
  | uuid value =>
      obtain ⟨first, rest, begins, _⟩ := value.exists_text
      rw [begins]
      exact List.cons_ne_nil _ _
  | range low high => simp

end ValueWord

/-! ## Reading words -/

theorem isSome_cutWord?_iff {word text : List Char} :
    (cutWord? word text).isSome = true ↔ word <+: text := by
  rw [Option.isSome_iff_exists]
  exact exists_congr fun rest => cutWord?_eq_some_iff.trans eq_comm

theorem exists_hyphenated_of_cutGroups? {lengths : List Nat} {text : List Char}
    {found : List Char × List Char} (cut : Uuid.cutGroups? lengths text = some found) :
    ∃ digits : List Char, digits.length = lengths.foldr (· + ·) 0 ∧
      MadeOf Uuid.isLowerHex digits ∧ found.1 = Uuid.hyphenated lengths digits := by
  fun_induction Uuid.cutGroups? lengths text generalizing found with
  | case1 text =>
      cases cut
      exact ⟨[], rfl, List.forall_mem_nil _, rfl⟩
  | case2 length text =>
      rename_i group whole
      cases cut
      refine ⟨group, by simpa using whole.1, List.all_eq_true.mp whole.2, ?_⟩
      exact (List.take_of_length_le (Nat.le_of_eq whole.1)).symm
  | case3 => cases cut
  | case4 length lengths text more =>
      rename_i group whole behind dropped ih
      obtain ⟨inner, read, rfl⟩ := Option.map_eq_some_iff.mp cut
      obtain ⟨digits, count, hex, split⟩ := ih read
      have front : (group ++ digits).take length = group := List.take_left' whole.1
      have back : (group ++ digits).drop length = digits := List.drop_left' whole.1
      refine ⟨group ++ digits, ?_, Sql.madeOf_append (List.all_eq_true.mp whole.2) hex, ?_⟩
      · rw [List.length_append, whole.1, count, List.foldr_cons]
      · rw [Uuid.hyphenated.eq_3 _ _ _ (by simpa using more), front, back, ← split]
  | case5 => cases cut
  | case6 => cases cut

theorem isSome_readUuid?_iff {text : List Char} :
    (readUuid? text).isSome = true ↔ ∃ uuid : UuidDigits, uuid.text <+: text := by
  unfold readUuid?
  rw [Option.isSome_map, Option.isSome_iff_exists]
  constructor
  · rintro ⟨found, cut⟩
    obtain ⟨digits, count, hex, split⟩ := exists_hyphenated_of_cutGroups? cut
    refine ⟨⟨digits, count, hex⟩, found.2, ?_⟩
    rw [← cutGroups?_append cut, split]
    rfl
  · rintro ⟨uuid, rest, rfl⟩
    exact ⟨_, cutGroups?_hyphenated uuid.count uuid.lowerHex rest⟩

theorem isSome_readBool?_iff {text : List Char} :
    (readBool? text).isSome = true ↔ ∃ value, Json.boolText value <+: text := by
  have isTrue := @isSome_cutWord?_iff (Json.boolText true) text
  have isFalse := @isSome_cutWord?_iff (Json.boolText false) text
  unfold readBool?
  cases front : cutWord? (Json.boolText true) text with
  | some rest =>
      rw [front] at isTrue
      exact ⟨fun _ => ⟨true, isTrue.mp rfl⟩, fun _ => rfl⟩
  | none =>
      rw [front] at isTrue
      dsimp only
      rw [Option.isSome_map, isFalse]
      constructor
      · exact fun begins => ⟨false, begins⟩
      · rintro ⟨value, begins⟩
        cases value with
        | false => exact begins
        | true => exact absurd (isTrue.mpr begins) (by decide)

/-- What is cut as a number is one, up to where its digits end. -/
theorem exists_amount_of_cutNumber? {text : List Char} {found : List Char × List Char}
    (cut : cutNumber? text = some found) : ∃ amount : Amount, amount.text = found.1 := by
  have digits (text : List Char) : MadeOf Char.isDigit (text.takeWhile Char.isDigit) := fun c member =>
    List.all_eq_true.mp List.all_takeWhile c member
  unfold cutNumber? at cut
  dsimp only at cut
  split at cut
  · cases cut
  · rename_i filled
    have filled : text.takeWhile Char.isDigit ≠ [] := by simpa using filled
    have whole : ∃ amount : Amount, amount.text = text.takeWhile Char.isDigit :=
      ⟨⟨_, [], filled, digits text, List.forall_mem_nil _⟩, rfl⟩
    split at cut
    · rename_i tail point
      split at cut
      · cases cut
        exact whole
      · rename_i broken
        cases cut
        have broken : tail.takeWhile Char.isDigit ≠ [] := by simpa using broken
        exact ⟨⟨_, _, filled, digits text, digits tail⟩, Amount.text_of_fraction broken⟩
    · cases cut
      exact whole

theorem isSome_cutNumber?_amount (amount : Amount) (rest : List Char) :
    (cutNumber? (amount.text ++ rest)).isSome = true := by
  obtain ⟨first, others, begins, digit⟩ := amount.exists_text
  rw [begins]
  unfold cutNumber?
  rw [List.cons_append, List.takeWhile_cons_of_pos digit]
  dsimp only [List.isEmpty_cons]
  rw [if_neg (by decide)]
  split
  · split <;> rfl
  · rfl

theorem isSome_readRange?_iff {text : List Char} :
    (readRange? text).isSome = true ↔
      ∃ low high : Amount, low.text ++ '-' :: high.text <+: text := by
  unfold readRange?
  constructor
  · intro read
    split at read
    · rename_i first behind cut
      rw [Option.isSome_map] at read
      obtain ⟨found, later⟩ := Option.isSome_iff_exists.mp read
      obtain ⟨low, lowText⟩ := exists_amount_of_cutNumber? cut
      obtain ⟨high, highText⟩ := exists_amount_of_cutNumber? later
      refine ⟨low, high, found.2, ?_⟩
      rw [lowText, highText, ← cutNumber?_append cut, ← cutNumber?_append later]
      simp
    · cases read
  · rintro ⟨low, high, rest, rfl⟩
    have split : low.text ++ '-' :: high.text ++ rest = low.text ++ '-' :: (high.text ++ rest) := by
      simp
    rw [split, cutNumber?_amount low (stops_cons (by decide) _)]
    change ((cutNumber? (high.text ++ rest)).map _).isSome = true
    rw [Option.isSome_map]
    exact isSome_cutNumber?_amount high rest

/-- The grammars but the last read what begins with a word that names a value. -/
theorem exists_read?_iff {text : List Char} :
    (∃ grammar ∈ compactGrammars, (grammar.read? text).isSome = true) ↔ BeginsValue text := by
  have null : (readNull? text).isSome = true ↔ ['n', 'u', 'l', 'l'] <+: text := by
    unfold readNull?
    rw [Option.isSome_map, isSome_cutWord?_iff]
  constructor
  · rintro ⟨grammar, member, read⟩
    cases grammar with
    | null => exact ⟨_, .null, null.mp read⟩
    | uuid =>
        obtain ⟨uuid, begins⟩ := isSome_readUuid?_iff.mp read
        exact ⟨_, .uuid uuid, begins⟩
    | bool =>
        obtain ⟨value, begins⟩ := isSome_readBool?_iff.mp read
        exact ⟨_, .bool value, begins⟩
    | range =>
        obtain ⟨low, high, begins⟩ := isSome_readRange?_iff.mp read
        exact ⟨_, .range low high, begins⟩
    | string => exact absurd member (by decide)
  · rintro ⟨word, names, begins⟩
    cases names with
    | null => exact ⟨.null, by decide, null.mpr begins⟩
    | uuid uuid => exact ⟨.uuid, by decide, isSome_readUuid?_iff.mpr ⟨uuid, begins⟩⟩
    | bool value => exact ⟨.bool, by decide, isSome_readBool?_iff.mpr ⟨value, begins⟩⟩
    | range low high => exact ⟨.range, by decide, isSome_readRange?_iff.mpr ⟨low, high, begins⟩⟩

instance (text : List Char) : Decidable (BeginsValue text) := decidable_of_iff _ exists_read?_iff

theorem BeginsValue.head {c : Char} {rest : List Char} (begins : BeginsValue (c :: rest)) :
    isWordChar c = true := by
  obtain ⟨word, names, front⟩ := begins
  obtain ⟨first, others, rfl⟩ := List.exists_cons_of_ne_nil names.ne_nil
  obtain ⟨rfl, _⟩ := List.cons_prefix_cons.mp front
  exact names.wordChars first List.mem_cons_self

/-! ## Finding words -/

/-- A grammar finds a term where it reads what follows a key and a colon. -/
theorem isSome_find?_of_read? {grammar : Grammar} {c : Char} (isKey : isKeyChar c = true)
    {behind : List Char} (read : (grammar.read? behind).isSome = true)
    (before front : List Char) :
    (find? grammar before (front ++ c :: ':' :: behind)).isSome = true := by
  induction front generalizing before with
  | nil =>
      have other : c ≠ ':' := by
        rintro rfl
        cases isKey
      have here : (termAt? grammar (c :: before) behind).isSome = true := by
        unfold termAt?
        rw [List.takeWhile_cons_of_pos isKey]
        dsimp only [List.isEmpty_cons]
        rw [if_neg (by decide), Option.isSome_map]
        exact read
      obtain ⟨found, term⟩ := Option.isSome_iff_exists.mp here
      rw [List.nil_append, find?, if_neg other, find?, if_pos rfl, term]
      rfl
  | cons d rest ih =>
      rw [List.cons_append, find?]
      split
      · split
        · rfl
        · exact ih _
      · exact ih _

/-- The grammars but the last find a term exactly where a word that names a value follows a key and
a colon. -/
theorem exists_find?_iff {text : List Char} :
    (∃ grammar ∈ compactGrammars, (find? grammar [] text).isSome = true) ↔ HoldsValue text := by
  constructor
  · rintro ⟨grammar, member, here⟩
    obtain ⟨found, read⟩ := Option.isSome_iff_exists.mp here
    obtain ⟨behind, stands⟩ := exists_standsIn_of_find? read
    obtain ⟨word, names, rest, rfl⟩ :=
      exists_read?_iff.mp ⟨grammar, member, Option.isSome_of_mem stands.read⟩
    obtain ⟨start, last, ends⟩ : ∃ start last, found.key = start ++ [last] :=
      ⟨_, _, (List.dropLast_concat_getLast stands.key).symm⟩
    have isKey : isKeyChar last = true := stands.keyChars last (by simp [ends])
    refine ⟨last, word, isKey, names, found.front ++ start, rest, ?_⟩
    rw [stands.split, ends]
    simp
  · rintro ⟨c, word, isKey, names, front, rest, rfl⟩
    obtain ⟨grammar, member, read⟩ :=
      exists_read?_iff.mpr ⟨word, names, List.prefix_append word rest⟩
    refine ⟨grammar, member, ?_⟩
    have split : front ++ c :: ':' :: word ++ rest = front ++ c :: ':' :: (word ++ rest) := by simp
    rw [split]
    exact isSome_find?_of_read? isKey read [] front

instance (text : List Char) : Decidable (HoldsValue text) := decidable_of_iff _ exists_find?_iff

theorem find?_eq_none_of_valueless {text : List Char} (valueless : ¬HoldsValue text)
    {grammar : Grammar} (compact : grammar ∈ compactGrammars) : find? grammar [] text = none := by
  cases read : find? grammar [] text with
  | none => rfl
  | some found =>
      exact absurd (exists_find?_iff.mp ⟨grammar, compact, Option.isSome_of_mem read⟩) valueless

/-! ## Texts in parts -/

/-- Behind a key and a colon, a text begins with a value or holds one later. -/
theorem holdsValue_key_iff (key : Key) (behind : List Char) :
    HoldsValue (key.chars ++ ':' :: behind) ↔ BeginsValue behind ∨ HoldsValue behind := by
  simp only [← exists_find?_iff, ← exists_read?_iff, find?_key, Option.isSome_or,
    Option.isSome_map, Bool.or_eq_true, and_or_left, exists_or]

/-- A piece without a mark stands on one side of it. -/
theorem infix_append_cons_iff {mark : Char} {piece : List Char} (absent : mark ∉ piece)
    (front back : List Char) :
    piece <:+: front ++ mark :: back ↔ piece <:+: front ∨ piece <:+: back := by
  constructor
  · rintro ⟨before, behind, split⟩
    rw [List.append_assoc] at split
    rcases List.append_eq_append_iff.mp split with ⟨rest, rfl, inner⟩ | ⟨rest, rfl, inner⟩
    · rcases List.append_eq_append_iff.mp inner with ⟨more, rfl, _⟩ | ⟨more, rfl, crossing⟩
      · exact .inl (List.infix_append' before piece more)
      · cases more with
        | nil => exact .inl ⟨before, [], by simp⟩
        | cons d more =>
            obtain rfl := List.head_eq_of_cons_eq crossing
            exact absurd (by simp) absent
    · cases rest with
      | nil =>
          cases piece with
          | nil => exact .inl List.nil_infix
          | cons d piece =>
              obtain rfl := List.head_eq_of_cons_eq inner
              exact absurd List.mem_cons_self absent
      | cons d rest => exact .inr ⟨rest, behind, by simpa using (List.tail_eq_of_cons_eq inner).symm⟩
  · rintro (left | right)
    · exact left.trans (List.prefix_append front _).isInfix
    · exact right.trans ((List.suffix_cons mark back).trans (List.suffix_append front _)).isInfix

/-- A character that is neither a colon nor in any key or word that names a value. -/
structure Foreign (mark : Char) : Prop where
  notKey : isKeyChar mark = false
  notColon : mark ≠ ':'
  notWord : isWordChar mark = false

theorem Foreign.not_mem {mark : Char} (foreign : Foreign mark) {c : Char}
    (isKey : isKeyChar c = true) {word : List Char} (names : ValueWord word) :
    mark ∉ c :: ':' :: word := by
  intro member
  rcases List.mem_cons.mp member with rfl | member
  · exact absurd isKey (by simp [foreign.notKey])
  · rcases List.mem_cons.mp member with same | member
    · exact foreign.notColon same
    · exact absurd (names.wordChars mark member) (by simp [foreign.notWord])

/-- A foreign character divides a text into parts that hold their values. -/
theorem holdsValue_append_cons_iff {mark : Char} (foreign : Foreign mark)
    (front back : List Char) :
    HoldsValue (front ++ mark :: back) ↔ HoldsValue front ∨ HoldsValue back := by
  have parts {c : Char} {word : List Char} (isKey : isKeyChar c = true) (names : ValueWord word) :
      c :: ':' :: word <:+: front ++ mark :: back ↔
        c :: ':' :: word <:+: front ∨ c :: ':' :: word <:+: back :=
    infix_append_cons_iff (foreign.not_mem isKey names) front back
  constructor
  · rintro ⟨c, word, isKey, names, member⟩
    rcases (parts isKey names).mp member with left | right
    · exact .inl ⟨c, word, isKey, names, left⟩
    · exact .inr ⟨c, word, isKey, names, right⟩
  · rintro (⟨c, word, isKey, names, member⟩ | ⟨c, word, isKey, names, member⟩)
    · exact ⟨c, word, isKey, names, (parts isKey names).mpr (.inl member)⟩
    · exact ⟨c, word, isKey, names, (parts isKey names).mpr (.inr member)⟩

theorem HoldsValue.colon_mem {text : List Char} (holds : HoldsValue text) : ':' ∈ text := by
  obtain ⟨c, word, _, _, member⟩ := holds
  exact member.subset (by simp)

/-! ## Lexing -/

theorem stripAll_of_none {grammars : List Grammar} {text : List Char}
    (none : ∀ grammar ∈ grammars, find? grammar [] text = none) :
    stripAll grammars text = ([], text) := by
  induction grammars with
  | nil => rfl
  | cons grammar later ih =>
      have here := strip_of_none (none grammar List.mem_cons_self)
      have behind := ih fun other member => none other (List.mem_cons_of_mem _ member)
      simp only [stripAll, here, behind, List.append_nil]

/-- Where no key has such a word, the last grammar runs on the whole text. -/
theorem lex_of_valueless {text : List Char} (valueless : ¬HoldsValue text) :
    lex (String.ofList text) =
      ⟨(exhaust .string (Text.trim text)).1,
        String.ofList (exhaust .string (Text.trim text)).2⟩ := by
  have nothing := stripAll_of_none fun grammar member =>
    find?_eq_none_of_valueless valueless member
  rw [lex_eq, String.toList_ofList, nothing]
  rfl

/-- The first grammar that finds a term gives the first one. -/
theorem head?_stripAll {grammars : List Grammar} {text : List Char}
    (finds : ∃ grammar ∈ grammars, (find? grammar [] text).isSome = true) :
    ∃ grammar ∈ grammars, ∃ found, find? grammar [] text = some found ∧
      (stripAll grammars text).1.head? = some found.term := by
  induction grammars with
  | nil => simp at finds
  | cons grammar others ih =>
      cases read : find? grammar [] text with
      | some found =>
          refine ⟨grammar, List.mem_cons_self, found, read, ?_⟩
          rw [stripAll, strip_of_find? read]
          rfl
      | none =>
          obtain ⟨other, member, here⟩ := finds
          rcases List.mem_cons.mp member with rfl | member
          · rw [read] at here
            cases here
          · obtain ⟨turn, listed, found, later, first⟩ := ih ⟨other, member, here⟩
            refine ⟨turn, List.mem_cons_of_mem _ listed, found, later, ?_⟩
            rw [stripAll, strip_of_none read]
            exact first

theorem value_of_valueReading {value other : Value} {text : List Char} {orNull : Bool}
    (content : (valueReading value text).content = .equals other orNull) : value = other := by
  unfold valueReading at content
  split at content
  · exact (Content.equals.inj content).1
  · exact (Content.equals.inj content).1

theorem numberValue_ne_text (numeral : List Char) (s : String) : numberValue numeral ≠ .text s := by
  unfold numberValue
  split
  · exact Value.noConfusion
  · split
    · exact Value.noConfusion
    · exact Value.noConfusion

/-- A text that a grammar but the last gives is that of a UUID. -/
theorem colonless_of_read? {grammar : Grammar} (compact : grammar ∈ compactGrammars)
    {text : List Char} {reading : Reading} (read : grammar.read? text = some reading)
    {s : String} {orNull : Bool} (content : reading.content = .equals (.text s) orNull) :
    ':' ∉ s.toList := by
  cases grammar with
  | null =>
      obtain ⟨rest, _, rfl⟩ := Option.map_eq_some_iff.mp read
      cases content
  | uuid =>
      obtain ⟨found, cut, rfl⟩ := Option.map_eq_some_iff.mp read
      obtain ⟨digits, count, hex, split⟩ := exists_hyphenated_of_cutGroups? cut
      cases value_of_valueReading content
      rw [String.toList_ofList, split]
      exact UuidDigits.colonless ⟨digits, count, hex⟩
  | bool =>
      simp only [Grammar.read?, readBool?] at read
      split at read
      · cases read
        cases value_of_valueReading content
      · obtain ⟨rest, _, rfl⟩ := Option.map_eq_some_iff.mp read
        cases value_of_valueReading content
  | range =>
      simp only [Grammar.read?, readRange?] at read
      split at read
      · rename_i first behind _
        obtain ⟨second, _, rfl⟩ := Option.map_eq_some_iff.mp read
        exact absurd (value_of_valueReading content) (numberValue_ne_text first s)
      · cases read
  | string => exact absurd compact (by decide)

/-- The first term of a text in which a key has such a word is null, or its value is not a text
with a colon. -/
theorem head?_lex_of_holdsValue {text : List Char} (holds : HoldsValue text) :
    ∃ term, (lex (String.ofList text)).terms.head? = some term ∧
      ∀ s orNull, term.content = .equals (.text s) orNull → ':' ∉ s.toList := by
  obtain ⟨grammar, compact, found, read, first⟩ := head?_stripAll (exists_find?_iff.mpr holds)
  obtain ⟨behind, stands⟩ := exists_standsIn_of_find? read
  refine ⟨found.term, ?_, fun s orNull => colonless_of_read? compact stands.read⟩
  rw [lex_eq, String.toList_ofList, List.head?_append, first]
  rfl

end RelationQuery.Search

import RelationQuery.Proofs.PrintedItems
import RelationQuery.Proofs.UuidText

/-!
# Which grammar reads an item

The grammars are tried in turn, and none of those before an item's own reads any of it. Nor is there
a second key in an item: what is asked has no key before a colon, in a quotation by choice of its
text. So each grammar in its turn finds an item of its own at its first character, and nothing in
the items of later grammars.
-/

namespace RelationQuery.Search

open Sql (MadeOf)
open Text (stops_nil takeWhile_run dropWhile_run ne_of_digit)

/-! ## The grammars before -/

def Grammar.place (grammar : Grammar) : Nat := Grammar.all.idxOf grammar

theorem cutWord?_differs {c d : Char} (differs : c ≠ d) (word text : List Char) :
    cutWord? (c :: word) (d :: text) = none := by
  simp [cutWord?, List.isPrefixOf, differs]

theorem readBool?_differs {c : Char} (notT : 't' ≠ c) (notF : 'f' ≠ c) (text : List Char) :
    readBool? (c :: text) = none := by
  have isTrue : cutWord? (Json.boolText true) (c :: text) = none := cutWord?_differs notT _ _
  have isFalse : cutWord? (Json.boolText false) (c :: text) = none := cutWord?_differs notF _ _
  unfold readBool?
  rw [isTrue, isFalse]
  rfl

theorem readUuid?_differs {c : Char} (refused : Uuid.isLowerHex c = false) (text : List Char) :
    readUuid? (c :: text) = none := by
  simp [readUuid?, Uuid.cutGroups?, Uuid.groupLengths, refused]

/-- Groups are cut with a hyphen between each two. -/
theorem le_hyphens_of_cutGroups? {lengths : List Nat} {text : List Char}
    {found : List Char × List Char} (cut : Uuid.cutGroups? lengths text = some found) :
    lengths.length ≤ text.count '-' + 1 := by
  fun_induction Uuid.cutGroups? lengths text generalizing found with
  | case1 => exact Nat.zero_le _
  | case2 => exact Nat.le_add_left _ _
  | case3 => cases cut
  | case4 length _ text =>
      rename_i behind dropped ih
      obtain ⟨inner, read, rfl⟩ := Option.map_eq_some_iff.mp cut
      have rest := ih read
      have whole := (List.drop_sublist length text).count_le '-'
      rw [dropped, List.count_cons_self] at whole
      simp only [List.length_cons] at rest ⊢
      omega
  | case5 => cases cut
  | case6 => cases cut

theorem Amount.count_hyphen (amount : Amount) : amount.text.count '-' = 0 := by
  have none {digits : List Char} (made : MadeOf Char.isDigit digits) : digits.count '-' = 0 :=
    List.count_eq_zero.mpr (made.not_mem (by decide))
  by_cases whole : amount.fraction = []
  · rw [Amount.text_of_whole whole, none amount.wholeDigits]
  · rw [Amount.text_of_fraction whole, List.count_append, none amount.wholeDigits,
      List.count_cons_of_ne (by decide), none amount.fractionDigits]

theorem readUuid?_range (low high : Amount) (orNull : Bool) :
    readUuid? (Asked.range low high orNull).text = none := by
  -- A UUID has four hyphens and a range has one.
  have once : (Asked.range low high orNull).text.count '-' = 1 := by
    have ends : (ending orNull).count '-' = 0 := by
      cases orNull with
      | false => rfl
      | true => rfl
    simp only [Asked.text, List.count_append, List.count_cons_self, Amount.count_hyphen, ends]
  unfold readUuid?
  cases cut : Uuid.cutGroups? Uuid.groupLengths (Asked.range low high orNull).text with
  | none => rfl
  | some found =>
      have hyphens := le_hyphens_of_cutGroups? cut
      rw [once] at hyphens
      exact absurd hyphens (by decide)

theorem UuidDigits.exists_text (uuid : UuidDigits) :
    ∃ first rest, uuid.text = first :: rest ∧ Uuid.isLowerHex first = true := by
  have filled : uuid.digits ≠ [] := fun empty => by
    have count := uuid.count
    rw [empty] at count
    cases count
  obtain ⟨first, rest, begins⟩ := List.exists_cons_of_ne_nil filled
  have hex : Uuid.isLowerHex first = true := uuid.lowerHex first (by simp [begins])
  unfold UuidDigits.text
  rw [begins]
  exact ⟨first, _, rfl, hex⟩

theorem readBool?_digit {c : Char} (digit : c.isDigit = true) (text : List Char) :
    readBool? (c :: text) = none :=
  readBool?_differs (ne_of_digit digit (by decide)).symm (ne_of_digit digit (by decide)).symm text

/-- The grammars that are tried before do not read it. -/
theorem Asked.read?_earlier {grammar : Grammar} {asked : Asked}
    (earlier : grammar.place < asked.grammar.place) : grammar.read? asked.text = none := by
  cases asked with
  | isNull => exact absurd earlier (Nat.not_lt_zero _)
  | uuid value orNull =>
      have earlier : grammar.place < Grammar.place .uuid := earlier
      obtain ⟨first, rest, begins, hex⟩ := value.exists_text
      have differs : 'n' ≠ first := by
        rintro rfl
        exact absurd hex (by decide)
      have head : (Asked.uuid value orNull).text = first :: (rest ++ ending orNull) := by
        simp [Asked.text, begins]
      cases grammar with
      | null =>
          rw [head]
          exact congrArg (Option.map _) (cutWord?_differs differs _ _)
      | uuid | bool | range | string => exact absurd earlier (by decide)
  | bool value orNull =>
      have earlier : grammar.place < Grammar.place .bool := earlier
      cases grammar with
      | null => cases value with
        | false => rfl
        | true => rfl
      | uuid => cases value with
        | false => cases orNull with
          | false => rfl
          | true => rfl
        | true => exact readUuid?_differs (c := 't') (by decide) _
      | bool | range | string => exact absurd earlier (by decide)
  | range low high orNull =>
      have earlier : grammar.place < Grammar.place .range := earlier
      obtain ⟨first, rest, begins, digit⟩ := low.exists_text
      have head : (Asked.range low high orNull).text =
          first :: (rest ++ '-' :: (high.text ++ ending orNull)) := by
        simp [Asked.text, begins]
      cases grammar with
      | null =>
          rw [head]
          exact congrArg (Option.map _)
            (cutWord?_differs (ne_of_digit digit (d := 'n') (by decide)).symm _ _)
      | uuid => exact readUuid?_range low high orNull
      | bool =>
          rw [head]
          exact readBool?_digit digit _
      | range | string => exact absurd earlier (by decide)
  | quoted text orNull =>
      have earlier : grammar.place < Grammar.place .string := earlier
      cases grammar with
      | null => rfl
      | uuid => exact readUuid?_differs (c := '"') (by decide) _
      | bool =>
          exact readBool?_differs (c := '"') (by decide) (by decide)
            (escape text.chars ++ '"' :: ending orNull)
      | range => rfl
      | string => exact absurd earlier (by decide)

/-! ## Where an item has its key -/

theorem keyless_of_colonless {text : List Char} (colonless : ':' ∉ text) : ¬ HasKey text := by
  rintro ⟨c, _, member⟩
  exact colonless (member.subset (by simp))

/-- Behind a character of a key, escaping puts no colon in front. -/
theorem not_colon_prefix_escape {d : Char} (isKey : isKeyChar d = true) {text more : List Char}
    (keyless : ¬ HasKey (d :: text)) (colonless : ':' ∉ more) :
    ¬ [':'] <+: escape text ++ more := by
  intro colon
  cases text with
  | nil => exact colonless (colon.subset List.mem_cons_self)
  | cons c rest =>
      by_cases mark : c = '"'
      · subst mark
        rw [escape_mark] at colon
        cases (List.cons_prefix_cons.mp colon).1
      · rw [escape_cons mark] at colon
        obtain ⟨rfl, _⟩ := List.cons_prefix_cons.mp colon
        exact keyless ⟨d, isKey, [], rest, rfl⟩

/-- Escaping puts no key before a colon, and neither does text without colons behind it. -/
theorem keyless_escape {text more : List Char} (keyless : ¬ HasKey text) (colonless : ':' ∉ more) :
    ¬ HasKey (escape text ++ more) := by
  induction text with
  | nil => exact keyless_of_colonless colonless
  | cons c rest ih =>
      have later := ih fun ⟨d, isKey, member⟩ =>
        keyless ⟨d, isKey, member.trans (List.suffix_cons c rest).isInfix⟩
      rintro ⟨d, isKey, member⟩
      by_cases mark : c = '"'
      · subst mark
        rw [escape_mark, List.cons_append, List.cons_append] at member
        rcases List.infix_cons_iff.mp member with front | behind
        · cases (List.cons_prefix_cons.mp front).1
          cases isKey
        · rcases List.infix_cons_iff.mp behind with front | behind
          · cases (List.cons_prefix_cons.mp front).1
            cases isKey
          · exact later ⟨d, isKey, behind⟩
      · rw [escape_cons mark, List.cons_append] at member
        rcases List.infix_cons_iff.mp member with front | behind
        · obtain ⟨rfl, colon⟩ := List.cons_prefix_cons.mp front
          exact not_colon_prefix_escape isKey keyless colonless colon
        · exact later ⟨d, isKey, behind⟩

theorem colonless_ending (orNull : Bool) : ':' ∉ ending orNull := by
  cases orNull with
  | false => decide
  | true => decide

theorem Amount.colonless (amount : Amount) : ':' ∉ amount.text := by
  have none {digits : List Char} (made : MadeOf Char.isDigit digits) : ':' ∉ digits :=
    made.not_mem (by decide)
  by_cases whole : amount.fraction = []
  · rw [Amount.text_of_whole whole]
    exact none amount.wholeDigits
  · rw [Amount.text_of_fraction whole]
    simp [none amount.wholeDigits, none amount.fractionDigits]

theorem UuidDigits.colonless (uuid : UuidDigits) : ':' ∉ uuid.text := by
  intro member
  rcases Uuid.mem_hyphenated member with hyphen | digit
  · cases hyphen
  · exact absurd (uuid.lowerHex ':' digit) (by decide)

theorem Asked.keyless (asked : Asked) : ¬ HasKey asked.text := by
  cases asked with
  | isNull => exact keyless_of_colonless (by decide)
  | uuid value orNull =>
      apply keyless_of_colonless
      simp [Asked.text, value.colonless, colonless_ending orNull]
  | bool value orNull =>
      apply keyless_of_colonless
      have word : ':' ∉ Json.boolText value := by
        cases value with
        | false => decide
        | true => decide
      simp [Asked.text, word, colonless_ending orNull]
  | range low high orNull =>
      apply keyless_of_colonless
      simp [Asked.text, low.colonless, high.colonless, colonless_ending orNull]
  | quoted text orNull =>
      have behind : ':' ∉ '"' :: ending orNull := by simp [colonless_ending orNull]
      rintro ⟨c, isKey, member⟩
      rcases List.infix_cons_iff.mp member with front | inner
      · cases (List.cons_prefix_cons.mp front).1
        cases isKey
      · exact keyless_escape text.keyless behind ⟨c, isKey, inner⟩

theorem Key.termAt? (key : Key) (grammar : Grammar) (behind : List Char) :
    termAt? grammar key.chars.reverse behind =
      (grammar.read? behind).map fun reading => ⟨[], key.chars, reading⟩ := by
  have made : MadeOf isKeyChar key.chars.reverse := Text.madeOf_reverse key.keyChars
  have taken := takeWhile_run stops_nil made
  have dropped := dropWhile_run stops_nil made
  rw [List.append_nil] at taken dropped
  have filled : key.chars.reverse.isEmpty = false := by simpa using key.filled
  unfold Search.termAt?
  rw [taken, dropped]
  simp [filled]

/-- Behind a key and a colon a grammar reads a value, or else looks for a later term. -/
theorem find?_key (grammar : Grammar) (key : Key) (behind : List Char) :
    find? grammar [] (key.chars ++ ':' :: behind) =
      ((grammar.read? behind).map fun reading => ⟨[], key.chars, reading⟩).or
        ((find? grammar [] behind).map (Found.behind (key.chars ++ [':']))) := by
  have colonless : ∀ c ∈ key.chars, c ≠ ':' := by
    rintro c member rfl
    exact absurd (key.keyChars ':' member) (by decide)
  have later := find?_behind grammar (c := ':') (by decide) [] key.chars.reverse behind
  rw [List.nil_append] at later
  rw [find?_colonless colonless, List.append_nil, find?, if_pos rfl, later, Key.termAt?]
  cases grammar.read? behind with
  | none => simp
  | some reading => rfl

/-- In a key and what is asked of it, a grammar finds what it reads behind the colon. -/
theorem find?_item (grammar : Grammar) (item : Item) :
    find? grammar [] item.text =
      (grammar.read? item.asked.text).map fun reading => ⟨[], item.key.chars, reading⟩ := by
  have nothing : find? grammar [] item.asked.text = none := by
    cases read : find? grammar [] item.asked.text with
    | none => rfl
    | some found => exact absurd (hasKey_of_find? read) item.asked.keyless
  unfold Item.text
  rw [find?_key, nothing, Option.map_none, Option.or_none]

end RelationQuery.Search

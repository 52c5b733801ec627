import RelationQuery.Proofs.ItemGrammars

/-!
# Lexing printed items

The items of a printed text stand apart, so each grammar cuts out its own and leaves the others and
the spaces between them where they are. When all grammars have run, every item has given its term
and nothing is left.
-/

namespace RelationQuery.Search

open Text (isBlank trim)

/-! ## Parts behind spaces -/

def behindSpaces (parts : List (List Char)) : List Char := parts.flatMap (' ' :: ·)

theorem intercalate_space (part : List Char) (parts : List (List Char)) :
    List.intercalate [' '] (part :: parts) = part ++ behindSpaces parts := by
  induction parts generalizing part with
  | nil => simp [behindSpaces, List.intercalate]
  | cons next later ih =>
      rw [List.intercalate_cons_cons, ih]
      simp [behindSpaces]

theorem apart_behindSpaces (parts : List (List Char)) : Apart (behindSpaces parts) := by
  cases parts with
  | nil => exact apart_nil
  | cons part parts => exact apart_cons (by decide) _

/-- A grammar but the last runs on each part by itself. -/
theorem strip_behindSpaces {grammar : Grammar} (compact : grammar ≠ .string) (part : List Char)
    (parts : List (List Char)) :
    strip grammar (part ++ behindSpaces parts) =
      ((strip grammar part).1 ++ parts.flatMap fun part => (strip grammar part).1,
        (strip grammar part).2 ++ behindSpaces (parts.map fun part => (strip grammar part).2)) := by
  induction parts generalizing part with
  | nil => simp [behindSpaces]
  | cons next later ih =>
      have joint := strip_joint compact (b := ' ') (by decide) part (next ++ behindSpaces later)
      rw [ih next] at joint
      simpa [behindSpaces] using joint

theorem strip_nil (grammar : Grammar) : strip grammar [] = ([], []) := strip_of_none rfl

theorem strip_intercalate {grammar : Grammar} (compact : grammar ≠ .string)
    (parts : List (List Char)) :
    strip grammar (List.intercalate [' '] parts) =
      (parts.flatMap fun part => (strip grammar part).1,
        List.intercalate [' '] (parts.map fun part => (strip grammar part).2)) := by
  cases parts with
  | nil => exact strip_nil grammar
  | cons part parts =>
      rw [intercalate_space, strip_behindSpaces compact, List.map_cons, intercalate_space]
      rfl

theorem trim_behindSpaces (parts : List (List Char)) :
    trim (behindSpaces parts) = trim (List.intercalate [' '] parts) := by
  cases parts with
  | nil => rfl
  | cons part parts =>
      rw [intercalate_space]
      exact Text.trim_behind_blanks (Sql.madeOf_single (by decide)) (part ++ behindSpaces parts)

/-! ## One item -/

/-- What is left of an item when the first `tried` grammars have run. -/
def Item.left (tried : Nat) (item : Item) : List Char :=
  if item.grammar.place < tried then [] else item.text

theorem Item.left_of_tried {item : Item} {tried : Nat} (passed : item.grammar.place < tried) :
    item.left tried = [] := if_pos passed

theorem Item.left_of_untried {item : Item} {tried : Nat} (ahead : tried ≤ item.grammar.place) :
    item.left tried = item.text := if_neg (Nat.not_lt.mpr ahead)

def termsOf (grammar : Grammar) (items : List Item) : List Term :=
  (items.filter fun item => item.grammar = grammar).map Item.term

theorem termsOf_cons_own {grammar : Grammar} {item : Item} (own : item.grammar = grammar)
    (items : List Item) : termsOf grammar (item :: items) = item.term :: termsOf grammar items := by
  simp [termsOf, own]

theorem termsOf_cons_other {grammar : Grammar} {item : Item} (other : item.grammar ≠ grammar)
    (items : List Item) : termsOf grammar (item :: items) = termsOf grammar items := by
  simp [termsOf, other]

theorem Grammar.getElem?_place (grammar : Grammar) :
    Grammar.all[grammar.place]? = some grammar := by
  cases grammar with
  | null | uuid | bool | range | string => rfl

theorem Grammar.place_inj {first second : Grammar} (same : first.place = second.place) :
    first = second := by
  have found := first.getElem?_place
  rw [same, second.getElem?_place] at found
  exact (Option.some.inj found).symm

theorem Grammar.place_lt_string {grammar : Grammar} (other : grammar ≠ .string) :
    grammar.place < Grammar.string.place := by
  cases grammar with
  | null | uuid | bool | range => decide
  | string => exact absurd rfl other

def Item.found (item : Item) : Found := ⟨[], item.key.chars, ⟨item.asked.content, []⟩⟩

theorem find?_own (item : Item) : find? item.grammar [] item.text = some item.found := by
  have own : item.grammar.read? item.asked.text = some ⟨item.asked.content, []⟩ :=
    item.asked.read?_own
  rw [find?_item, own]
  rfl

theorem find?_earlier {grammar : Grammar} {item : Item}
    (earlier : grammar.place < item.grammar.place) : find? grammar [] item.text = none := by
  rw [find?_item, Asked.read?_earlier earlier]
  rfl

/-- A grammar in its turn takes the term of its own items, and leaves those of later ones. -/
theorem strip_left (grammar : Grammar) (item : Item) :
    strip grammar (item.left grammar.place) =
      (termsOf grammar [item], item.left (grammar.place + 1)) := by
  rcases Nat.lt_trichotomy item.grammar.place grammar.place with passed | turn | ahead
  · have other : item.grammar ≠ grammar := fun same => by
      rw [same] at passed
      exact Nat.lt_irrefl _ passed
    rw [Item.left_of_tried passed, Item.left_of_tried (Nat.lt_succ_of_lt passed),
      termsOf_cons_other other]
    exact strip_nil grammar
  · obtain rfl := Grammar.place_inj turn
    rw [Item.left_of_untried (Nat.le_refl _), Item.left_of_tried (Nat.lt_succ_self _),
      termsOf_cons_own rfl, strip_of_find? (find?_own item)]
    exact congrArg (fun later : List Term × List Char => (item.term :: later.1, later.2))
      (strip_nil item.grammar)
  · have other : item.grammar ≠ grammar := fun same => by
      rw [same] at ahead
      exact Nat.lt_irrefl _ ahead
    rw [Item.left_of_untried (Nat.le_of_lt ahead), Item.left_of_untried ahead,
      termsOf_cons_other other, strip_of_none (find?_earlier ahead)]
    rfl

/-! ## All items -/

theorem termsOf_eq_flatMap (grammar : Grammar) (items : List Item) :
    termsOf grammar items = items.flatMap fun item => termsOf grammar [item] := by
  induction items with
  | nil => rfl
  | cons item items ih =>
      rw [List.flatMap_cons, ← ih]
      by_cases own : item.grammar = grammar
      · rw [termsOf_cons_own own, termsOf_cons_own own]
        rfl
      · rw [termsOf_cons_other own, termsOf_cons_other own]
        rfl

/-- What is left of items, with a space between each two. -/
def leftover (tried : Nat) (items : List Item) : List Char :=
  List.intercalate [' '] (items.map (Item.left tried))

theorem strip_leftover {grammar : Grammar} (compact : grammar ≠ .string) (items : List Item) :
    strip grammar (leftover grammar.place items) =
      (termsOf grammar items, leftover (grammar.place + 1) items) := by
  unfold leftover
  rw [strip_intercalate compact, termsOf_eq_flatMap, List.flatMap_map, List.map_map]
  simp only [strip_left, Function.comp_def]

theorem toList_printed (items : List Item) : (printed items).toList = leftover 0 items := by
  unfold printed leftover
  rw [String.toList_ofList]
  apply congrArg
  apply List.map_congr_left
  intro item _
  exact (Item.left_of_untried (Nat.zero_le _)).symm

theorem stripAll_printed (items : List Item) :
    stripAll compactGrammars (printed items).toList =
      (compactGrammars.flatMap (termsOf · items), leftover Grammar.string.place items) := by
  have null : strip .null (leftover 0 items) = (termsOf .null items, leftover 1 items) :=
    strip_leftover (by decide) items
  have uuid : strip .uuid (leftover 1 items) = (termsOf .uuid items, leftover 2 items) :=
    strip_leftover (by decide) items
  have bool : strip .bool (leftover 2 items) = (termsOf .bool items, leftover 3 items) :=
    strip_leftover (by decide) items
  have range : strip .range (leftover 3 items) = (termsOf .range items, leftover 4 items) :=
    strip_leftover (by decide) items
  rw [toList_printed]
  simp only [compactGrammars, stripAll, null, uuid, bool, range]
  rfl

/-! ## Quotations -/

theorem openQuote_of_cutQuoted? {escaped : Bool} {text : List Char}
    {found : List Char × List Char} (cut : cutQuoted? escaped text = some found) :
    openQuote escaped text = false := by
  fun_induction cutQuoted? escaped text generalizing found with
  | case1 => cases cut
  | case2 => cases cut
  | case3 escaped c rest sameLine mark => rw [openQuote, if_neg sameLine, if_pos mark]
  | case4 escaped c rest sameLine other ih =>
      obtain ⟨inner, read, _⟩ := Option.map_eq_some_iff.mp cut
      rw [openQuote, if_neg sameLine, if_neg other, ih read]

theorem Item.exists_quoted {item : Item} (own : item.grammar = .string) :
    ∃ text orNull, item.asked = .quoted text orNull := by
  unfold Item.grammar at own
  cases asked : item.asked with
  | quoted text orNull => exact ⟨text, orNull, rfl⟩
  | isNull | uuid | bool | range =>
      rw [asked] at own
      cases own

/-- No blank stands at an end of a key, a colon and a quotation. -/
theorem trim_quotation (key : Key) (text : List Char) (orNull : Bool) :
    trim (key.chars ++ ':' :: '"' :: (escape text ++ '"' :: ending orNull)) =
      key.chars ++ ':' :: '"' :: (escape text ++ '"' :: ending orNull) := by
  obtain ⟨first, rest, begins⟩ := List.exists_cons_of_ne_nil key.filled
  have isKey : isKeyChar first = true := key.keyChars first (by simp [begins])
  obtain ⟨front, last, ends, solid⟩ : ∃ front last,
      '"' :: ending orNull = front ++ [last] ∧ isBlank last = false := by
    cases orNull with
    | false => exact ⟨[], '"', rfl, by decide⟩
    | true => exact ⟨['"', '|', '|', 'n', 'u', 'l'], 'l', rfl, by decide⟩
  have starts : key.chars ++ ':' :: '"' :: (escape text ++ '"' :: ending orNull) =
      first :: (rest ++ ':' :: '"' :: (escape text ++ '"' :: ending orNull)) := by
    simp [begins]
  have closes : key.chars ++ ':' :: '"' :: (escape text ++ '"' :: ending orNull) =
      (key.chars ++ ':' :: '"' :: (escape text ++ front)) ++ [last] := by
    rw [ends]
    simp
  exact Text.trim_of_ends starts closes (not_blank_of_keyChar isKey) solid

theorem trim_quoted {item : Item} (own : item.grammar = .string) : trim item.text = item.text := by
  obtain ⟨text, orNull, asked⟩ := Item.exists_quoted own
  rw [Item.text, asked]
  exact trim_quotation item.key text.chars orNull

theorem isOpen_quoted (text : Quotable) (orNull : Bool) :
    isOpen (Asked.quoted text orNull).text = false :=
  openQuote_of_cutQuoted? (cutQuoted?_escape text.oneLine text.unescaped (ending orNull))

/-- Behind a quotation the last grammar goes on with what follows it. -/
theorem exhaust_quoted {item : Item} (own : item.grammar = .string) {more : List Char}
    (apart : Apart more) :
    exhaust .string (trim (item.text ++ more)) =
      (item.term :: (exhaust .string (trim more)).1, (exhaust .string (trim more)).2) := by
  obtain ⟨text, orNull, asked⟩ := Item.exists_quoted own
  have filled : trim item.text ≠ [] := by
    rw [trim_quoted own]
    simp [Item.text]
  obtain ⟨later, apartLater, same, joined⟩ := exists_trim_append filled apart
  have read : find? .string [] item.text = some item.found := by
    rw [← own]
    exact find?_own item
  have after : item.found.after item.text = item.asked.text := by
    simp [Found.after, Item.found, Item.text]
  have settled : isOpen (item.found.after item.text) = false := by
    rw [after, asked]
    exact isOpen_quoted text orNull
  have on := find?_string_settled apartLater read settled
  have rest : (item.found.extend later).remainder = trim more := by
    rw [← same]
    rfl
  rw [joined, trim_quoted own, exhaust_of_find? on, rest]
  rfl

theorem exhaust_leftover (items : List Item) :
    exhaust .string (trim (leftover Grammar.string.place items)) = (termsOf .string items, []) := by
  induction items with
  | nil => exact exhaust_of_none rfl
  | cons item items ih =>
      have split : leftover Grammar.string.place (item :: items) =
          item.left Grammar.string.place ++
            behindSpaces (items.map (Item.left Grammar.string.place)) :=
        intercalate_space _ _
      rw [split]
      by_cases own : item.grammar = .string
      · rw [Item.left_of_untried (Nat.le_of_eq (congrArg Grammar.place own.symm)),
          exhaust_quoted own (apart_behindSpaces _),
          trim_behindSpaces, termsOf_cons_own own]
        unfold leftover at ih
        rw [ih]
      · rw [Item.left_of_tried (Grammar.place_lt_string own), List.nil_append,
          trim_behindSpaces, termsOf_cons_other own]
        exact ih

/-- Lexing undoes printing: the terms are those of the items, grammar by grammar and else in the
order of the items, and nothing is left. -/
theorem lex_printed (items : List Item) :
    lex (printed items) = ⟨Grammar.all.flatMap (termsOf · items), ""⟩ := by
  rw [lex_eq, stripAll_printed]
  simp only [exhaust_leftover, Grammar.all, compactGrammars, List.flatMap_cons, List.flatMap_nil,
    List.append_assoc, List.append_nil]

/-- The range comes first, though the quotation stands before it. -/
example : lex "name:\"J\\\"\" age:18-65.5||null" =
    ⟨[⟨"age", .equals (.int64 18) true⟩, ⟨"name", .equals (.text "J\"") false⟩], ""⟩ := by cbv

end RelationQuery.Search

import RelationQuery.Proofs.CutText
import RelationQuery.Proofs.ObjectEnds
import RelationQuery.Proofs.ParsedOrders

/-!
# The text of orders

An order is written as its columns with their directions, apart by commas and any blanks. It is read
back exactly if each column is one word without a comma, and what is read from any text has such
columns only. The text of an order never is an object, since it ends with the word of a direction.
-/

namespace RelationQuery

open Text
open Sql (MadeOf)

namespace Order

/-! ## Writing -/

/-- What reading takes for one word: it is not empty, and neither a comma nor a blank parts it. -/
structure IsWord (word : String) : Prop where
  filled : word.toList ≠ []
  unparted : ',' ∉ word.toList
  solid : MadeOf (fun c => !isBlank c) word.toList

instance (word : String) : Decidable (IsWord word) :=
  decidable_of_iff
    (word.toList ≠ [] ∧ ',' ∉ word.toList ∧ MadeOf (fun c => !isBlank c) word.toList)
    ⟨fun ⟨filled, unparted, solid⟩ => ⟨filled, unparted, solid⟩,
      fun whole => ⟨whole.filled, whole.unparted, whole.solid⟩⟩

def OfWords (order : Order) : Prop := ∀ column ∈ order.columns.keys, IsWord column

structure Separator where
  before : List Char
  behind : List Char
  blankBefore : MadeOf isBlank before
  blankBehind : MadeOf isBlank behind

def Separator.text (separator : Separator) : List Char :=
  separator.before ++ ',' :: separator.behind

def entryText (entry : String × Direction) : List Char :=
  entry.1.toList ++ ' ' :: entry.2.word.toList

/-- Entries in turn, the first two apart by the separator of place 0. -/
def entriesText (separators : Nat → Separator) : List (String × Direction) → List Char
  | [] => []
  | [entry] => entryText entry
  | entry :: next :: others =>
      entryText entry ++ ((separators 0).text ++
        entriesText (fun place => separators (place + 1)) (next :: others))

/-- The text of an order, such as `a ASC, b DESC`. -/
def text (separators : Nat → Separator) (order : Order) : String :=
  String.ofList (entriesText separators order.columns.entries)

/-! ## Reading what was written -/

theorem isWord_word (direction : Direction) : IsWord direction.word := by
  cases direction <;> decide

section Entry

variable {entry : String × Direction} (column : IsWord entry.1) {before behind : List Char}
  (blankBefore : MadeOf isBlank before) (blankBehind : MadeOf isBlank behind)

include column blankBefore blankBehind

theorem comma_not_mem_entryText : ',' ∉ before ++ (entryText entry ++ behind) := by
  have comma : isBlank ',' = false := by decide
  have others : ',' ∉ ' ' :: entry.2.word.toList := by
    simpa using (isWord_word entry.2).unparted
  simp only [entryText, List.mem_append, not_or]
  exact ⟨blankBefore.not_mem comma, ⟨column.unparted, others⟩, blankBehind.not_mem comma⟩

/-- An entry is read back with blanks around it. -/
theorem readEntry?_entryText : readEntry? (before ++ (entryText entry ++ behind)) = some entry := by
  have direction := isWord_word entry.2
  have cut : words (before ++ (entryText entry ++ behind)) =
      [entry.1.toList, entry.2.word.toList] := by
    rw [words_blanks blankBefore, entryText, List.append_assoc, List.cons_append,
      words_word column.filled column.solid (stops_cons rfl _), words_cons_blank (by decide),
      words_word direction.filled direction.solid (stops_of_blank blankBehind),
      words_of_blank blankBehind]
  unfold readEntry?
  rw [cut]
  simp only [String.ofList_toList, Direction.ofWord_word]

end Entry

/-- The entries of a text are read back one by one, whatever blanks stand in front of them. The
blanks behind a comma are those in front of the entries that are left. -/
theorem filterMap_readEntry?_entriesText {entries : List (String × Direction)}
    (columns : ∀ entry ∈ entries, IsWord entry.1) (separators : Nat → Separator)
    {front : List Char} (blank : MadeOf isBlank front) :
    ((front ++ entriesText separators entries).splitOn ',').filterMap readEntry? = entries := by
  fun_induction entriesText separators entries generalizing front with
  | case1 =>
      have comma : ',' ∉ front := blank.not_mem (by decide)
      have none : readEntry? front = none := by
        unfold readEntry?
        rw [words_of_blank blank]
      rw [List.append_nil, List.splitOn_eq_singleton comma, List.filterMap_cons_none none]
      rfl
  | case2 _ entry =>
      have column := columns entry List.mem_cons_self
      have alone := comma_not_mem_entryText column blank (List.forall_mem_nil _)
      have read := readEntry?_entryText column blank (List.forall_mem_nil _)
      rw [List.append_nil] at alone read
      rw [List.splitOn_eq_singleton alone, List.filterMap_cons_some read]
      rfl
  | case3 separators entry next others ih =>
      obtain ⟨column, later⟩ := List.forall_mem_cons.mp columns
      obtain ⟨before, behind, blankBefore, blankBehind⟩ := separators 0
      have piece := comma_not_mem_entryText column blank blankBefore
      -- the first comma is that of the separator, and the blanks before it go with this entry
      have cut : front ++ (entryText entry ++ ((before ++ ',' :: behind) ++
          entriesText (fun place => separators (place + 1)) (next :: others))) =
            (front ++ (entryText entry ++ before)) ++ ',' :: (behind ++
              entriesText (fun place => separators (place + 1)) (next :: others)) := by
        simp only [List.append_assoc, List.cons_append]
      rw [Separator.text, cut, List.splitOn_append_cons_self_of_not_mem piece,
        List.filterMap_cons_some (readEntry?_entryText column blank blankBefore),
        ih later blankBehind]

/-- Of entries with one column the first keeps its place and the last gives the direction. -/
theorem ofText_entriesText {entries : List (String × Direction)}
    (columns : ∀ entry ∈ entries, IsWord entry.1) (separators : Nat → Separator) :
    ofText (.ofList (entriesText separators entries)) = ⟨Keyed.ofList entries⟩ := by
  have read := filterMap_readEntry?_entriesText columns separators (List.forall_mem_nil _)
  rw [List.nil_append] at read
  rw [ofText, String.toList_ofList, read]

/-- The columns of an order are distinct, so its text gives all of them. -/
theorem ofText_text {order : Order} (ofWords : order.OfWords) (separators : Nat → Separator) :
    ofText (order.text separators) = order := by
  have columns : ∀ entry ∈ order.columns.entries, IsWord entry.1 :=
    fun entry member => ofWords entry.1 (List.mem_map_of_mem member)
  have kept : Keyed.ofList order.columns.entries = order.columns :=
    Keyed.eq_of_entries (Keyed.entries_ofList order.columns.distinct)
  exact (ofText_entriesText columns separators).trans (congrArg Order.mk kept)

/-! ## Order texts and objects -/

theorem getLast?_entryText (entry : String × Direction) :
    (entryText entry).getLast? = some 'C' := by
  rw [entryText, List.getLast?_append_cons]
  cases entry.2 <;> decide

/-- An order text ends with the last letter of a direction. -/
theorem getLast?_entriesText (separators : Nat → Separator) {entries : List (String × Direction)}
    (filled : entries ≠ []) : (entriesText separators entries).getLast? = some 'C' := by
  fun_induction entriesText separators entries with
  | case1 => exact absurd rfl filled
  | case2 _ entry => exact getLast?_entryText entry
  | case3 _ entry next others ih =>
      have ends := ih (List.cons_ne_nil next others)
      rw [List.getLast?_append, List.getLast?_append, ends]
      rfl

/-- The text of an order is no object, whatever its columns look like. -/
theorem read_text (order : Order) (separators : Nat → Separator) :
    read (order.text separators) = ofText (order.text separators) := by
  have noObject : Json.readKeyed? (entriesText separators order.columns.entries) = none := by
    by_cases empty : order.columns.entries = []
    · rw [empty]
      rfl
    · exact Json.readKeyed?_eq_none_of_getLast? (getLast?_entriesText separators empty) (by decide)
        (by decide)
  unfold read ofObjectText?
  rw [text, String.toList_ofList, noObject]
  rfl

/-! ## Reading any text -/

theorem isWord_of_readEntry? {piece : List Char} (unparted : ',' ∉ piece)
    {entry : String × Direction} (read : readEntry? piece = some entry) : IsWord entry.1 := by
  have first {column : List Char} {others : List (List Char)}
      (cut : words piece = column :: others) : IsWord (String.ofList column) := by
    obtain ⟨filled, inside⟩ := of_mem_words (cut ▸ List.mem_cons_self)
    refine ⟨?_, ?_, ?_⟩ <;> rw [String.toList_ofList]
    · exact filled
    · exact fun comma => unparted (inside ',' comma).1
    · exact fun c member => by simpa using (inside c member).2
  unfold readEntry? at read
  split at read
  · cases read
  · rename_i column cut
    cases read
    exact first cut
  · rename_i column direction others cut
    cases read
    exact first cut

/-- Whatever text an order is read from, its columns are words. -/
theorem ofWords_ofText (text : String) : (ofText text).OfWords := by
  intro column member
  rcases (Keyed.mem_keys_extend _ _ _).mp member with none | named
  · cases none
  · obtain ⟨entry, found, rfl⟩ := List.mem_map.mp named
    obtain ⟨piece, cut, read⟩ := List.mem_filterMap.mp found
    refine isWord_of_readEntry? (fun comma => ?_) read
    have kept := (mem_of_mem_splitOnP cut comma).2
    cases kept

/-- Order texts read back. An order that is written, with any blanks around the commas, comes back
with its columns in their order exactly if each of them is one word, and so it does where an object
is tried first. What is read from a text has distinct columns of this kind, so writing and reading
it again changes nothing. -/
theorem texts_read_back :
    (∀ (order : Order) (separators : Nat → Separator),
      (ofText (order.text separators) = order ↔ order.OfWords) ∧
        (read (order.text separators) = order ↔ order.OfWords)) ∧
    ∀ text : String, (ofText text).columns.keys.Nodup ∧ (ofText text).OfWords ∧
      ∀ separators : Nat → Separator,
        ofText ((ofText text).text separators) = ofText text ∧
          read ((ofText text).text separators) = ofText text := by
  have back (order : Order) (separators : Nat → Separator) :
      ofText (order.text separators) = order ↔ order.OfWords :=
    ⟨fun same => same ▸ ofWords_ofText _, fun ofWords => ofText_text ofWords separators⟩
  refine ⟨fun order separators => ⟨back order separators, ?_⟩, fun text => ?_⟩
  · rw [read_text]
    exact back order separators
  · refine ⟨(ofText text).columns.nodup_keys, ofWords_ofText text, fun separators => ?_⟩
    have again := ofText_text (ofWords_ofText text) separators
    exact ⟨again, (read_text _ separators).trans again⟩

/-- A column that is an object by itself, and an ideographic space behind the comma. -/
example : read "\x7b\"b\":1\x7d DESC,\u3000a ASC" =
    ⟨⟨[("\x7b\"b\":1\x7d", .descending), ("a", .ascending)], by decide⟩⟩ := by
  decide +kernel

end Order

end RelationQuery

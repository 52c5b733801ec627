import Mathlib.Data.List.Basic
import Mathlib.Data.List.TakeWhile
import RelationQuery.Json.Read
import RelationQuery.Proofs.Identifiers

/-!
# The ends of objects

Every reader of JSON takes the front of a text and leaves the rest. So a text that is an object ends
with its closing brace, and with no more than white space behind that.
-/

namespace RelationQuery.Json

open Sql (MadeOf)

theorem skipSpace_suffix (text : List Char) : skipSpace text <:+ text :=
  List.dropWhile_suffix isSpace

/-! ## Scalars -/

theorem suffix_of_readString? {text : List Char} {found : List Char × List Char}
    (read : readString? text = some found) : found.2 <:+ text := by
  fun_induction readString? text generalizing found with
  -- an open end, broken escapes and control characters
  | case1 | case3 | case5 | case7 | case8 | case10 => cases read
  | case2 rest =>
      cases read
      exact List.suffix_cons '"' rest
  | case4 a b c d rest code _ _ ih =>
      obtain ⟨inner, later, rfl⟩ := Option.map_eq_some_iff.mp read
      exact (ih later).trans (List.suffix_append ['\\', 'u', a, b, c, d] rest)
  | case6 a b c d code _ _ e f g h others pair _ ih =>
      obtain ⟨inner, later, rfl⟩ := Option.map_eq_some_iff.mp read
      exact (ih later).trans
        (List.suffix_append ['\\', 'u', a, b, c, d, '\\', 'u', e, f, g, h] others)
  | case9 c rest _ escaped _ ih =>
      obtain ⟨inner, later, rfl⟩ := Option.map_eq_some_iff.mp read
      exact (ih later).trans (List.suffix_append ['\\', c] rest)
  | case11 c rest _ _ _ _ ih =>
      obtain ⟨inner, later, rfl⟩ := Option.map_eq_some_iff.mp read
      exact (ih later).trans (List.suffix_cons c rest)

theorem splitSign_suffix (text : List Char) : (Binary.splitSign text).2 <:+ text := by
  unfold Binary.splitSign
  split
  · exact List.suffix_cons _ _
  · exact List.suffix_cons _ _
  · exact List.suffix_rfl

theorem afterDigits_suffix (text : List Char) : Binary.afterDigits text <:+ text :=
  List.dropWhile_suffix Char.isDigit

theorem suffix_of_readExponent? {negative : Bool} {number : Scaled} {text : List Char}
    {found : Number × List Char} (read : readExponent? negative number text = some found) :
    found.2 <:+ text := by
  cases text with
  | nil =>
      obtain ⟨x, -, rfl⟩ := Option.map_eq_some_iff.mp read
      exact List.suffix_rfl
  | cons c rest =>
      rw [readExponent?] at read
      split at read
      · dsimp only at read
        split at read
        · cases read
        · obtain ⟨n, -, rfl⟩ := Option.map_eq_some_iff.mp read
          exact ((afterDigits_suffix _).trans (splitSign_suffix rest)).trans (List.suffix_cons c rest)
      · obtain ⟨x, -, rfl⟩ := Option.map_eq_some_iff.mp read
        exact List.suffix_rfl

theorem suffix_of_readMagnitude? {negative : Bool} {text : List Char}
    {found : Number × List Char} (read : readMagnitude? negative text = some found) :
    found.2 <:+ text := by
  have cut := afterDigits_suffix text
  unfold readMagnitude? at read
  dsimp only at read
  split at read
  · cases read
  · split at read
    · obtain ⟨n, -, rfl⟩ := Option.map_eq_some_iff.mp read
      exact List.nil_suffix
    · rename_i c rest behind
      rw [behind] at cut
      split at read
      · split at read
        · cases read
        · have later := (suffix_of_readExponent? read).trans (afterDigits_suffix rest)
          exact (later.trans (List.suffix_cons c rest)).trans cut
      · split at read
        · exact (suffix_of_readExponent? read).trans cut
        · obtain ⟨n, -, rfl⟩ := Option.map_eq_some_iff.mp read
          exact cut

theorem suffix_of_readNumber? {text : List Char} {found : Number × List Char}
    (read : readNumber? text = some found) : found.2 <:+ text := by
  unfold readNumber? at read
  split at read
  · exact (suffix_of_readMagnitude? read).trans (List.suffix_cons _ _)
  · exact suffix_of_readMagnitude? read

theorem suffix_of_readScalar? {text : List Char} {found : Json × List Char}
    (read : readScalar? text = some found) : found.2 <:+ text := by
  unfold readScalar? at read
  split at read
  · rename_i rest
    cases read
    exact ⟨['n', 'u', 'l', 'l'], rfl⟩
  · cases read
    exact ⟨['t', 'r', 'u', 'e'], rfl⟩
  · cases read
    exact ⟨['f', 'a', 'l', 's', 'e'], rfl⟩
  · obtain ⟨inner, string, rfl⟩ := Option.map_eq_some_iff.mp read
    exact (suffix_of_readString? string).trans (List.suffix_cons _ _)
  · obtain ⟨inner, number, rfl⟩ := Option.map_eq_some_iff.mp read
    exact suffix_of_readNumber? number

/-! ## Items and members -/

section

variable {item : List Char → Option (Json × List Char)}
  (leaves : ∀ {text : List Char} {found : Json × List Char}, item text = some found →
    found.2 <:+ text)

include leaves

theorem suffix_of_spaced {text : List Char} {found : Json × List Char}
    (read : item (skipSpace text) = some found) : skipSpace found.2 <:+ text :=
  ((skipSpace_suffix found.2).trans (leaves read)).trans (skipSpace_suffix text)

theorem suffix_of_readItems? {fuel : Nat} {text : List Char} {found : List Json × List Char}
    (read : readItems? item fuel text = some found) : found.2 <:+ text := by
  induction fuel generalizing text found with
  | zero => cases read
  | succ fuel ih =>
      rw [readItems?] at read
      split at read
      · cases read
      · rename_i value rest first
        have behind := suffix_of_spaced leaves first
        split at read
        · rename_i tail next
          obtain ⟨later, items, rfl⟩ := Option.map_eq_some_iff.mp read
          rw [next] at behind
          exact ((ih items).trans (List.suffix_cons ',' tail)).trans behind
        · rename_i tail close
          cases read
          rw [close] at behind
          exact (List.suffix_cons ']' tail).trans behind
        · cases read

theorem suffix_of_readArray? {text : List Char} {found : List Json × List Char}
    (read : readArray? item text = some found) : found.2 <:+ text := by
  have opened := skipSpace_suffix text
  unfold readArray? at read
  split at read
  · rename_i rest close
    cases read
    rw [close] at opened
    exact (List.suffix_cons ']' rest).trans opened
  · exact (suffix_of_readItems? leaves read).trans opened

/-- Members end with a closing brace. -/
theorem suffix_of_readMembers? {fuel : Nat} {text : List Char}
    {found : List (String × Json) × List Char}
    (read : readMembers? item fuel text = some found) : '\x7d' :: found.2 <:+ text := by
  induction fuel generalizing text found with
  | zero => cases read
  | succ fuel ih =>
      have opened := skipSpace_suffix text
      rw [readMembers?] at read
      split at read
      · rename_i rest quote
        rw [quote] at opened
        split at read
        · cases read
        · rename_i key behindKey string
          -- the text shrinks behind the key, the colon, the value and what follows that
          have named : skipSpace behindKey <:+ text :=
            ((skipSpace_suffix behindKey).trans (suffix_of_readString? string)).trans
              ((List.suffix_cons '"' rest).trans opened)
          split at read
          · rename_i tail colon
            rw [colon] at named
            split at read
            · cases read
            · rename_i value behind first
              have valued := ((suffix_of_spaced leaves first).trans
                (List.suffix_cons ':' tail)).trans named
              split at read
              · rename_i others next
                obtain ⟨later, members, rfl⟩ := Option.map_eq_some_iff.mp read
                rw [next] at valued
                exact ((ih members).trans (List.suffix_cons ',' others)).trans valued
              · rename_i others close
                cases read
                rwa [close] at valued
              · cases read
          · cases read
      · cases read

theorem suffix_of_readObject? {text : List Char} {found : List (String × Json) × List Char}
    (read : readObject? item text = some found) : '\x7d' :: found.2 <:+ text := by
  have opened := skipSpace_suffix text
  unfold readObject? at read
  split at read
  · rename_i rest close
    cases read
    rwa [close] at opened
  · exact (suffix_of_readMembers? leaves read).trans opened

end

/-! ## Values and objects -/

/-- What is left behind a value is an end of its text. -/
theorem suffix_of_readValue? {depth : Nat} {text : List Char} {found : Json × List Char}
    (read : readValue? depth text = some found) : found.2 <:+ text := by
  induction depth generalizing text found with
  | zero =>
      unfold readValue? at read
      split at read
      · cases read
      · cases read
      · exact suffix_of_readScalar? read
  | succ depth ih =>
      unfold readValue? at read
      split at read
      · rename_i rest
        obtain ⟨items, array, rfl⟩ := Option.map_eq_some_iff.mp read
        exact (suffix_of_readArray? ih array).trans (List.suffix_cons '[' rest)
      · rename_i rest
        obtain ⟨members, object, rfl⟩ := Option.map_eq_some_iff.mp read
        have closed := (List.suffix_cons '\x7d' _).trans (suffix_of_readObject? ih object)
        exact closed.trans (List.suffix_cons '\x7b' rest)
      · exact suffix_of_readScalar? read

/-- A text that is an object ends with a closing brace and white space. -/
theorem ends_of_readKeyed? {text : List Char} {members : Keyed Json}
    (read : readKeyed? text = some members) :
    ∃ front spaces, text = front ++ '\x7d' :: spaces ∧ MadeOf isSpace spaces := by
  unfold readKeyed? at read
  split at read
  · rename_i rest begins
    split at read
    · rename_i found tail object
      split at read
      · rename_i last
        have opened : '\x7b' :: rest <:+ text := begins ▸ skipSpace_suffix text
        have closed : '\x7d' :: tail <:+ text :=
          ((suffix_of_readObject? suffix_of_readValue? object).trans
            (List.suffix_cons '\x7b' rest)).trans opened
        have spaces : MadeOf isSpace tail :=
          List.dropWhile_eq_nil_iff.mp (List.isEmpty_iff.mp last)
        obtain ⟨front, split⟩ := closed
        exact ⟨front, tail, split.symm, spaces⟩
      · cases read
    · cases read
  · cases read

/-- A text that ends otherwise is no object. -/
theorem readKeyed?_eq_none_of_getLast? {text : List Char} {last : Char}
    (ends : text.getLast? = some last) (other : last ≠ '\x7d') (solid : isSpace last = false) :
    readKeyed? text = none := by
  cases read : readKeyed? text with
  | none => rfl
  | some members =>
      obtain ⟨front, spaces, rfl, space⟩ := ends_of_readKeyed? read
      rw [List.getLast?_append_cons] at ends
      rcases List.mem_cons.mp (List.mem_of_getLast? ends) with brace | inside
      · exact absurd brace other
      · exact absurd inside (space.not_mem solid)

end RelationQuery.Json

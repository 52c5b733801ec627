import RelationQuery.Text.Digits

/-!
# UUIDs

A UUID is a word of 128 bits. It is written in lower-case hexadecimal digits in groups of 8, 4, 4, 4
and 12, and read in that form, without hyphens, in braces, or as a URN.
-/

namespace RelationQuery

structure Uuid where
  bits : BitVec 128
  deriving DecidableEq, Repr

namespace Uuid

def groupLengths : List Nat := [8, 4, 4, 4, 12]

def hexValue? (c : Char) : Option Nat :=
  if c.isDigit then some (c.toNat - '0'.toNat)
  else if 'a' ≤ c ∧ c ≤ 'f' then some (c.toNat - 'a'.toNat + 10)
  else if 'A' ≤ c ∧ c ≤ 'F' then some (c.toNat - 'A'.toNat + 10)
  else none

def hexDigits (count n : Nat) : List Char :=
  (List.range count).map fun i => Nat.digitChar (n / 16 ^ (count - 1 - i) % 16)

def hyphenated : List Nat → List Char → List Char
  | [], _ => []
  | [length], digits => digits.take length
  | length :: lengths, digits =>
      digits.take length ++ '-' :: hyphenated lengths (digits.drop length)

def text (uuid : Uuid) : List Char := hyphenated groupLengths (hexDigits 32 uuid.bits.toNat)

def wordOf? (digits : List Char) : Option Nat :=
  digits.foldlM (fun word c => (hexValue? c).map fun digit => word * 16 + digit) 0

def ofDigits? (digits : List Char) : Option Uuid :=
  if digits.length = 32 then (wordOf? digits).map fun word => ⟨BitVec.ofNat 128 word⟩ else none

def joined? : List Nat → List Char → Option (List Char)
  | [], _ => none
  | [length], text => if text.length = length then some text else none
  | length :: lengths, text =>
      match text.drop length with
      | '-' :: rest => (joined? lengths rest).map fun digits => text.take length ++ digits
      | _ => none

def ofHyphenated? (text : List Char) : Option Uuid :=
  (joined? groupLengths text).bind ofDigits?

/-- The UUID that a text names in one of the four forms. -/
def read? (text : List Char) : Option Uuid :=
  match text with
  | '\x7b' :: rest =>
      if rest.getLast? = some '\x7d' then ofHyphenated? rest.dropLast else none
  | 'u' :: 'r' :: 'n' :: ':' :: 'u' :: 'u' :: 'i' :: 'd' :: ':' :: rest => ofHyphenated? rest
  | _ => ofHyphenated? text <|> ofDigits? text

/-! ## Lower-case groups -/

def isLowerHex (c : Char) : Bool := c.isDigit || ('a' ≤ c && c ≤ 'f')

def cutGroups? : List Nat → List Char → Option (List Char × List Char)
  | [], text => some ([], text)
  | [length], text =>
      let group := text.take length
      if group.length = length ∧ group.all isLowerHex then some (group, text.drop length) else none
  | length :: lengths, text =>
      let group := text.take length
      if group.length = length ∧ group.all isLowerHex then
        match text.drop length with
        | '-' :: behind =>
            (cutGroups? lengths behind).map fun found => (group ++ '-' :: found.1, found.2)
        | _ => none
      else none

theorem length_cutGroups? {lengths : List Nat} {text : List Char} {found : List Char × List Char}
    (cut : cutGroups? lengths text = some found) : found.2.length ≤ text.length := by
  fun_induction cutGroups? lengths text generalizing found with
  | case1 text => cases cut; exact Nat.le_refl _
  | case2 => cases cut; simp
  | case3 => contradiction
  | case4 length _ text =>
      rename_i behind dropped ih
      obtain ⟨inner, read, rfl⟩ := Option.map_eq_some_iff.mp cut
      have shorter := ih read
      have whole : (text.drop length).length ≤ text.length := by simp
      rw [dropped, List.length_cons] at whole
      dsimp only
      omega
  | case5 => contradiction
  | case6 => contradiction

end Uuid

end RelationQuery

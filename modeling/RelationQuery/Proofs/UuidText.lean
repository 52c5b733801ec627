import RelationQuery.Proofs.Trimming
import RelationQuery.Uuid

/-!
# The text of UUIDs

The word that hexadecimal digits are has those digits, and groups with hyphens between them are
joined again, so a UUID is read back from its text.
-/

namespace RelationQuery.Uuid

/-! ## Hexadecimal digits -/

theorem hexValue?_digitChar : ∀ d < 16, hexValue? (Nat.digitChar d) = some d := by decide

theorem mem_hexDigits {count n : Nat} {c : Char} (member : c ∈ hexDigits count n) :
    ∃ d < 16, Nat.digitChar d = c := by
  obtain ⟨i, -, rfl⟩ := List.mem_map.mp member
  exact ⟨_, Nat.mod_lt _ (by decide), rfl⟩

theorem length_hexDigits (count n : Nat) : (hexDigits count n).length = count := by
  simp [hexDigits]

theorem hexDigits_succ (count n : Nat) :
    hexDigits (count + 1) n = Nat.digitChar (n / 16 ^ count % 16) :: hexDigits count n := by
  simp only [hexDigits, List.range_succ_eq_map, List.map_cons, List.map_map]
  congr 1
  apply List.map_congr_left
  intro i _
  simp [Nat.sub_sub, Nat.add_comm 1 i]

/-- Digits are appended to the word read so far. -/
theorem foldlM_hexDigits (count n word : Nat) :
    (hexDigits count n).foldlM
        (fun word c => (hexValue? c).map fun digit => word * 16 + digit) word =
      some (word * 16 ^ count + n % 16 ^ count) := by
  induction count generalizing word with
  | zero => simp [hexDigits, Nat.mod_one]
  | succ count ih =>
      have digit := hexValue?_digitChar _ (Nat.mod_lt (n / 16 ^ count) (by decide : 16 > 0))
      have split : n % 16 ^ (count + 1) = n % 16 ^ count + 16 ^ count * (n / 16 ^ count % 16) :=
        Nat.mod_mul
      rw [hexDigits_succ, List.foldlM_cons, digit, split]
      simp only [Option.map_some, Option.bind_eq_bind, Option.bind_some, ih, Option.some.injEq]
      have shifted : word * 16 * 16 ^ count = word * 16 ^ (count + 1) := by
        rw [Nat.mul_assoc, Nat.pow_succ']
      rw [Nat.add_mul, shifted, Nat.mul_comm (n / 16 ^ count % 16)]
      omega

theorem wordOf?_hexDigits (count n : Nat) : wordOf? (hexDigits count n) = some (n % 16 ^ count) := by
  rw [wordOf?, foldlM_hexDigits]
  simp

/-! ## Groups -/

/-- Groups with hyphens between them are joined. -/
theorem joined?_hyphenated {lengths : List Nat} {digits : List Char} (filled : lengths ≠ [])
    (count : digits.length = lengths.foldr (· + ·) 0) :
    joined? lengths (hyphenated lengths digits) = some digits := by
  fun_induction hyphenated lengths digits with
  | case1 => contradiction
  | case2 length digits =>
      have sized : digits.length = length := count
      have whole : digits.take length = digits := List.take_of_length_le (Nat.le_of_eq sized)
      rw [joined?, whole, if_pos sized]
  | case3 length lengths digits others ih =>
      rw [List.foldr_cons] at count
      have full : (digits.take length).length = length := by
        rw [List.length_take]
        omega
      have behind (text : List Char) : (digits.take length ++ text).drop length = text :=
        List.drop_left' full
      have front (text : List Char) : (digits.take length ++ text).take length =
          digits.take length := List.take_left' full
      have rest : (digits.drop length).length = lengths.foldr (· + ·) 0 := by
        rw [List.length_drop]
        omega
      rw [joined?, behind, front]
      · simp only [ih others rest, Option.map_some, List.take_append_drop]
      · exact others

theorem mem_hyphenated {lengths : List Nat} {digits : List Char} {c : Char}
    (member : c ∈ hyphenated lengths digits) : c = '-' ∨ c ∈ digits := by
  fun_induction hyphenated lengths digits with
  | case1 => cases member
  | case2 length digits => exact .inr (List.mem_of_mem_take member)
  | case3 length lengths digits _ ih =>
      rcases List.mem_append.mp member with group | behind
      · exact .inr (List.mem_of_mem_take group)
      · rcases List.mem_cons.mp behind with hyphen | later
        · exact .inl hyphen
        · exact (ih later).imp_right List.mem_of_mem_drop

/-! ## Reading back -/

/-- The characters of the text of a UUID: digits and hyphens. -/
theorem mem_text {id : Uuid} {c : Char} (member : c ∈ id.text) :
    c = '-' ∨ ∃ d < 16, Nat.digitChar d = c :=
  (mem_hyphenated member).imp_right mem_hexDigits

theorem trim_text (id : Uuid) : Text.trim id.text = id.text := by
  apply Text.trim_of_solid
  intro c member
  obtain rfl | ⟨d, small, rfl⟩ := mem_text member
  · rfl
  · have solid : ∀ d < 16, Text.isBlank (Nat.digitChar d) = false := by decide
    simp [solid d small]

/-- A text without a brace and without the letter of a URN is read with or without hyphens. -/
theorem read?_plain {text : List Char} (brace : '\x7b' ∉ text) (urn : 'u' ∉ text) :
    read? text = (ofHyphenated? text <|> ofDigits? text) := by
  unfold read?
  split
  · simp at brace
  · simp at urn
  · rfl

/-- A UUID is read back from its text. -/
theorem read?_text (id : Uuid) : read? id.text = some id := by
  have other (c : Char) (refused : (∀ d < 16, Nat.digitChar d ≠ c) ∧ c ≠ '-') : c ∉ id.text := by
    intro member
    obtain same | ⟨d, small, same⟩ := mem_text member
    · exact refused.2 same
    · exact refused.1 d small same
  have joined : ofHyphenated? id.text = some id := by
    have small : id.bits.toNat % 16 ^ 32 = id.bits.toNat := Nat.mod_eq_of_lt id.bits.isLt
    rw [ofHyphenated?, text, joined?_hyphenated (by decide) (length_hexDigits 32 _)]
    simp only [Option.bind_some, ofDigits?, length_hexDigits, if_true, wordOf?_hexDigits, small,
      Option.map_some, BitVec.ofNat_toNat, BitVec.setWidth_eq]
  rw [read?_plain (other _ (by decide)) (other _ (by decide)), joined]
  rfl

/-! ## Lower-case groups -/

open Sql (MadeOf)

theorem exists_hexValue? {c : Char} (hex : isLowerHex c = true) :
    ∃ digit, hexValue? c = some digit := by
  unfold hexValue?
  split
  · exact ⟨_, rfl⟩
  · rename_i other
    have letter : 'a' ≤ c ∧ c ≤ 'f' := by simpa [isLowerHex, other] using hex
    rw [if_pos letter]
    exact ⟨_, rfl⟩

theorem exists_wordOf? {digits : List Char} (made : MadeOf isLowerHex digits) (start : Nat) :
    ∃ word, digits.foldlM
      (fun word c => (hexValue? c).map fun digit => word * 16 + digit) start = some word := by
  induction digits generalizing start with
  | nil => exact ⟨start, rfl⟩
  | cons c rest ih =>
      obtain ⟨hex, made⟩ := List.forall_mem_cons.mp made
      obtain ⟨digit, value⟩ := exists_hexValue? hex
      obtain ⟨word, read⟩ := ih made (start * 16 + digit)
      refine ⟨word, ?_⟩
      rw [List.foldlM_cons, value]
      exact read

/-- Groups of lower-case digits that make up a text are joined. -/
theorem joined?_of_cutGroups? {lengths : List Nat} {text found : List Char} (filled : lengths ≠ [])
    (cut : cutGroups? lengths text = some (found, [])) :
    ∃ digits, joined? lengths text = some digits ∧ MadeOf isLowerHex digits ∧
      digits.length = lengths.foldr (· + ·) 0 ∧ ∀ c ∈ text, c = '-' ∨ isLowerHex c = true := by
  fun_induction cutGroups? lengths text generalizing found with
  | case1 => exact absurd rfl filled
  | case2 length text group =>
      rename_i whole
      have behind : text.drop length = [] := (Prod.mk.inj (Option.some.inj cut)).2
      have all : group = text := by
        have split := List.take_append_drop length text
        rwa [behind, List.append_nil] at split
      rw [all] at whole
      have made : MadeOf isLowerHex text := List.all_eq_true.mp whole.2
      refine ⟨text, ?_, made, ?_, fun c member => .inr (made c member)⟩
      · rw [joined?, if_pos whole.1]
      · exact whole.1
  | case3 => contradiction
  | case4 length lengths text others group whole behind dropped =>
      rename_i ih
      obtain ⟨⟨inner, rest⟩, cutRest, same⟩ := Option.map_eq_some_iff.mp cut
      cases same
      obtain ⟨digits, joined, made, count, marks⟩ := ih (fun empty => others empty) cutRest
      have front : MadeOf isLowerHex group := List.all_eq_true.mp whole.2
      refine ⟨group ++ digits, ?_, List.forall_mem_append.mpr ⟨front, made⟩, ?_, ?_⟩
      · rw [joined?, dropped]
        · simp only [joined, Option.map_some]
          rfl
        · exact others
      · rw [List.length_append, List.foldr_cons, whole.1, count]
      · rw [← List.take_append_drop length text, dropped]
        intro c member
        rcases List.mem_append.mp member with early | late
        · exact .inr (front c early)
        · exact (List.mem_cons.mp late).elim .inl (marks c)
  | case5 => contradiction
  | case6 => contradiction

/-- A text of lower-case groups is read. -/
theorem exists_read? {text found : List Char} (cut : cutGroups? groupLengths text = some (found, [])) :
    ∃ id, read? text = some id := by
  obtain ⟨digits, joined, made, count, marks⟩ := joined?_of_cutGroups? (by decide) cut
  have other (c : Char) (refused : c ≠ '-' ∧ isLowerHex c = false) : c ∉ text := fun member => by
    rcases marks c member with same | hex
    · exact refused.1 same
    · rw [refused.2] at hex
      cases hex
  obtain ⟨word, value⟩ := exists_wordOf? made 0
  have long : digits.length = 32 := count
  refine ⟨⟨BitVec.ofNat 128 word⟩, ?_⟩
  rw [read?_plain (other _ (by decide)) (other _ (by decide)), ofHyphenated?, joined,
    Option.bind_some, ofDigits?, if_pos long, wordOf?, value]
  rfl

end RelationQuery.Uuid

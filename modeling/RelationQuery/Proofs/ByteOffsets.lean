import RelationQuery.Proofs.TermCuts

/-!
# Offsets in bytes

Texts are kept in UTF-8, and a text is divided at offsets counted in bytes. An offset is a boundary
where it lies between two characters. Keys, numbers and UUIDs are made of characters of one byte, so
their characters and their bytes are equally many.
-/

namespace RelationQuery.Search

open Sql (MadeOf)

def byteSize (text : List Char) : Nat := (String.ofList text).utf8ByteSize

/-- The offset lies between two characters of the text, or at one of its ends. -/
def IsBoundary (text : List Char) (offset : Nat) : Prop :=
  String.Pos.Raw.IsValid (String.ofList text) ⟨offset⟩

theorem isBoundary_iff {text : List Char} {offset : Nat} :
    IsBoundary text offset ↔ ∃ front back, text = front ++ back ∧ offset = byteSize front := by
  unfold IsBoundary
  rw [String.Pos.Raw.isValid_iff_exists_append]
  constructor
  · rintro ⟨front, back, whole, place⟩
    refine ⟨front.toList, back.toList, ?_, ?_⟩
    · rw [← String.toList_append, ← whole, String.toList_ofList]
    · rw [byteSize, String.ofList_toList]
      exact congrArg String.Pos.Raw.byteIdx place
  · rintro ⟨front, back, rfl, rfl⟩
    exact ⟨String.ofList front, String.ofList back, String.ofList_append, rfl⟩

theorem isBoundary_byteSize (front back : List Char) :
    IsBoundary (front ++ back) (byteSize front) :=
  isBoundary_iff.mpr ⟨front, back, rfl, rfl⟩

@[simp] theorem byteSize_append (front back : List Char) :
    byteSize (front ++ back) = byteSize front + byteSize back := by
  unfold byteSize
  rw [String.ofList_append, String.utf8ByteSize_append]

theorem byteSize_cons (c : Char) (rest : List Char) :
    byteSize (c :: rest) = c.utf8Size + byteSize rest := by
  unfold byteSize
  rw [String.ofList_cons, String.utf8ByteSize_append, String.utf8ByteSize_singleton]

/-- Behind a front, an offset of the back is counted on from the bytes of the front. -/
theorem IsBoundary.behind {back : List Char} {offset : Nat} (within : IsBoundary back offset)
    (front : List Char) : IsBoundary (front ++ back) (byteSize front + offset) := by
  obtain ⟨start, rest, rfl, rfl⟩ := isBoundary_iff.mp within
  rw [← byteSize_append, ← List.append_assoc]
  exact isBoundary_byteSize _ _

/-! ## Characters of one byte -/

def isAscii (c : Char) : Bool := c.toNat ≤ 127

theorem byteSize_of_ascii {text : List Char} (ascii : MadeOf isAscii text) :
    byteSize text = text.length := by
  induction text with
  | nil => rfl
  | cons c rest ih =>
      have small : c.toNat ≤ 127 := of_decide_eq_true (ascii c List.mem_cons_self)
      have one : c.utf8Size = 1 :=
        Char.utf8Size_eq_one_iff.mpr (UInt32.le_iff_toNat_le.mpr small)
      rw [byteSize_cons, one, ih fun d member => ascii d (List.mem_cons_of_mem c member),
        List.length_cons, Nat.add_comm]

theorem ascii_of_keyChars {text : List Char} (key : MadeOf isKeyChar text) :
    MadeOf isAscii text := by
  intro c member
  have bounds := bounds_of_keyChar (key c member)
  exact decide_eq_true (by omega)

theorem ascii_takeWhile_digit (text : List Char) :
    MadeOf isAscii (text.takeWhile Char.isDigit) := by
  intro c member
  have bounds := Sql.bounds_of_digit (List.all_eq_true.mp List.all_takeWhile c member)
  exact decide_eq_true (by omega)

theorem ascii_cutNumber? {text : List Char} {found : List Char × List Char}
    (cut : cutNumber? text = some found) : MadeOf isAscii found.1 := by
  have whole := ascii_takeWhile_digit text
  unfold cutNumber? at cut
  dsimp only at cut
  split at cut
  · cases cut
  · split at cut
    · rename_i tail point
      split at cut
      · cases cut
        exact whole
      · cases cut
        exact Sql.madeOf_append whole (Sql.madeOf_cons (by decide) (ascii_takeWhile_digit tail))
    · cases cut
      exact whole

theorem ascii_of_lowerHex {text : List Char} (hex : text.all Uuid.isLowerHex = true) :
    MadeOf isAscii text := by
  intro c member
  have bounds := bounds_of_lowerHex (List.all_eq_true.mp hex c member)
  exact decide_eq_true (by omega)

theorem ascii_cutGroups? {lengths : List Nat} {text : List Char}
    {found : List Char × List Char} (cut : Uuid.cutGroups? lengths text = some found) :
    MadeOf isAscii found.1 := by
  fun_induction Uuid.cutGroups? lengths text generalizing found with
  | case1 text =>
      cases cut
      exact List.forall_mem_nil _
  | case2 =>
      rename_i whole
      cases cut
      exact ascii_of_lowerHex whole.2
  | case3 => cases cut
  | case4 length _ text =>
      rename_i whole behind dropped ih
      obtain ⟨inner, read, rfl⟩ := Option.map_eq_some_iff.mp cut
      exact Sql.madeOf_append (ascii_of_lowerHex whole.2) (Sql.madeOf_cons (by decide) (ih read))
  | case5 => cases cut
  | case6 => cases cut

theorem length_cutGroups?_fst {lengths : List Nat} {text : List Char}
    {found : List Char × List Char} (cut : Uuid.cutGroups? lengths text = some found) :
    found.1.length = lengths.foldr (· + ·) 0 + (lengths.length - 1) := by
  fun_induction Uuid.cutGroups? lengths text generalizing found with
  | case1 text => cases cut; rfl
  | case2 =>
      rename_i whole
      cases cut
      simpa using whole.1
  | case3 => cases cut
  | case4 length lengths text more =>
      rename_i whole behind dropped ih
      obtain ⟨inner, read, rfl⟩ := Option.map_eq_some_iff.mp cut
      have later := ih read
      have some : 0 < lengths.length := List.length_pos_iff.mpr more
      simp only [List.length_append, List.length_cons, List.foldr_cons, whole.1, later]
      omega
  | case5 => cases cut
  | case6 => cases cut

end RelationQuery.Search

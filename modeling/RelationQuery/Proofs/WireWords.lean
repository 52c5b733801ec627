import RelationQuery.Wire.Bytes

/-!
# Words and their bytes

Bytes are the word of the number that they are, unsigned or in two's complement, so a number in
range survives its word and a word is read back from the front of a longer message.
-/

namespace RelationQuery.Wire

/-! ## Numbers without a sign -/

/-- As many bytes that are the same number are the same bytes. -/
theorem ofBigEndian_injective {bytes others : List UInt8} (long : bytes.length = others.length)
    (same : ofBigEndian bytes = ofBigEndian others) : bytes = others := by
  induction bytes generalizing others with
  | nil => exact (List.length_eq_zero_iff.mp long.symm).symm
  | cons byte rest ih =>
      obtain _ | ⟨other, behind⟩ := others
      · contradiction
      have longRest : rest.length = behind.length := by simpa using long
      have small := ofBigEndian_lt rest
      have smallBehind := ofBigEndian_lt behind
      rw [ofBigEndian, ofBigEndian, longRest] at same
      rw [longRest] at small
      have first : byte.toNat = other.toNat := by
        have leading := congrArg (· / 256 ^ behind.length) same
        have positive : 0 < 256 ^ behind.length := Nat.pow_pos (by decide)
        simpa [Nat.mul_comm _ (256 ^ behind.length), Nat.mul_add_div positive,
          Nat.div_eq_of_lt small, Nat.div_eq_of_lt smallBehind] using leading
      rw [first] at same
      rw [UInt8.toNat_inj.mp first, ih longRest (Nat.add_left_cancel same)]

/-- Bytes are the word of the number that they are. -/
theorem bigEndian_ofBigEndian (bytes : List UInt8) :
    bigEndian bytes.length (ofBigEndian bytes) = bytes := by
  apply ofBigEndian_injective
  · exact length_bigEndian _ _
  · rw [ofBigEndian_bigEndian, Nat.mod_eq_of_lt (ofBigEndian_lt bytes)]

/-! ## Two's complement -/

/-- The number of words, as an integer. -/
theorem wordCount (count : Nat) : ((256 ^ count : Nat) : Int) = 256 ^ count :=
  Int.natCast_pow 256 count

/-- Half of the integers of a word are negative. -/
theorem ofSignedBytes_range (bytes : List UInt8) :
    -256 ^ bytes.length ≤ 2 * ofSignedBytes bytes ∧ 2 * ofSignedBytes bytes < 256 ^ bytes.length := by
  have positive : 0 < 256 ^ bytes.length := Nat.pow_pos (by decide)
  have low := @Int.le_bmod (ofBigEndian bytes) _ positive
  have high := @Int.bmod_lt (ofBigEndian bytes) _ positive
  rw [wordCount] at low high
  unfold ofSignedBytes
  omega

/-- Bytes are the word of the integer that they are. -/
theorem signedBytes_ofSignedBytes (bytes : List UInt8) :
    signedBytes bytes.length (ofSignedBytes bytes) = bytes := by
  have wrapped : ofSignedBytes bytes % 256 ^ bytes.length = ofBigEndian bytes := by
    rw [← wordCount, ofSignedBytes, Int.bmod_emod]
    exact_mod_cast Nat.mod_eq_of_lt (ofBigEndian_lt bytes)
  rw [signedBytes, wrapped, Int.toNat_natCast, bigEndian_ofBigEndian]

/-- A number in the lower half of a word is the integer of its bytes. -/
theorem ofSignedBytes_bigEndian {count n : Nat} (small : 2 * n < 256 ^ count) :
    ofSignedBytes (bigEndian count n) = n := by
  rw [ofSignedBytes, ofBigEndian_bigEndian, length_bigEndian, Nat.mod_eq_of_lt (by omega)]
  apply Int.bmod_eq_of_le <;> omega

/-! ## Words in front of a message -/

theorem cutWord?_append {count : Nat} {front : List UInt8} (long : front.length = count)
    (rest : List UInt8) : cutWord? count (front ++ rest) = some (ofBigEndian front, rest) := by
  simp [cutWord?, ← long]

theorem cutSigned?_append {count : Nat} {front : List UInt8} (long : front.length = count)
    (rest : List UInt8) : cutSigned? count (front ++ rest) = some (ofSignedBytes front, rest) := by
  simp [cutSigned?, ← long]

/-- A word is cut from bytes that have it in front. -/
theorem append_of_cutSigned? {count : Nat} {bytes rest : List UInt8} {n : Int}
    (cut : cutSigned? count bytes = some (n, rest)) :
    ∃ front : List UInt8, front.length = count ∧ ofSignedBytes front = n ∧ bytes = front ++ rest := by
  unfold cutSigned? at cut
  split at cut
  next enough =>
    obtain ⟨rfl, rfl⟩ := Prod.mk.inj (Option.some.inj cut)
    exact ⟨_, List.length_take_of_le enough, rfl, (List.take_append_drop _ _).symm⟩
  · contradiction

end RelationQuery.Wire

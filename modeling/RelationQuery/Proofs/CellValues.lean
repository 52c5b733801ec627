import RelationQuery.Proofs.WireWords
import RelationQuery.Wire.Cell
import RelationQuery.Wire.Parameter

/-!
# The values of cells

A cell of a type whose values can be sent back has one of a few forms, each with its value. The
value as a parameter of that type takes the same form again: the bytes are those of the cell, except
that a truth value is written with its bit alone.
-/

namespace RelationQuery.Wire

/-! ## Scalar cells -/

def reversibleScalars : List ScalarType :=
  [.bool, .int2, .int4, .int8, .text, .varchar, .bpchar, .name, .bytea, .uuid, .timestamptz,
    .timestamp, .date]

def textTypes : List ScalarType := [.text, .varchar, .bpchar, .name]

def momentTypes : List ScalarType := [.timestamptz, .timestamp]

inductive CellOf : ScalarType → List UInt8 → Value → Prop where
  | bool (byte : UInt8) : CellOf .bool [byte] (.bool (byte ≠ 0))
  | int2 {bytes : List UInt8} (long : bytes.length = 2) :
      CellOf .int2 bytes (.int16 (.ofInt (ofSignedBytes bytes)))
  | int4 {bytes : List UInt8} (long : bytes.length = 4) :
      CellOf .int4 bytes (.int32 (.ofInt (ofSignedBytes bytes)))
  | int8 {bytes : List UInt8} (long : bytes.length = 8) :
      CellOf .int8 bytes (.int64 (.ofInt (ofSignedBytes bytes)))
  | text {type : ScalarType} {bytes : List UInt8} {s : String} (textual : type ∈ textTypes)
      (read : Text.Utf8.decode? bytes = some s) : CellOf type bytes (.text s)
  | bytea (bytes : List UInt8) : CellOf .bytea bytes (.bytes bytes)
  | uuid {bytes : List UInt8} (long : bytes.length = 16) :
      CellOf .uuid bytes (.uuid ⟨BitVec.ofNat 128 (ofBigEndian bytes)⟩)
  | moment {type : ScalarType} {bytes : List UInt8} {moment : Timestamp}
      (timed : type ∈ momentTypes) (long : bytes.length = 8)
      (read : ofEpochMicros? (ofSignedBytes bytes) = some moment) :
      CellOf type bytes (.timestamp moment)
  | date {bytes : List UInt8} {day : Date} (long : bytes.length = 4)
      (read : ofEpochDays? (ofSignedBytes bytes) = some day) : CellOf .date bytes (.date day)

theorem exactly?_eq_some_iff {count : Nat} {bytes content : List UInt8} :
    exactly? count bytes = some content ↔ bytes.length = count ∧ content = bytes := by
  simp [exactly?, eq_comm]

theorem decodeInteger?_eq_some_iff {count : Nat} {bytes : List UInt8} {n : Int} :
    decodeInteger? count bytes = some n ↔ bytes.length = count ∧ ofSignedBytes bytes = n := by
  simp [decodeInteger?, exactly?_eq_some_iff, and_assoc]

theorem decodeTimestamp?_eq_some_iff {bytes : List UInt8} {moment : Timestamp} :
    decodeTimestamp? bytes = some moment ↔
      bytes.length = 8 ∧ ofEpochMicros? (ofSignedBytes bytes) = some moment := by
  simp [decodeTimestamp?, Option.bind_eq_some_iff, decodeInteger?_eq_some_iff, and_assoc]

theorem decodeDate?_eq_some_iff {bytes : List UInt8} {day : Date} :
    decodeDate? bytes = some day ↔
      bytes.length = 4 ∧ ofEpochDays? (ofSignedBytes bytes) = some day := by
  simp [decodeDate?, Option.bind_eq_some_iff, decodeInteger?_eq_some_iff, and_assoc]

/-- What is read from a cell is the value of its form. -/
theorem cellOf_of_read {type : ScalarType} {read? : List UInt8 → Option Value}
    {bytes : List UInt8} {value : Value} (listed : type ∈ reversibleScalars)
    (reader : scalarReader? type = some read?) (read : read? bytes = some value) :
    CellOf type bytes value := by
  cases type with
  | bool =>
      cases reader
      obtain ⟨b, decoded, rfl⟩ := Option.map_eq_some_iff.mp read
      unfold decodeBool? at decoded
      split at decoded
      next byte =>
        cases decoded
        exact .bool byte
      · contradiction
  | int2 | int4 | int8 =>
      cases reader
      obtain ⟨n, decoded, rfl⟩ := Option.map_eq_some_iff.mp read
      obtain ⟨long, rfl⟩ := decodeInteger?_eq_some_iff.mp decoded
      first | exact .int2 long | exact .int4 long | exact .int8 long
  | text | varchar | bpchar | name =>
      cases reader
      obtain ⟨s, decoded, rfl⟩ := Option.map_eq_some_iff.mp read
      exact .text (by decide) decoded
  | bytea =>
      cases reader
      cases read
      exact .bytea bytes
  | uuid =>
      cases reader
      obtain ⟨id, decoded, rfl⟩ := Option.map_eq_some_iff.mp read
      obtain ⟨content, exact, rfl⟩ := Option.map_eq_some_iff.mp decoded
      obtain ⟨long, rfl⟩ := exactly?_eq_some_iff.mp exact
      exact .uuid long
  | timestamptz | timestamp =>
      cases reader
      obtain ⟨moment, decoded, rfl⟩ := Option.map_eq_some_iff.mp read
      obtain ⟨long, found⟩ := decodeTimestamp?_eq_some_iff.mp decoded
      exact .moment (by decide) long found
  | date =>
      cases reader
      obtain ⟨day, decoded, rfl⟩ := Option.map_eq_some_iff.mp read
      obtain ⟨long, found⟩ := decodeDate?_eq_some_iff.mp decoded
      exact .date long found
  | float4 | float8 | numeric | json | jsonb => exact absurd listed (by decide)
  | other word number => contradiction

/-- The value of a form is read from its cell. -/
theorem CellOf.read {type : ScalarType} {read? : List UInt8 → Option Value}
    {bytes : List UInt8} {value : Value} (cell : CellOf type bytes value)
    (reader : scalarReader? type = some read?) : read? bytes = some value := by
  cases cell with
  | bool byte => cases reader; rfl
  | int2 long | int4 long | int8 long =>
      cases reader
      simp [decodeInteger?_eq_some_iff.mpr ⟨long, rfl⟩]
  | text textual read =>
      simp only [textTypes, List.mem_cons, List.not_mem_nil, or_false] at textual
      obtain rfl | rfl | rfl | rfl := textual <;> cases reader <;> simp [read]
  | bytea => cases reader; rfl
  | uuid long => cases reader; simp [decodeUuid?, exactly?_eq_some_iff.mpr ⟨long, rfl⟩]
  | moment timed long read =>
      have decoded := decodeTimestamp?_eq_some_iff.mpr ⟨long, read⟩
      simp only [momentTypes, List.mem_cons, List.not_mem_nil, or_false] at timed
      obtain rfl | rfl := timed <;> cases reader <;> simp [decoded]
  | date long read => cases reader; simp [decodeDate?_eq_some_iff.mpr ⟨long, read⟩]

theorem CellOf.not_null {type : ScalarType} {bytes : List UInt8} {value : Value}
    (cell : CellOf type bytes value) : value.isNull = false := by
  cases cell <;> rfl

/-! ## Values sent back -/

/-- An integer in range goes into its width. -/
theorem narrowed_of_range {count : Nat} {n : Int} (low : -2 ^ (8 * count - 1) ≤ n)
    (high : n < 2 ^ (8 * count - 1)) : narrowed count n = .ok n := by
  rw [narrowed, if_neg (Int.not_le.mpr high), if_neg (Int.not_lt.mpr low)]

/-- The integer of a word goes into the width of that word, and is written as the word. -/
theorem narrowed_word {bytes : List UInt8} {count : Nat} (long : bytes.length = count)
    (word : count = 2 ∨ count = 4) :
    (narrowed count (ofSignedBytes bytes) >>= fun n => pure (signedBytes count n)) = .ok bytes := by
  have range := ofSignedBytes_range bytes
  rw [long] at range
  have fits : narrowed count (ofSignedBytes bytes) = .ok (ofSignedBytes bytes) := by
    obtain rfl | rfl := word <;> exact narrowed_of_range (by omega) (by omega)
  rw [fits, ← long]
  exact congrArg Except.ok (signedBytes_ofSignedBytes bytes)

/-- A value other than a truth value becomes the bytes of its cell. -/
theorem CellOf.encoded_same {type : ScalarType} {bytes : List UInt8} {value : Value}
    (cell : CellOf type bytes value) (other : type ≠ .bool) :
    encodeScalar type value = .ok bytes := by
  have range := ofSignedBytes_range bytes
  cases cell with
  | bool byte => contradiction
  | int2 long =>
      rw [long] at range
      have back : (Int16.ofInt (ofSignedBytes bytes)).toInt = ofSignedBytes bytes :=
        Int16.toInt_ofInt_of_le (by omega) (by omega)
      change (narrowed 2 (Int16.ofInt _).toInt >>= fun n => pure (signedBytes 2 n)) = _
      rw [back, narrowed_word long (.inl rfl)]
  | int4 long =>
      rw [long] at range
      have back : (Int32.ofInt (ofSignedBytes bytes)).toInt = ofSignedBytes bytes :=
        Int32.toInt_ofInt_of_le (by omega) (by omega)
      change (narrowed 4 (Int32.ofInt _).toInt >>= fun n => pure (signedBytes 4 n)) = _
      rw [back, narrowed_word long (.inr rfl)]
  | int8 long =>
      rw [long] at range
      have back : (Int64.ofInt (ofSignedBytes bytes)).toInt = ofSignedBytes bytes :=
        Int64.toInt_ofInt_of_le (by omega) (by omega)
      change Except.ok (signedBytes 8 (Int64.ofInt _).toInt) = _
      rw [back, ← long, signedBytes_ofSignedBytes]
  | text textual read =>
      rw [← Text.Utf8.encode_of_decode? read]
      simp only [textTypes, List.mem_cons, List.not_mem_nil, or_false] at textual
      obtain rfl | rfl | rfl | rfl := textual <;> rfl
  | bytea => rfl
  | uuid long =>
      change Except.ok (bigEndian 16 (BitVec.ofNat 128 (ofBigEndian bytes)).toNat) = _
      have small : ofBigEndian bytes < 2 ^ 128 := by
        have bounded := ofBigEndian_lt bytes
        rwa [long] at bounded
      rw [BitVec.toNat_ofNat, Nat.mod_eq_of_lt small, ← long, bigEndian_ofBigEndian]
  | moment timed long read =>
      rename_i moment
      have sent : signedBytes 8 (epochMicros moment) = bytes := by
        rw [epochMicros_of_ofEpochMicros? read, ← long, signedBytes_ofSignedBytes]
      simp only [momentTypes, List.mem_cons, List.not_mem_nil, or_false] at timed
      obtain rfl | rfl := timed <;> exact congrArg Except.ok sent
  | date long read =>
      change Except.ok (signedBytes 4 (epochDays _)) = _
      rw [epochDays_of_ofEpochDays? read, ← long, signedBytes_ofSignedBytes]

/-- A truth value becomes one byte with its bit alone. -/
theorem encoded_bool (b : Bool) :
    ∃ byte : UInt8, encodeScalar .bool (.bool b) = .ok [byte] ∧ CellOf .bool [byte] (.bool b) := by
  cases b with
  | false => exact ⟨0, rfl, .bool 0⟩
  | true => exact ⟨1, rfl, .bool 1⟩

/-- The value of a cell becomes a cell of the same type and length with the same value. -/
theorem CellOf.encoded {type : ScalarType} {bytes : List UInt8} {value : Value}
    (cell : CellOf type bytes value) :
    ∃ written, encodeScalar type value = .ok written ∧ written.length = bytes.length ∧
      CellOf type written value := by
  by_cases truth : type = .bool
  · subst truth
    cases cell with
    | bool byte =>
        obtain ⟨written, sent, back⟩ := encoded_bool (byte ≠ 0)
        exact ⟨[written], sent, rfl, back⟩
    | text textual => exact absurd textual (by decide)
    | moment timed => exact absurd timed (by decide)
  · exact ⟨bytes, cell.encoded_same truth, rfl, cell⟩

end RelationQuery.Wire

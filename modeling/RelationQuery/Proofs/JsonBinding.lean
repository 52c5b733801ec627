import RelationQuery.Proofs.BoundCells
import RelationQuery.Proofs.JsonText
import RelationQuery.Proofs.MomentText
import RelationQuery.Proofs.UuidText

/-!
# Values sent out as JSON

A value that a column decodes loses its type in JSON, and the type of the column brings it back: the
document of the value, read from its text, is bound as the very bytes that the value itself is.
-/

namespace RelationQuery

/-- A moment or a day in the years from 0 to 9999, or any other value. -/
def Value.InFourDigits : Value → Prop
  | .timestamp moment => moment.date.civil.InFourDigits
  | .date day => day.civil.InFourDigits
  | _ => True

namespace Wire

/-! ## Scalar values -/

theorem int64_range_of_int16 (n : Int16) : -2 ^ 63 ≤ n.toInt ∧ n.toInt < 2 ^ 63 := by
  have low := n.le_toInt
  have high := n.toInt_lt
  omega

theorem int64_range_of_int32 (n : Int32) : -2 ^ 63 ≤ n.toInt ∧ n.toInt < 2 ^ 63 := by
  have low := n.le_toInt
  have high := n.toInt_lt
  omega

/-- What an integer is sent as depends on the integer alone. -/
theorem encodeScalar_of_integer {type : ScalarType} {value other : Value}
    (typed : type = .int2 ∨ type = .int4 ∨ type = .int8)
    (same : toInteger type value = toInteger type other) :
    encodeScalar type value = encodeScalar type other := by
  obtain rfl | rfl | rfl := typed <;> simp only [encodeScalar, same]

/-- A whole number of 64 bits comes back from JSON in the widest type, as the same integer. -/
theorem encoded_ofJson_whole {type : ScalarType} {value : Value} {n : Int}
    (typed : type = .int2 ∨ type = .int4 ∨ type = .int8)
    (document : value.toJson = .number (.whole n)) (integer : toInteger type value = .ok n)
    (range : -2 ^ 63 ≤ n ∧ n < 2 ^ 63) :
    encodeScalar type (.ofJson value.toJson) = encodeScalar type value := by
  have fits : (Json.Number.whole n).toInt64? = some (.ofInt n) := if_pos range.2
  have widest : Value.ofJson value.toJson = .int64 (.ofInt n) := by
    rw [document, Value.ofJson, fits]
  rw [widest]
  apply encodeScalar_of_integer typed
  rw [integer]
  exact congrArg Except.ok (Int64.toInt_ofInt_of_le range.1 range.2)

theorem toUuid_text (type : ScalarType) (id : Uuid) :
    toUuid type (.text (String.ofList id.text)) = .ok id := by
  rw [toUuid, String.toList_ofList, Uuid.trim_text, Uuid.read?_text]
  rfl

theorem toTimestamp_text (type : ScalarType) {moment : Timestamp}
    (plain : moment.date.civil.InFourDigits) :
    toTimestamp type (.text (String.ofList moment.text)) = .ok moment := by
  rw [toTimestamp, String.toList_ofList, Timestamp.read?_text plain]
  rfl

theorem toDate_text (type : ScalarType) {day : Date} (plain : day.civil.InFourDigits) :
    toDate type (.text (String.ofList day.text)) = .ok day := by
  rw [toDate, String.toList_ofList, Timestamp.read?_date plain, Option.map_some,
    Timestamp.date_ofDate]
  rfl

/-- The value of a cell comes back from JSON as a value with the same bytes. -/
theorem CellOf.encoded_ofJson {type : ScalarType} {bytes : List UInt8} {value : Value}
    (cell : CellOf type bytes value) (typed : type ≠ .bytea) (plain : value.InFourDigits) :
    encodeScalar type (.ofJson value.toJson) = encodeScalar type value := by
  cases cell with
  | bool byte => rfl
  | int2 long => exact encoded_ofJson_whole (.inl rfl) rfl rfl (int64_range_of_int16 _)
  | int4 long => exact encoded_ofJson_whole (.inr (.inl rfl)) rfl rfl (int64_range_of_int32 _)
  | int8 long =>
      exact encoded_ofJson_whole (.inr (.inr rfl)) rfl rfl ⟨Int64.le_toInt _, Int64.toInt_lt _⟩
  | text textual read => rw [Value.toJson, Value.ofJson]
  | bytea => contradiction
  | uuid long =>
      rw [Value.toJson, Value.textDocument, Value.ofJson]
      simp only [encodeScalar, toUuid_text]
      rfl
  | moment timed long read =>
      rename_i moment
      rw [Value.toJson, Value.textDocument, Value.ofJson]
      simp only [momentTypes, List.mem_cons, List.not_mem_nil, or_false] at timed
      obtain rfl | rfl := timed <;>
        simp only [encodeScalar, toTimestamp_text _ (show moment.date.civil.InFourDigits from plain)] <;>
        rfl
  | date long read =>
      rename_i day
      rw [Value.toJson, Value.textDocument, Value.ofJson]
      simp only [encodeScalar, toDate_text _ (show day.civil.InFourDigits from plain)]
      rfl

/-! ## Nullable values and arrays -/

theorem number_not_null (n : Json.Number) : (Value.ofJson (.number n)).isNull = false := by
  rw [Value.ofJson]
  split <;> rfl

theorem CellOf.ofJson_not_null {type : ScalarType} {bytes : List UInt8} {value : Value}
    (cell : CellOf type bytes value) : (Value.ofJson value.toJson).isNull = false := by
  cases cell with
  | int2 | int4 | int8 => exact number_not_null _
  | _ => rfl

theorem ElementOf.encoded_ofJson {type : ScalarType} {cell : Cell} {value : Value}
    (item : ElementOf type cell value) (typed : type ≠ .bytea) (plain : value.InFourDigits) :
    encodeNullable type (.ofJson value.toJson) = encodeNullable type value := by
  cases item with
  | absent => rfl
  | present cell =>
      rw [encodeNullable, encodeNullable, cell.ofJson_not_null, cell.not_null,
        cell.encoded_ofJson typed plain]

theorem ne_bytea_of_element {element : ScalarType} (listed : element ∈ arrayElements) :
    element ≠ .bytea := by
  rintro rfl
  exact absurd listed (by decide)

/-- Moments and days are no elements of arrays. -/
theorem ElementOf.inFourDigits {element : ScalarType} {cell : Cell} {value : Value}
    (item : ElementOf element cell value) (listed : element ∈ arrayElements) :
    value.InFourDigits := by
  cases item with
  | absent => trivial
  | present cell =>
      cases cell with
      | moment timed =>
          simp only [momentTypes, List.mem_cons, List.not_mem_nil, or_false] at timed
          obtain rfl | rfl := timed <;> exact absurd listed (by decide)
      | date => exact absurd listed (by decide)
      | _ => trivial

theorem elements_ofJson {element : ScalarType} {cells : List Cell} {items : List Value}
    (listed : element ∈ arrayElements) (read : List.Forall₂ (ElementOf element) cells items) :
    (Value.ofJsonItems (Value.toJsonItems items)).mapM (encodeNullable element) =
      items.mapM (encodeNullable element) := by
  induction read with
  | nil => rfl
  | cons item _ ih =>
      rw [Value.toJsonItems, Value.ofJsonItems, List.mapM_cons, List.mapM_cons, ih,
        item.encoded_ofJson (ne_bytea_of_element listed) (item.inFourDigits listed)]

/-- The value of a column comes back from JSON as a value with the same bytes. -/
theorem ColumnCellOf.bound_ofJson {type : ColumnType} {cell : Cell} {value : Value}
    (item : ColumnCellOf type cell value) (typed : type ≠ .scalar .bytea)
    (plain : value.InFourDigits) : bind type (.ofJson value.toJson) = bind type value := by
  cases item with
  | scalar listed item =>
      rw [bind_scalar, bind_scalar, item.encoded_ofJson (fun same => typed (same ▸ rfl)) plain]
  | absentArray listed => rfl
  | array listed cut read =>
      rename_i element bytes cells items
      have same := elements_ofJson listed read
      rw [Value.toJson, Value.ofJson, Wire.bind, Wire.bind, same]

/-! ## Documents -/

/-- A value whose JSON text is that of its document, which is plain. -/
structure SentPlain (depth : Nat) (value : Value) : Prop where
  text : value.jsonText = value.toJson.text
  plain : Json.Plain depth value.toJson

theorem CellOf.sentPlain {type : ScalarType} {bytes : List UInt8} {value : Value}
    (cell : CellOf type bytes value) (typed : type ≠ .bytea) (depth : Nat) :
    SentPlain depth value := by
  cases cell with
  | bool byte => exact ⟨rfl, .bool _⟩
  | int2 long =>
      obtain ⟨low, high⟩ := int64_range_of_int16 (.ofInt (ofSignedBytes bytes))
      exact ⟨rfl, .whole low (by omega)⟩
  | int4 long =>
      obtain ⟨low, high⟩ := int64_range_of_int32 (.ofInt (ofSignedBytes bytes))
      exact ⟨rfl, .whole low (by omega)⟩
  | int8 long =>
      have high := (Int64.ofInt (ofSignedBytes bytes)).toInt_lt
      exact ⟨rfl, .whole (Int64.le_toInt _) (by omega)⟩
  | bytea => contradiction
  | text | uuid | moment | date => exact ⟨rfl, .string _⟩

theorem ElementOf.sentPlain {type : ScalarType} {cell : Cell} {value : Value}
    (item : ElementOf type cell value) (typed : type ≠ .bytea) (depth : Nat) :
    SentPlain depth value := by
  cases item with
  | absent => exact ⟨rfl, .null⟩
  | present cell => exact cell.sentPlain typed depth

theorem jsonRest_eq_restText {depth : Nat} {items : List Value}
    (sent : ∀ item ∈ items, SentPlain depth item) :
    Value.jsonRest items = Json.restText (Value.toJsonItems items) := by
  induction items with
  | nil => rfl
  | cons item rest ih =>
      obtain ⟨first, later⟩ := List.forall_mem_cons.mp sent
      rw [Value.jsonRest, Value.toJsonItems, Json.restText, first.text, ih later]

/-- An array of plain values is one array deeper. -/
theorem sentPlain_array {depth : Nat} {items : List Value}
    (sent : ∀ item ∈ items, SentPlain depth item) : SentPlain (depth + 1) (.array items) where
  text := by
    cases items with
    | nil => rfl
    | cons item rest =>
        obtain ⟨first, later⟩ := List.forall_mem_cons.mp sent
        rw [Value.jsonText, Value.toJson, Value.toJsonItems, Json.text, first.text,
          jsonRest_eq_restText later]
  plain := by
    rw [Value.toJson, Value.toJsonItems_eq_map]
    refine .array fun document member => ?_
    obtain ⟨item, listed, rfl⟩ := List.mem_map.mp member
    exact (sent item listed).plain

theorem ColumnCellOf.sentPlain {type : ColumnType} {cell : Cell} {value : Value}
    (item : ColumnCellOf type cell value) (typed : type ≠ .scalar .bytea) (depth : Nat) :
    SentPlain (depth + 1) value := by
  cases item with
  | scalar listed item => exact item.sentPlain (fun same => typed (same ▸ rfl)) _
  | absentArray listed => exact ⟨rfl, .null⟩
  | array listed cut read =>
      have typed := ne_bytea_of_element listed
      apply sentPlain_array
      clear cut
      induction read with
      | nil => exact List.forall_mem_nil _
      | cons item _ ih => exact List.forall_mem_cons.mpr ⟨item.sentPlain typed depth, ih⟩

end Wire

open Wire

/-- A value sent out as JSON can be sent back: the document of a value that a column decodes is read
from its text, and is bound as the same bytes, or the same null, as the value. -/
theorem json_binds_alike {column : Column} {place : Nat} {cell : Cell} {value : Value}
    (listed : column.type ∈ reversibleTypes) (typed : column.type ≠ .scalar .bytea)
    (decoded : column.decode place cell = .ok value) (plain : value.InFourDigits) :
    Json.read? value.jsonText = some value.toJson ∧
      ∃ written, Wire.bind column.type value = .ok written ∧
        Wire.bind column.type (.ofJson value.toJson) = .ok written := by
  obtain ⟨read?, reader, read⟩ := Column.decode_eq_ok_iff.mp decoded
  have item := columnCellOf_of_read listed reader read
  have sent := item.sentPlain typed (Json.depthMax - 1)
  obtain ⟨written, bound, -⟩ := item.bound
  refine ⟨?_, written, bound, ?_⟩
  · rw [sent.text]
    exact sent.plain.read?_text
  · rw [item.bound_ofJson typed plain, bound]

def lastMicro : Timestamp := ⟨946684799, 999999000, by decide, by decide, by decide⟩

theorem decode_lastMicro :
    Column.decode ⟨"created_at", .scalar .timestamptz⟩ 0 (some (List.replicate 8 255)) =
      .ok (.timestamp lastMicro) := by
  have back : ofSignedBytes (List.replicate 8 255) = -1 := by decide +kernel
  have read : ofEpochMicros? (ofSignedBytes (List.replicate 8 255)) = some lastMicro := by
    rw [back]
    rfl
  have cell : CellOf .timestamptz (List.replicate 8 255) (.timestamp lastMicro) :=
    .moment (by decide) rfl read
  exact Column.decode_eq_ok_iff.mpr ⟨_, rfl, (ElementOf.present cell).read rfl⟩

/-- Minus one microsecond from the start of the year 2000 is written with six places, and is sent
back as minus one microsecond. -/
theorem lastMicro_binds_alike :
    Json.read? (Value.timestamp lastMicro).jsonText = some (Value.timestamp lastMicro).toJson ∧
      ∃ written, Wire.bind (.scalar .timestamptz) (.timestamp lastMicro) = .ok written ∧
        Wire.bind (.scalar .timestamptz) (.ofJson (Value.timestamp lastMicro).toJson) =
          .ok written :=
  json_binds_alike (by decide) (by decide) decode_lastMicro
    (show 0 ≤ lastMicro.date.civil.year ∧ lastMicro.date.civil.year ≤ 9999 by decide +kernel)

end RelationQuery

import RelationQuery.Proofs.ArrayCells
import RelationQuery.Row

/-!
# Binding undoes decoding

The value of a cell, bound as a parameter of the type of its column, is a cell with the same value
again, whether the cell is null, a scalar, or an array with or without absent elements.
-/

namespace RelationQuery

namespace Wire

def reversibleTypes : List ColumnType :=
  reversibleScalars.map .scalar ++ arrayElements.map .array

inductive ColumnCellOf : ColumnType → Cell → Value → Prop where
  | scalar {type : ScalarType} {cell : Cell} {value : Value} (listed : type ∈ reversibleScalars)
      (item : ElementOf type cell value) : ColumnCellOf (.scalar type) cell value
  | absentArray {element : ScalarType} (listed : element ∈ arrayElements) :
      ColumnCellOf (.array element) none .null
  | array {element : ScalarType} {bytes : List UInt8} {cells : List Cell} {items : List Value}
      (listed : element ∈ arrayElements) (cut : decodeArray? bytes = some cells)
      (read : List.Forall₂ (ElementOf element) cells items) :
      ColumnCellOf (.array element) (some bytes) (.array items)

/-- The elements of arrays are among the scalar types whose values can be sent back. -/
theorem reversible_of_element {element : ScalarType} (listed : element ∈ arrayElements) :
    element ∈ reversibleScalars := by
  simp only [arrayElements, List.mem_cons, List.not_mem_nil, or_false] at listed
  obtain rfl | rfl | rfl | rfl | rfl | rfl := listed <;> decide

/-- The reader of an array type reads the elements one by one. -/
theorem reader?_array {element : ScalarType} (listed : element ∈ arrayElements) :
    reader? (.array element) = (scalarReader? element).map readArray? := by
  rw [reader?, if_pos listed]

/-- What the reader of a type reads from a cell is the value of its form. -/
theorem columnCellOf_of_read {type : ColumnType} {read? : List UInt8 → Option Value} {cell : Cell}
    {value : Value} (listed : type ∈ reversibleTypes) (reader : reader? type = some read?)
    (read : readNullable? read? cell = some value) : ColumnCellOf type cell value := by
  obtain member | member := List.mem_append.mp listed
  · obtain ⟨scalar, reversible, rfl⟩ := List.mem_map.mp member
    exact .scalar reversible (elementOf_of_read reader reversible read)
  · obtain ⟨element, arrayed, rfl⟩ := List.mem_map.mp member
    rw [reader?_array arrayed] at reader
    obtain ⟨readElement?, elementReader, rfl⟩ := Option.map_eq_some_iff.mp reader
    cases cell with
    | none =>
        cases read
        exact .absentArray arrayed
    | some bytes =>
        obtain ⟨cells, cut, read⟩ := Option.bind_eq_some_iff.mp read
        obtain ⟨items, each, rfl⟩ := Option.map_eq_some_iff.mp read
        refine .array arrayed cut ((mapM_eq_some_iff_forall₂.mp each).imp ?_)
        exact fun _ _ => elementOf_of_read elementReader (reversible_of_element arrayed)

/-- The value of a form is read from its cell. -/
theorem ColumnCellOf.read {type : ColumnType} {read? : List UInt8 → Option Value} {cell : Cell}
    {value : Value} (item : ColumnCellOf type cell value) (reader : reader? type = some read?) :
    readNullable? read? cell = some value := by
  cases item with
  | scalar listed item => exact item.read reader
  | absentArray listed => rfl
  | array listed cut items =>
      rw [reader?_array listed] at reader
      obtain ⟨readElement?, elementReader, rfl⟩ := Option.map_eq_some_iff.mp reader
      have read := mapM_eq_some_iff_forall₂.mpr (items.imp fun _ _ item => item.read elementReader)
      simp [readNullable?, readArray?, cut, read]

/-- A value as a parameter of a scalar type is the value or null. -/
theorem bind_scalar (type : ScalarType) (value : Value) :
    bind (.scalar type) value = encodeNullable type value := by
  cases value <;> rfl

/-- The value of a cell is bound as a cell of the same type with the same value. -/
theorem ColumnCellOf.bound {type : ColumnType} {cell : Cell} {value : Value}
    (item : ColumnCellOf type cell value) :
    ∃ written, bind type value = .ok written ∧ ColumnCellOf type written value := by
  cases item with
  | scalar listed item =>
      obtain ⟨written, sent, -, back⟩ := item.encoded
      exact ⟨written, (bind_scalar _ _).trans sent, .scalar listed back⟩
  | absentArray listed => exact ⟨none, rfl, .absentArray listed⟩
  | array listed cut read =>
      rename_i element bytes cells items
      obtain ⟨few, short⟩ := short_of_decodeArray? cut
      obtain ⟨written, sent, fits, long, back⟩ := elements_encoded read short
      have whole := decodeArray?_encodeArray (long ▸ few) fits element 1
      refine ⟨some (encodeArray element 1 written), ?_, .array listed whole back⟩
      change (items.mapM (encodeNullable element) >>= fun cells =>
        pure (some (encodeArray element 1 cells))) = _
      rw [sent]
      rfl

end Wire

open Wire

/-- A column reads its cells with the reader of its type. -/
theorem Column.decode_eq_ok_iff {column : Column} {place : Nat} {cell : Cell} {value : Value} :
    column.decode place cell = .ok value ↔
      ∃ read?, reader? column.type = some read? ∧ readNullable? read? cell = some value := by
  rw [Column.decode]
  cases reader? column.type with
  | none => simp
  | some read? =>
      simp only [Option.some.injEq, exists_eq_left']
      cases readNullable? read? cell <;> simp

/-- Binding undoes decoding: the value that a column decodes from a cell, bound as a parameter of
the type of the column, is a cell from which the column decodes that value again. -/
theorem binding_undoes_decoding {column : Column} {place : Nat} {cell : Cell} {value : Value}
    (listed : column.type ∈ reversibleTypes) (decoded : column.decode place cell = .ok value) :
    ∃ written, Wire.bind column.type value = .ok written ∧
      ∀ there, column.decode there written = .ok value := by
  obtain ⟨read?, reader, read⟩ := Column.decode_eq_ok_iff.mp decoded
  obtain ⟨written, sent, back⟩ := (columnCellOf_of_read listed reader read).bound
  refine ⟨written, sent, fun there => ?_⟩
  exact Column.decode_eq_ok_iff.mpr ⟨read?, reader, back.read reader⟩

/-- A cell that holds a truth value written as seven, an absent one, and one written as zero,
counted from five. -/
def flagsCell : Cell :=
  some [0, 0, 0, 1, 0, 0, 0, 1, 0, 0, 0, 16, 0, 0, 0, 3, 0, 0, 0, 5,
    0, 0, 0, 1, 7, 255, 255, 255, 255, 0, 0, 0, 1, 0]

theorem flagsCell_bound :
    ∃ written, Wire.bind (.array .bool) (.array [.bool true, .null, .bool false]) = .ok written ∧
      ∀ there, Column.decode ⟨"flags", .array .bool⟩ there written =
        .ok (.array [.bool true, .null, .bool false]) := by
  have cut : flagsCell.bind decodeArray? = some [some [7], none, some [0]] := by decide +kernel
  have decoded : Column.decode ⟨"flags", .array .bool⟩ 0 flagsCell =
      .ok (.array [.bool true, .null, .bool false]) := by
    have reader : reader? (.array .bool) =
        some (readArray? fun bytes => (decodeBool? bytes).map .bool) := rfl
    refine Column.decode_eq_ok_iff.mpr ⟨_, reader, ?_⟩
    unfold flagsCell at cut ⊢
    rw [Option.bind_some] at cut
    rw [readNullable?, readArray?, cut]
    rfl
  exact binding_undoes_decoding (by decide) decoded

end RelationQuery

import RelationQuery.Proofs.BoundCells
import RelationQuery.Proofs.ObjectMembers
import RelationQuery.Proofs.StatementRuns

/-!
# Decoded rows

A row is decoded from the left, and the first column of an unsupported type or with a malformed cell
decides the failure. A row that is decoded has one entry for each name among its columns, where the
name first stands, with the value of the last column of that name. So no cell is lost exactly if the
names differ, and a column selected behind the identifier takes its place if it has its name.
-/

namespace RelationQuery

/-! ## Entries inserted in turn -/

namespace Keyed

variable {α : Type}

theorem extend_concat (keyed : Keyed α) (front : List (String × α)) (last : String × α) :
    keyed.extend (front ++ [last]) = (keyed.extend front).insert last.1 last.2 :=
  List.foldl_append

/-- Each key stands where it first came. -/
theorem keys_ofList (entries : List (String × α)) :
    (ofList entries).keys = (entries.map Prod.fst).eraseDups := by
  induction entries using List.reverseRecOn with
  | nil => rfl
  | append_singleton front last ih =>
      have known : last.1 ∈ (ofList front).keys ↔ last.1 ∈ front.map Prod.fst := by
        rw [ih, List.mem_eraseDups]
      unfold ofList at known ih ⊢
      rw [extend_concat, keys_insert, List.map_append, List.map_singleton,
        Sql.eraseDups_append_singleton, ih]
      simp only [ih] at known
      simp only [known]

/-- Each key has the value that came last. -/
theorem get?_ofList_eq_last (entries : List (String × α)) (key : String) :
    (ofList entries).get? key = entries.reverse.lookup key := by
  induction entries using List.reverseRecOn with
  | nil => rfl
  | append_singleton front last ih =>
      unfold ofList at ih ⊢
      rw [extend_concat, List.reverse_concat, List.lookup_cons]
      by_cases same : key = last.1
      · subst same
        rw [get?_insert_self, beq_self_eq_true]
      · rw [get?_insert_of_ne _ same, beq_eq_false_iff_ne.mpr same, ih]

/-- All entries are kept, one behind the other, exactly if their keys differ. -/
theorem entries_ofList_eq_self_iff {entries : List (String × α)} :
    (ofList entries).entries = entries ↔ (entries.map Prod.fst).Nodup := by
  refine ⟨fun same => ?_, fun distinct => entries_ofList distinct⟩
  have distinct := (ofList entries).distinct
  rwa [same] at distinct

end Keyed

/-! ## Cells -/

namespace Wire

def supportedTypes : List ColumnType := ScalarType.formed.map .scalar ++ arrayElements.map .array

inductive CellValue : ColumnType → Cell → Value → Prop where
  | absent {type : ColumnType} (supported : type ∈ supportedTypes) : CellValue type none .null
  | present {type : ColumnType} {read? : List UInt8 → Option Value} {bytes : List UInt8}
      {value : Value} (reader : reader? type = some read?) (read : read? bytes = some value) :
      CellValue type (some bytes) value

theorem exists_reader?_iff {type : ColumnType} :
    (∃ read?, reader? type = some read?) ↔ type ∈ supportedTypes := by
  have apart (items : List ScalarType) (type : ColumnType) (form : ScalarType → ColumnType)
      (other : ∀ item, form item ≠ type) : type ∉ items.map form := by
    simpa using fun item _ => other item
  rw [supportedTypes, List.mem_append, ← Option.isSome_iff_exists]
  cases type with
  | scalar type =>
      have noArray := apart arrayElements (.scalar type) .array fun _ => by simp
      rw [or_iff_left noArray, List.mem_map_of_injective fun _ _ same => by cases same; rfl]
      cases type <;> simp [reader?, scalarReader?, ScalarType.formed]
  | array element =>
      have noScalar := apart ScalarType.formed (.array element) .scalar fun _ => by simp
      rw [or_iff_right noScalar, List.mem_map_of_injective fun _ _ same => by cases same; rfl]
      by_cases listed : element ∈ arrayElements
      · rw [reader?_array listed]
        simp only [arrayElements, List.mem_cons, List.not_mem_nil, or_false] at listed
        obtain rfl | rfl | rfl | rfl | rfl | rfl := listed <;> decide
      · simp [reader?, listed]
  | vector element => simp [reader?]

end Wire

open Wire

/-- Why a cell is not decoded in a column at a place. A null does not help a column whose type is
not supported. -/
inductive Column.Refuses (column : Column) (place : Nat) : Cell → Cause → Prop where
  | unsupported (cell : Cell) (foreign : column.type ∉ supportedTypes) :
      Refuses column place cell (.unsupportedType column.type.name)
  | malformed {bytes : List UInt8} (supported : column.type ∈ supportedTypes)
      (broken : ∀ value, ¬CellValue column.type (some bytes) value) :
      Refuses column place (some bytes) (.database (.cell place))

section Cells

variable {column : Column} {place : Nat} {cell : Cell}

theorem Column.decode_of_cellValue {value : Value} (held : CellValue column.type cell value) :
    column.decode place cell = .ok value := by
  rw [Column.decode_eq_ok_iff]
  cases held with
  | absent supported =>
      obtain ⟨read?, reader⟩ := exists_reader?_iff.mpr supported
      exact ⟨read?, reader, rfl⟩
  | present reader read => exact ⟨_, reader, read⟩

theorem Column.decode_of_refuses {cause : Cause} (refused : column.Refuses place cell cause) :
    column.decode place cell = .error cause := by
  cases refused with
  | unsupported _ foreign =>
      rw [← exists_reader?_iff, ← Option.isSome_iff_exists, Option.not_isSome_iff_eq_none]
        at foreign
      rw [decode, foreign]
  | malformed supported broken =>
      rename_i bytes
      obtain ⟨read?, reader⟩ := exists_reader?_iff.mpr supported
      have unread : read? bytes = none :=
        Option.eq_none_iff_forall_ne_some.mpr fun value read => broken value (.present reader read)
      rw [decode, reader]
      simp only [readNullable?, unread]

/-- A cell that is refused has no value. -/
theorem Column.Refuses.elim {cause : Cause} (refused : column.Refuses place cell cause)
    (value : Value) : ¬CellValue column.type cell value := by
  intro held
  have decoded : column.decode place cell = .ok value := Column.decode_of_cellValue held
  rw [Column.decode_of_refuses refused] at decoded
  cases decoded

/-- A cell has a value in its column, or is refused there. -/
theorem Column.cellValue_or_refuses (column : Column) (place : Nat) (cell : Cell) :
    (∃ value, CellValue column.type cell value) ∨ ∃ cause, column.Refuses place cell cause := by
  by_cases supported : column.type ∈ supportedTypes
  · cases cell with
    | none => exact .inl ⟨.null, .absent supported⟩
    | some bytes =>
        by_cases held : ∃ value, CellValue column.type (some bytes) value
        · exact .inl held
        · exact .inr ⟨_, .malformed supported (not_exists.mp held)⟩
  · exact .inr ⟨_, .unsupported cell supported⟩

end Cells

/-! ## Rows -/

/-- The leftmost column that is refused, with the cause; the places are counted from `start`. -/
inductive Undecoded (start : Nat) : List (Column × Cell) → Cause → Prop where
  | leftmost {front behind : List (Column × Cell)} {column : Column} {cell : Cell} {cause : Cause}
      (before : ∀ item ∈ front, ∃ value, CellValue item.1.type item.2 value)
      (refused : column.Refuses (start + front.length) cell cause) :
      Undecoded start (front ++ (column, cell) :: behind) cause

theorem Undecoded.cons {start : Nat} {item : Column × Cell} {rest : List (Column × Cell)}
    {cause : Cause} {value : Value} (held : CellValue item.1.type item.2 value)
    (later : Undecoded (start + 1) rest cause) : Undecoded start (item :: rest) cause := by
  obtain ⟨before, refused⟩ := later
  rename_i front behind column cell
  refine leftmost (List.forall_mem_cons.mpr ⟨⟨value, held⟩, before⟩) ?_
  rwa [List.length_cons, Nat.add_comm front.length, ← Nat.add_assoc]

def namedCells (row : List (Column × Cell)) (values : List Value) : List (String × Value) :=
  (row.map (·.1.name)).zip values

/-- What decoding comes to: all cells have values, which are inserted in turn, or one is refused. -/
inductive RowOutcome (start : Nat) (into : Row) (row : List (Column × Cell)) :
    Except Cause Row → Prop where
  | decoded {values : List Value}
      (each : List.Forall₂ (fun item value => CellValue item.1.type item.2 value) row values) :
      RowOutcome start into row (.ok (into.extend (namedCells row values)))
  | undecoded {cause : Cause} (failed : Undecoded start row cause) :
      RowOutcome start into row (.error cause)

namespace Row

theorem outcome_decodeFrom (start : Nat) (into : Row) (row : List (Column × Cell)) :
    RowOutcome start into row (decodeFrom start into row) := by
  induction row generalizing start into with
  | nil => exact .decoded .nil
  | cons item rest ih =>
      obtain ⟨column, cell⟩ := item
      rw [decodeFrom]
      rcases column.cellValue_or_refuses start cell with ⟨value, held⟩ | ⟨cause, refused⟩
      · rw [Column.decode_of_cellValue held]
        have later := ih (start + 1) (into.insert column.name value)
        change RowOutcome start into _ (decodeFrom (start + 1) (into.insert column.name value) rest)
        generalize decodeFrom (start + 1) (into.insert column.name value) rest = outcome at later
        cases later with
        | decoded each => exact .decoded (.cons held each)
        | undecoded failed => exact .undecoded (failed.cons held)
      · rw [Column.decode_of_refuses refused]
        have failed : Undecoded start ([] ++ (column, cell) :: rest) cause :=
          .leftmost (List.forall_mem_nil _) refused
        exact .undecoded failed

theorem decodeFrom_of_undecoded {start : Nat} {row : List (Column × Cell)} {cause : Cause}
    (failed : Undecoded start row cause) (into : Row) :
    decodeFrom start into row = .error cause := by
  obtain ⟨before, refused⟩ := failed
  rename_i front behind column cell
  induction front generalizing start into with
  | nil =>
      rw [List.length_nil, Nat.add_zero] at refused
      rw [List.nil_append, decodeFrom, Column.decode_of_refuses refused]
      rfl
  | cons item rest ih =>
      obtain ⟨⟨value, held⟩, others⟩ := List.forall_mem_cons.mp before
      rw [List.length_cons, Nat.add_comm rest.length, ← Nat.add_assoc] at refused
      rw [List.cons_append, decodeFrom, Column.decode_of_cellValue held]
      exact ih _ others refused

end Row

/-! ## Values by name -/

/-- The last column of a name in a row, with its cell. -/
def LastNamed (row : List (Column × Cell)) (name : String) (item : Column × Cell) : Prop :=
  ∃ front behind, row = front ++ item :: behind ∧ item.1.name = name ∧
    name ∉ behind.map (·.1.name)

theorem lastNamed_nil {name : String} {item : Column × Cell} : ¬LastNamed [] name item := by
  rintro ⟨front, behind, split, -⟩
  cases front <;> cases split

theorem LastNamed.mem {row : List (Column × Cell)} {name : String} {item : Column × Cell}
    (last : LastNamed row name item) : name ∈ row.map (·.1.name) := by
  obtain ⟨front, behind, rfl, named, -⟩ := last
  rw [← named]
  exact List.mem_map_of_mem (List.mem_append_right _ List.mem_cons_self)

theorem lastNamed_cons_iff {row : List (Column × Cell)} {name : String}
    {first item : Column × Cell} : LastNamed (first :: row) name item ↔
      LastNamed row name item ∨
        item = first ∧ first.1.name = name ∧ name ∉ row.map (·.1.name) := by
  constructor
  · rintro ⟨front, behind, split, named, fresh⟩
    cases front with
    | nil =>
        cases split
        exact .inr ⟨rfl, named, fresh⟩
    | cons _ front =>
        cases split
        exact .inl ⟨front, behind, rfl, named, fresh⟩
  · rintro (⟨front, behind, rfl, named, fresh⟩ | ⟨rfl, named, fresh⟩)
    · exact ⟨first :: front, behind, rfl, named, fresh⟩
    · exact ⟨[], row, rfl, named, fresh⟩

/-- A name among the columns behind is theirs; any other is that of the columns in front. -/
theorem lastNamed_append_iff {front behind : List (Column × Cell)} {name : String}
    {item : Column × Cell} : LastNamed (front ++ behind) name item ↔
      LastNamed behind name item ∨
        LastNamed front name item ∧ name ∉ behind.map (·.1.name) := by
  induction front with
  | nil => simp [lastNamed_nil]
  | cons first front ih =>
      rw [List.cons_append, lastNamed_cons_iff, lastNamed_cons_iff, ih, List.map_append,
        List.mem_append, not_or]
      tauto

/-- Of two columns of different names each is the last of its own. -/
theorem lastNamed_pair_iff {first second own item : Column × Cell}
    (differ : first.1.name ≠ second.1.name) (member : own ∈ [first, second]) :
    LastNamed [first, second] own.1.name item ↔ item = own := by
  simp only [lastNamed_cons_iff, lastNamed_nil, false_or, List.map_cons, List.map_nil,
    List.mem_singleton, List.not_mem_nil, not_false_eq_true, and_true]
  rcases List.mem_pair.mp member with rfl | rfl
  · simp [differ, differ.symm]
  · simp [differ]

/-- Of two columns of different names at the front each has the value of the last column of its name
behind them, or its own where there is none. -/
theorem lastNamed_behind_pair_iff {first second own : Column × Cell} {extras : List (Column × Cell)}
    (differ : first.1.name ≠ second.1.name) (member : own ∈ [first, second]) {value : Value} :
    (∃ item, LastNamed (first :: second :: extras) own.1.name item ∧
      CellValue item.1.type item.2 value) ↔
    if own.1.name ∈ extras.map (·.1.name) then
      ∃ extra, LastNamed extras own.1.name extra ∧ CellValue extra.1.type extra.2 value
    else CellValue own.1.type own.2 value := by
  have last (item : Column × Cell) : LastNamed (first :: second :: extras) own.1.name item ↔
      LastNamed extras own.1.name item ∨ item = own ∧ own.1.name ∉ extras.map (·.1.name) := by
    change LastNamed ([first, second] ++ extras) own.1.name item ↔ _
    rw [lastNamed_append_iff, lastNamed_pair_iff differ member]
  simp only [last]
  split
  · rename_i replaced
    simp [replaced]
  · rename_i kept
    have none (item : Column × Cell) : ¬LastNamed extras own.1.name item :=
      fun found => kept found.mem
    simp [none, kept]

theorem Wire.CellValue.unique {type : ColumnType} {cell : Cell} {value other : Value}
    (held : CellValue type cell value) (held' : CellValue type cell other) : value = other := by
  cases held with
  | absent _ =>
      cases held'
      rfl
  | present reader read =>
      cases held' with
      | present reader' read' =>
          rw [reader] at reader'
          cases reader'
          exact Option.some.inj (read.symm.trans read')

theorem lookup_singleton_iff {α : Type} {key name : String} {v value : α} :
    [(key, v)].lookup name = some value ↔ name = key ∧ v = value := by
  rw [List.lookup_cons]
  by_cases same : name = key
  · simp [same]
  · simp [same, beq_eq_false_iff_ne.mpr same]

section Values

variable {row : List (Column × Cell)} {values : List Value}
  (each : List.Forall₂ (fun item value => CellValue item.1.type item.2 value) row values)

include each

theorem names_namedCells : (namedCells row values).map Prod.fst = row.map (·.1.name) := by
  apply List.map_fst_zip
  exact Nat.le_of_eq ((List.length_map _).trans each.length_eq)

theorem lookup_reverse_namedCells (name : String) (value : Value) :
    (namedCells row values).reverse.lookup name = some value ↔
      ∃ item, LastNamed row name item ∧ CellValue item.1.type item.2 value := by
  induction each with
  | nil => simp [namedCells, lastNamed_nil]
  | cons held rest ih =>
      rename_i first v row values
      have turned : (namedCells (first :: row) (v :: values)).reverse =
          (namedCells row values).reverse ++ [(first.1.name, v)] := List.reverse_cons
      have absent : first.1.name ∉ (namedCells row values).reverse.map Prod.fst ↔
          first.1.name ∉ row.map (·.1.name) := by
        rw [List.map_reverse, List.mem_reverse, names_namedCells rest]
      rw [turned, List.lookup_append, Option.or_eq_some_iff, ih, lookup_singleton_iff]
      simp only [lastNamed_cons_iff]
      constructor
      · rintro (⟨item, last, value⟩ | ⟨fresh, rfl, rfl⟩)
        · exact ⟨item, .inl last, value⟩
        · rw [lookup_eq_none_iff_not_mem, absent] at fresh
          exact ⟨first, .inr ⟨rfl, rfl, fresh⟩, held⟩
      · rintro ⟨item, last | ⟨rfl, rfl, fresh⟩, value⟩
        · exact .inl ⟨item, last, value⟩
        · rw [lookup_eq_none_iff_not_mem, absent]
          exact .inr ⟨fresh, rfl, held.unique value⟩

/-- One entry for each column, in the order of the columns, with its name and the value of its
cell. -/
def KeepsEachCell (row : List (Column × Cell)) (entries : List (String × Value)) : Prop :=
  List.Forall₂ (fun item entry => entry.1 = item.1.name ∧ CellValue item.1.type item.2 entry.2)
    row entries

theorem keepsEachCell_namedCells : KeepsEachCell row (namedCells row values) := by
  induction each with
  | nil => exact .nil
  | cons held rest ih => exact .cons ⟨rfl, held⟩ ih

omit each in
theorem KeepsEachCell.keys {entries : List (String × Value)} (keeps : KeepsEachCell row entries) :
    entries.map Prod.fst = row.map (·.1.name) := by
  induction keeps with
  | nil => rfl
  | cons held rest ih => rw [List.map_cons, List.map_cons, held.1, ih]

end Values

theorem Row.decode_row (row : List (Column × Cell)) :
    decode (row.map Prod.fst) (row.map Prod.snd) = decodeFrom 0 .empty row := by
  have paired : (row.map Prod.fst).zip (row.map Prod.snd) = row := by
    rw [List.zip_map']
    exact List.map_id row
  rw [decode, paired]

theorem Row.decode_eq_error_iff {row : List (Column × Cell)} {cause : Cause} :
    decode (row.map Prod.fst) (row.map Prod.snd) = .error cause ↔ Undecoded 0 row cause := by
  rw [decode_row]
  refine ⟨fun failed => ?_, fun failed => decodeFrom_of_undecoded failed .empty⟩
  have outcome := outcome_decodeFrom 0 .empty row
  rw [failed] at outcome
  cases outcome with
  | undecoded failed => exact failed

theorem Row.exists_of_decode {row : List (Column × Cell)} {decoded : Row}
    (read : decode (row.map Prod.fst) (row.map Prod.snd) = .ok decoded) : ∃ values,
      List.Forall₂ (fun item value => CellValue item.1.type item.2 value) row values ∧
        decoded = Keyed.ofList (namedCells row values) := by
  rw [decode_row] at read
  have outcome := outcome_decodeFrom 0 .empty row
  rw [read] at outcome
  cases outcome with
  | decoded each => exact ⟨_, each, rfl⟩

/-- What decoding keeps of a row. It succeeds exactly if each cell has a value in its column, and
fails otherwise for the leftmost column that is refused. What is decoded has one entry for each
name, in the order in which the names first stand, with the value of the last column of that name;
it keeps each cell if and only if the names differ. Behind an identifier and a time of creation,
these keep their values unless a column is selected that has their name. -/
theorem rows_keep_last_of_each_name (row : List (Column × Cell)) :
    ((∃ decoded, Row.decode (row.map Prod.fst) (row.map Prod.snd) = .ok decoded) ↔
      ∀ item ∈ row, ∃ value, CellValue item.1.type item.2 value) ∧
    (∀ cause, Row.decode (row.map Prod.fst) (row.map Prod.snd) = .error cause ↔
      Undecoded 0 row cause) ∧
    ∀ decoded, Row.decode (row.map Prod.fst) (row.map Prod.snd) = .ok decoded →
      decoded.keys = (row.map (·.1.name)).eraseDups ∧
      (∀ name value, decoded.get? name = some value ↔
        ∃ item, LastNamed row name item ∧ CellValue item.1.type item.2 value) ∧
      (KeepsEachCell row decoded.entries ↔ (row.map (·.1.name)).Nodup) ∧
      ∀ id creation extras, row = id :: creation :: extras →
        id.1.name = "id" → creation.1.name = "created_at" → ∀ own ∈ [id, creation], ∀ value,
          decoded.get? own.1.name = some value ↔
            if own.1.name ∈ extras.map (·.1.name) then
              ∃ extra, LastNamed extras own.1.name extra ∧
                CellValue extra.1.type extra.2 value
            else CellValue own.1.type own.2 value := by
  refine ⟨⟨fun ⟨decoded, read⟩ => ?_, fun all => ?_⟩, fun cause => Row.decode_eq_error_iff,
    fun decoded read => ?_⟩
  · obtain ⟨values, each, -⟩ := Row.exists_of_decode read
    exact fun item member => (exists_of_forall₂_right each.flip member).imp fun _ held => held.2
  · cases outcome : Row.decode (row.map Prod.fst) (row.map Prod.snd) with
    | ok decoded => exact ⟨decoded, rfl⟩
    | error cause =>
        obtain ⟨before, refused⟩ := Row.decode_eq_error_iff.mp outcome
        obtain ⟨value, held⟩ := all _ (List.mem_append_right _ List.mem_cons_self)
        exact absurd held (refused.elim value)
  · obtain ⟨values, each, rfl⟩ := Row.exists_of_decode read
    have found (name : String) (value : Value) :
        (Keyed.ofList (namedCells row values)).get? name = some value ↔
          ∃ item, LastNamed row name item ∧ CellValue item.1.type item.2 value := by
      rw [Keyed.get?_ofList_eq_last, lookup_reverse_namedCells each]
    refine ⟨?_, found, ⟨fun keeps => ?_, fun distinct => ?_⟩, ?_⟩
    · rw [Keyed.keys_ofList, names_namedCells each]
    · rw [← keeps.keys]
      exact Keyed.distinct _
    · rw [← names_namedCells each, ← Keyed.entries_ofList_eq_self_iff] at distinct
      rw [distinct]
      exact keepsEachCell_namedCells each
    · rintro id creation extras rfl identifies created own member value
      have differ : id.1.name ≠ creation.1.name := by simp [identifies, created]
      rw [found, ← lastNamed_behind_pair_iff differ member]

/-- A user with an order joined to it, whose identifier is selected as well. -/
def joinedRow : List (Column × Cell) :=
  [(⟨"id", .scalar .int8⟩, some [0, 0, 0, 0, 0, 0, 0, 1]),
    (⟨"created_at", .scalar .int8⟩, some [0, 0, 0, 0, 0, 0, 0, 5]),
    (⟨"id", .scalar .int8⟩, some [0, 0, 0, 0, 0, 0, 0, 2])]

/-- The row of three columns has two entries, and the order has given its identifier to the user. -/
theorem joined_id_replaces_own :
    ∃ decoded, Row.decode (joinedRow.map Prod.fst) (joinedRow.map Prod.snd) = .ok decoded ∧
      decoded.entries = [("id", .int64 2), ("created_at", .int64 5)] := by
  have later : Int64.ofInt (ofSignedBytes [0, 0, 0, 0, 0, 0, 0, 2]) = 2 := by decide
  have created : Int64.ofInt (ofSignedBytes [0, 0, 0, 0, 0, 0, 0, 5]) = 5 := by decide
  refine ⟨_, rfl, ?_⟩
  change [("id", Value.int64 (.ofInt (ofSignedBytes [0, 0, 0, 0, 0, 0, 0, 2]))),
    ("created_at", .int64 (.ofInt (ofSignedBytes [0, 0, 0, 0, 0, 0, 0, 5])))] = _
  rw [later, created]

end RelationQuery

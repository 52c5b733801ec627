import Mathlib.Data.List.DropRight
import RelationQuery.Proofs.PositionalParameters

/-!
# Protected columns and what an update writes

An update leaves out the columns spelled exactly like a protected one, and writes all others: each
once, in the order of the data, with its value at the number of its place. The text of a column is
not looked into, so a spelling that a server reads as a protected name is written like any other.
-/

namespace RelationQuery

/-! ## Numbers at the front of a statement -/

namespace Sql

theorem slots_append (front back : List Piece) :
    slots (front ++ back) = slots front ++ slots back :=
  List.filterMap_append

theorem slots_literal (text : String) : slots (literal text) = [] := by
  unfold slots literal
  rw [List.filterMap_map]
  exact List.filterMap_eq_nil_iff.mpr fun _ _ => rfl

theorem slots_separated (separator : String) (parts : List (List Piece)) :
    slots (separated separator parts) = parts.flatMap slots := by
  cases parts with
  | nil => rfl
  | cons part rest =>
      rw [separated_cons, slots_append, List.flatMap_cons]
      unfold slots
      rw [List.filterMap_flatMap]
      congr 1
      apply List.flatMap_congr
      intro other _
      change slots (literal separator ++ other) = slots other
      rw [slots_append, slots_literal, List.nil_append]

theorem textOf_separated (names : List String) (separator : String) (parts : List (List Piece)) :
    textOf names (separated separator parts) =
      separator.toList.intercalate (parts.map (textOf names)) := by
  unfold separated
  induction parts with
  | nil => rfl
  | cons part rest ih =>
      cases rest with
      | nil => simp
      | cons next others =>
          rw [List.intercalate_cons_cons, textOf_append, textOf_append, textOf_literal, ih]
          simp [List.intercalate_cons_cons]

theorem eraseDups_of_nodup {α : Type} [DecidableEq α] {items : List α} (distinct : items.Nodup) :
    items.eraseDups = items := by
  induction items using List.reverseRecOn with
  | nil => rfl
  | append_singleton front last ih =>
      obtain ⟨inner, _, apart⟩ := List.nodup_append.mp distinct
      have absent : last ∉ front := fun member => apart last member last (by simp) rfl
      rw [eraseDups_append_singleton, if_neg absent, ih inner]

/-- Distinct slots at the front of a statement are numbered first. -/
theorem slots_prefix_slotNames {front : List Piece} (distinct : (slots front).Nodup)
    (back : List Piece) : slots front <+: slotNames (front ++ back) := by
  have known : slotNames front = slots front := by
    rw [slotNames_eq, eraseDups_of_nodup distinct]
  rw [← fst_number, number_append, ← known, ← fst_number]
  exact prefix_number _ back

end Sql

/-! ## What an update writes -/

namespace Sql

/-- White space of a server, which separates words and is no part of them. -/
def isSpace (c : Char) : Bool := [' ', '\t', '\n', '\r', '\x0b', '\x0c'].contains c

/-- A name as a server reads it where it stands without quotation marks. -/
def unquoted (name : String) : String :=
  String.ofList (((name.toList.dropWhile isSpace).rdropWhile isSpace).map Char.toLower)

end Sql

/-- Columns as an update assigns them, each with the number of its place as its placeholder. -/
def assignmentTexts (written : List (String × Value)) : List String :=
  written.zipIdx.map fun (entry, place) => entry.1 ++ " = $" ++ toString (place + 1)

/-- What an update writes, read off its text and its values: the assignments stand in turn between
the relation and the conditions, and the first values are theirs. -/
structure Compiled.Assigns (compiled : Compiled) (relation : Sql.Relation)
    (written : List (String × Value)) : Prop where
  text : ∃ rest, compiled.sql = "UPDATE " ++ relation.qualified ++ " SET " ++
    ", ".intercalate (assignmentTexts written) ++ " WHERE TRUE" ++ rest
  values : compiled.params.take written.length = written.map Prod.snd

namespace PatchQuery

open Sql (Update literal separated slotNames slots textOf whereClause)

variable {query : PatchQuery} {predicates : List Predicate} {bindings : Bindings}

def setNames (query : PatchQuery) : List String := (namedValues query.assignments).map Prod.fst

theorem length_setNames (query : PatchQuery) : query.setNames.length = query.writable.length := by
  unfold setNames assignments
  rw [names_withNames, List.length_map, List.length_range']

theorem slots_head (query : PatchQuery) (predicates : List Predicate)
    (target : Option Sql.Relation) :
    slots (Update.head target (query.statement predicates)) = query.setNames := by
  have each (named : String × String × Value) :
      slots (literal named.1 ++ literal " = " ++ [.slot named.2.1]) = [named.2.1] := by
    rw [Sql.slots_append, Sql.slots_append, Sql.slots_literal, Sql.slots_literal]
    rfl
  have parts : (query.statement predicates).assignments.map (fun assignment =>
      literal assignment.1 ++ literal " = " ++ assignment.2.pieces target) =
      query.assignments.map fun named =>
        literal named.1 ++ literal " = " ++ [.slot named.2.1] := List.map_map
  unfold Update.head
  rw [Sql.slots_append, Sql.slots_append, Sql.slots_append, Sql.slots_literal, Sql.slots_literal,
    Sql.slots_literal, Sql.slots_separated, parts, List.flatMap_map]
  simp only [each, List.nil_append]
  unfold setNames namedValues
  rw [List.map_map, List.map_eq_flatMap]
  rfl

/-- The values that an update writes take the first numbers. -/
theorem setNames_prefix (query : PatchQuery) (predicates : List Predicate)
    (target : Option Sql.Relation) :
    query.setNames <+:
      slotNames ((Sql.Statement.update (query.statement predicates)).pieces target) := by
  rw [Sql.Statement.pieces_eq, List.append_assoc, ← slots_head query predicates target]
  apply Sql.slots_prefix_slotNames
  rw [slots_head]
  exact nodup_withNames .set query.writable

/-- The place of a written value is the place of its column among those that are written. -/
theorem idxOf_setNames {names : List String} (front : query.setNames <+: names) {place : Nat}
    (within : place < query.writable.length) :
    names.idxOf (generatedName .set (place + 1)) = place := by
  have named : query.setNames = (List.range' 1 query.writable.length).map (generatedName .set) :=
    names_withNames .set query.writable
  have inside : place < query.setNames.length := length_setNames query ▸ within
  have here : query.setNames[place] = generatedName .set (place + 1) := by
    simp [named, Nat.add_comm]
  rw [← here, Sql.idxOf_of_prefix front (List.getElem_mem _)]
  exact (nodup_withNames .set query.writable).idxOf_getElem place _

theorem textOf_head {names : List String} (front : query.setNames <+: names)
    (predicates : List Predicate) (target : Option Sql.Relation) :
    textOf names (Update.head target (query.statement predicates)) =
      ("UPDATE " ++ query.relation.qualified ++ " SET " ++
        ", ".intercalate (assignmentTexts query.writable)).toList := by
  have each : (query.statement predicates).assignments.map (fun assignment =>
      textOf names (literal assignment.1 ++ literal " = " ++ assignment.2.pieces target)) =
      (assignmentTexts query.writable).map String.toList := by
    unfold statement assignments withNames assignmentTexts
    rw [List.map_map, List.map_map, List.map_map]
    apply List.map_congr_left
    rintro ⟨entry, place⟩ member
    have within : place < query.writable.length := by
      simpa using List.snd_lt_of_mem_zipIdx member
    change textOf names (literal entry.1 ++ literal " = " ++
      [.slot (generatedName .set (place + 1))]) = (entry.1 ++ " = $" ++ toString (place + 1)).toList
    rw [Sql.textOf_append, Sql.textOf_append, Sql.textOf_literal, Sql.textOf_literal]
    simp only [Sql.textOf, List.flatMap_singleton, Sql.Piece.text, idxOf_setNames front within]
    simp [Sql.placeholder, String.toList_append]
  unfold Update.head
  rw [Sql.textOf_append, Sql.textOf_append, Sql.textOf_append, Sql.textOf_literal,
    Sql.textOf_literal, Sql.textOf_literal, Sql.textOf_separated, List.map_map, Function.comp_def,
    each, String.toList_append, String.toList_append, String.toList_append,
    String.toList_intercalate]
  rfl

/-- The values of the assigned names are those that are written, in order. -/
theorem map_valueOf_setNames (bound : query.bindings predicates = .ok bindings) :
    query.setNames.map bindings.valueOf = query.writable.map Prod.snd := by
  have held (named : String × String × Value) (member : named ∈ query.assignments) :
      bindings.valueOf named.2.1 = named.2.2 := valueOf_assignment bound member
  have values : query.assignments.map (fun named => named.2.2) = query.writable.map Prod.snd := by
    conv_rhs => rw [← List.zipIdx_map_fst 0 query.writable]
    unfold assignments withNames
    rw [List.map_map, List.map_map]
    rfl
  unfold setNames namedValues
  rw [List.map_map, List.map_map, ← values]
  exact List.map_congr_left held

theorem assigns_of_compile {compiled : Compiled} (made : query.compile = .ok (some compiled)) :
    compiled.Assigns query.relation query.writable := by
  obtain ⟨_, predicates, bindings, _, _, bound, rfl⟩ := compile_eq_ok made
  have sql := bindings.sql_compile (.update (query.statement predicates))
  have params := bindings.params_compile (.update (query.statement predicates))
  have front := setNames_prefix query predicates (some query.relation)
  change _ = textOf (slotNames ((Sql.Statement.update _).pieces (some query.relation)))
    ((Sql.Statement.update _).pieces (some query.relation)) at sql
  change _ = (slotNames ((Sql.Statement.update _).pieces (some query.relation))).map _ at params
  generalize slotNames _ = names at sql params front
  constructor
  · rw [Sql.Statement.pieces_eq] at sql
    change _ = textOf names (Update.head _ _ ++ whereClause _ _ ++ _) at sql
    unfold whereClause at sql
    rw [Sql.textOf_append, Sql.textOf_append, Sql.textOf_append, textOf_head front,
      Sql.textOf_literal, List.append_assoc, List.append_assoc] at sql
    generalize textOf names _ ++ textOf names _ = rest at sql
    refine ⟨String.ofList rest, String.toList_inj.mp (sql.trans ?_)⟩
    simp [String.toList_append]
  · obtain ⟨later, rfl⟩ := front
    rw [params, List.map_append, ← length_setNames, ← List.length_map bindings.valueOf,
      List.take_left', map_valueOf_setNames bound]
    rfl

theorem mem_writable {entry : String × Value} : entry ∈ query.writable ↔
    entry ∈ query.data.entries ∧ entry.1 ∉ protectedColumns := by
  unfold writable
  rw [List.mem_filter, Bool.not_eq_true', List.contains_eq_mem, decide_eq_false_iff_not]

/-- Nothing but a lack of columns makes an update none; all other refusals are failures. -/
theorem compile_eq_none_iff : query.compile = .ok none ↔ query.writable = [] := by
  rw [← List.isEmpty_iff]
  unfold compile
  cases empty : query.writable.isEmpty with
  | true => exact ⟨fun _ => rfl, fun _ => rfl⟩
  | false =>
      refine ⟨fun made => ?_, fun none => nomatch none⟩
      obtain ⟨predicates, _, made⟩ := bind_eq_ok.mp made
      cases free : query.id.isNone && predicates.isEmpty && !query.allowUnfiltered with
      | true =>
          rw [free] at made
          cases made
      | false =>
          rw [free] at made
          obtain ⟨bindings, _, made⟩ := bind_eq_ok.mp made
          cases made

/-- A protected name reads as it is spelled. -/
theorem unquoted_protected {column : String} (known : column ∈ protectedColumns) :
    Sql.unquoted column = column := by
  have each : ∀ name ∈ protectedColumns, Sql.unquoted name = name := by decide
  exact each column known

/-- An update is none exactly if all columns of its data are spelled like protected ones. Otherwise
it assigns the columns spelled in any other way, each once, in the order of the data and with its
own value. A column that a server reads as a protected one is among them exactly if it is spelled
in another way than it is read. -/
theorem protected_left_out_as_spelled (query : PatchQuery) :
    (query.compile = .ok none ↔ ∀ column ∈ query.data.keys, column ∈ protectedColumns) ∧
      ∀ compiled, query.compile = .ok (some compiled) → ∃ written,
        compiled.Assigns query.relation written ∧ written.Sublist query.data.entries ∧
        (written.map Prod.fst).Nodup ∧
        (∀ entry, entry ∈ written ↔ entry ∈ query.data.entries ∧ entry.1 ∉ protectedColumns) ∧
        ∀ entry ∈ query.data.entries, Sql.unquoted entry.1 ∈ protectedColumns →
          (entry ∈ written ↔ Sql.unquoted entry.1 ≠ entry.1) := by
  constructor
  · rw [compile_eq_none_iff, List.eq_nil_iff_forall_not_mem]
    simp only [mem_writable, not_and, not_not, Keyed.keys, List.forall_mem_map]
  · intro compiled made
    have front : query.writable.Sublist query.data.entries := List.filter_sublist
    refine ⟨query.writable, assigns_of_compile made, front, ?_, fun _ => mem_writable, ?_⟩
    · exact query.data.distinct.sublist (front.map Prod.fst)
    · intro entry member known
      rw [mem_writable, and_iff_right member, ne_eq, not_iff_not]
      exact ⟨unquoted_protected, fun same => same ▸ known⟩

/-- An update of a user by identifier that spells the identifier in capitals. -/
def capitalId : PatchQuery where
  relation := ⟨"app", "users"⟩
  id := some (.int64 1)
  data := .ofList [("ID", .int64 2)]

/-- The identifier of a row is written when its column is spelled in capitals. -/
theorem capitalId_assigns_id : Sql.unquoted "ID" = "id" ∧ "id" ∈ protectedColumns ∧
    capitalId.compile = .ok (some
      ⟨"UPDATE app.users SET ID = $1 WHERE TRUE AND app.users.id = $2", [.int64 2, .int64 1]⟩) :=
  ⟨by decide, by decide, rfl⟩

end PatchQuery

end RelationQuery

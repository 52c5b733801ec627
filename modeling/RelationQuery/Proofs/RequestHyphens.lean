import RelationQuery.Proofs.ColumnHyphens
import RelationQuery.Proofs.PositionalParameters
import RelationQuery.Proofs.RequestProvenance
import RelationQuery.Proofs.SearchKeys

/-!
# Hyphens of requests

Adjacent hyphens begin a comment. In the statement of a read whose own texts have no hyphen they
come from the keys of requests and of search texts alone, and stand there exactly when one of these
keys has adjacent hyphens behind its first hyphen.
-/

namespace RelationQuery

open Sql (Relation Piece Expr Sealed Unhyphened hyphen literal unhyphened_literal)

namespace GetQuery

/-! ## Keys -/

/-- The keys that stand for columns: of filter entries, of search terms and of the order. -/
def columnKeys (query : GetQuery) : List String :=
  query.filters.entries.keys ++ query.filters.terms.map (·.key) ++
    query.order.elim [] fun order => order.columns.keys

/-- No text of the read has a hyphen, its values and the keys of its columns apart. -/
structure PlainParts (query : GetQuery) : Prop where
  relation : query.relation.Unhyphened
  keys : ∀ key ∈ query.keys, '-' ∉ key.toList
  explicit : ∀ predicate ∈ query.filters.explicit, '-' ∉ predicate.template.toList
  joins : ∀ join ∈ query.joins, '-' ∉ join.source.toList ∧ '-' ∉ join.on.toList
  group : ∀ column ∈ query.group, '-' ∉ column.toList
  mapping : MapsToUnhyphened query.mapping

structure Unhyphened (query : GetQuery) : Prop extends query.PlainParts where
  entries : ∀ key ∈ query.filters.entries.keys, '-' ∉ key.toList
  search : ∀ text, query.filters.search = some text → '-' ∉ text.toList
  order : ∀ order, query.order = some order → ∀ column ∈ order.columns.keys, '-' ∉ column.toList

structure HyphensInKeys (query : GetQuery) : Prop extends query.PlainParts where
  columns : ∀ key ∈ query.columnKeys, KeepsHyphens key

end GetQuery

/-! ## Where the keys come from -/

theorem keepsHyphens_of_isRequestKey {key : String} (plain : isRequestKey key = true) :
    KeepsHyphens key := by
  refine .inr fun member => ?_
  obtain ⟨_, all⟩ := (Bool.and_eq_true _ _).mp plain
  cases List.all_eq_true.mp all '$' member

theorem keepsHyphens_of_keyChars {key : String}
    (spelled : Sql.MadeOf Search.isKeyChar key.toList) : KeepsHyphens key := by
  refine .inr fun member => ?_
  cases spelled '$' member

theorem FilterSet.keepsHyphens_terms (filters : FilterSet) :
    ∀ term ∈ filters.terms, KeepsHyphens term.key := by
  intro term member
  unfold terms at member
  split at member
  · cases member
  · exact keepsHyphens_of_keyChars (Search.keyChar_of_lex member)

/-- A request that is accepted has plain keys. -/
theorem Request.isRequestKey_of_ofQuery {parameters : Keyed Json} {request : Request}
    (accepted : Request.ofQuery parameters = .ok request) :
    ∀ key ∈ columnKeys request.filter request.order, isRequestKey key = true := by
  obtain ⟨filter, _, accepted⟩ := bind_eq_ok.mp accepted
  dsimp only at accepted
  split at accepted
  · cases accepted
  · rename_i none
    cases accepted
    simpa using none

namespace GetQuery

section Taken

variable {query : GetQuery} {request : Request}

theorem PlainParts.applyRequest (plain : query.PlainParts) (request : Request) :
    (query.applyRequest request).PlainParts :=
  ⟨plain.relation, plain.keys, plain.explicit, plain.joins, plain.group, plain.mapping⟩

/-- An entry is of the read, or has been asked for. -/
theorem mem_entries_applyRequest {key : String}
    (member : key ∈ (query.applyRequest request).filters.entries.keys) :
    key ∈ query.filters.entries.keys ∨ key ∈ request.filterKeys := by
  have known : key ∈ (query.call (.request request)).filters.entries.keys := member
  rcases query.mem_entries_call.mp known with own | given | ⟨_, same, asked⟩
  · exact .inl own
  · cases given
  · cases same
    exact .inr asked

/-- The order is of the read, or has been asked for. -/
theorem order_applyRequest {order : Order}
    (ordered : (query.applyRequest request).order = some order) :
    query.order = some order ∨ request.order = some order := by
  have known : (query.call (.request request)).order = some order := ordered
  rcases query.order_call_cases known with same | ⟨_, own | ⟨_, same, _, asked⟩⟩
  · cases same
  · exact .inl own
  · cases same
    exact .inr asked

/-- The keys that a request adds to a read without hyphens are those in which hyphens may stand. -/
theorem Unhyphened.applyRequest (unhyphened : query.Unhyphened) {parameters : Keyed Json}
    (accepted : Request.ofQuery parameters = .ok request) :
    (query.applyRequest request).HyphensInKeys where
  toPlainParts := unhyphened.toPlainParts.applyRequest request
  columns := by
    have plain {key : String} (member : key ∈ Request.columnKeys request.filter request.order) :
        KeepsHyphens key :=
      keepsHyphens_of_isRequestKey (Request.isRequestKey_of_ofQuery accepted key member)
    intro key member
    rcases List.mem_append.mp member with filtered | ordered
    · rcases List.mem_append.mp filtered with entry | term
      · rcases mem_entries_applyRequest entry with own | asked
        · exact .inl (unhyphened.entries key own)
        · exact plain (List.mem_append_left _ asked)
      · obtain ⟨found, isTerm, rfl⟩ := List.mem_map.mp term
        exact FilterSet.keepsHyphens_terms _ found isTerm
    · cases known : (query.applyRequest request).order with
      | none =>
          rw [known] at ordered
          cases ordered
      | some order =>
          rw [known] at ordered
          rcases order_applyRequest known with own | asked
          · exact .inl (unhyphened.order order own key ordered)
          · refine plain (List.mem_append_right _ ?_)
            rw [asked]
            exact ordered

end Taken

end GetQuery

/-- The columns of an order are those that its keys stand for. -/
theorem Order.mem_keys_mapped (order : Order) {mapping : Option KeyMapping} {column : String} :
    column ∈ (order.mapped mapping).columns.keys ↔
      ∃ key ∈ order.columns.keys, mapKey mapping key = column := by
  unfold Order.mapped Keyed.ofList
  rw [Keyed.mem_keys_extend, List.map_map]
  simp [Keyed.keys, Keyed.empty]

/-! ## Parts of a read -/

namespace GetQuery.HyphensInKeys

variable {query : GetQuery} (alone : query.HyphensInKeys)

include alone

theorem unhyphened_columns (predicates : List Predicate) :
    ∀ part ∈ (query.statement predicates).columns.map (·.pieces (some query.relation)),
      Sql.Unhyphened part := by
  intro part member
  obtain ⟨column, isColumn, rfl⟩ := List.mem_map.mp member
  rcases List.mem_append.mp isColumn with fixed | added
  · rcases List.mem_cons.mp fixed with rfl | later
    · exact (unhyphened_qualified alone.relation (by decide)).append List.not_mem_nil
    · rw [List.mem_singleton.mp later]
      exact (unhyphened_fragment alone.relation (by decide)).append
        ((unhyphened_literal (by decide)).append (unhyphened_literal (by decide)))
  · obtain ⟨key, isKey, rfl⟩ := List.mem_map.mp added
    exact (unhyphened_columnOrFragment alone.relation (alone.keys key isKey)).append
      List.not_mem_nil

theorem unhyphened_head (predicates : List Predicate) :
    Sql.Unhyphened (Sql.Select.head (some query.relation) (query.statement predicates)) := by
  have select : Sql.Unhyphened (literal "SELECT ") := unhyphened_literal (by decide)
  have columns := Unhyphened.separated (alone.unhyphened_columns predicates)
  have source : Sql.Unhyphened (literal " FROM " ++ literal query.relation.qualified) :=
    (unhyphened_literal (by decide)).append
      (unhyphened_literal (unhyphened_relation alone.relation))
  have joins : Sql.Unhyphened (query.joins.flatMap (·.pieces (some query.relation))) :=
    .flatMap fun join member =>
      unhyphened_join alone.relation (alone.joins join member).1 (alone.joins join member).2
  exact ((select.append columns).append source).append joins

/-- The conditions have adjacent hyphens where an entry or a term has a key that leaves them. -/
theorem sealed_where {predicates : List Predicate} (made : query.predicates = .ok predicates) :
    Sealed (Sql.whereClause (some query.relation) (query.statement predicates).conditions)
      (∃ key ∈ query.filters.entries.keys ++ query.filters.terms.map (·.key),
        LeavesHyphens query.mapping key) := by
  obtain ⟨ofEntries, ofTerms, rfl, parts⟩ := FilterSet.exists_made made
  have joining : Sql.Unhyphened (literal " AND ") := unhyphened_literal (by decide)
  have opening : Sql.Unhyphened (literal " WHERE TRUE") := unhyphened_literal (by decide)
  have onId : Sql.Unhyphened ((idConditions query.relation query.id).flatMap fun expr =>
      literal " AND " ++ expr.pieces (some query.relation)) :=
    .flatMap fun expr member =>
      joining.append (unhyphened_idConditions alone.relation query.id expr member)
  have explicit : Sql.Unhyphened (query.filters.explicit.flatMap fun predicate =>
      literal " AND " ++ predicate.condition.pieces (some query.relation)) :=
    .flatMap fun predicate member =>
      joining.append (unhyphened_condition alone.relation (alone.explicit predicate member))
  have entries := sealed_conditions (sealed_entryPredicate alone.relation) alone.mapping
    parts.entries fun entry isEntry => alone.columns entry.1 (by
      simp [columnKeys, Keyed.keys, List.mem_map_of_mem isEntry])
  have terms := sealed_conditions (sealed_termPredicate alone.relation) alone.mapping
    parts.terms fun term isTerm => alone.columns term.1 (by
      obtain ⟨found, isFound, rfl⟩ := List.mem_map.mp isTerm
      simp [columnKeys, List.mem_map_of_mem isFound])
  change Sealed (literal " WHERE TRUE" ++ (idConditions query.relation query.id ++
    (query.filters.explicit ++ (ofEntries ++ ofTerms)).map Predicate.condition).flatMap _) _
  rw [List.flatMap_append, List.flatMap_map, List.flatMap_append, List.flatMap_append]
  refine (opening.sealed.append (onId.sealed.append (explicit.sealed.append
    (entries.append terms)))).congr ?_
  simp [FilterSet.keyedTerms, Keyed.keys, or_and_right, exists_or]

omit alone in
theorem unhyphened_newestFirst {relation : Relation} (unhyphened : relation.Unhyphened) :
    Sql.Unhyphened (Sql.listClause " ORDER BY "
      ((newestFirst relation).map (·.pieces (some relation)))) := by
  refine .listClause (by decide) fun part member => ?_
  have direction : Sql.Unhyphened (literal " DESC") := by decide
  rw [List.mem_singleton.mp member]
  exact (unhyphened_qualified unhyphened (by decide)).append direction

/-- The terms of an order have adjacent hyphens where one of its keys leaves them. -/
theorem sealed_orderColumns {order : Order}
    (keeps : ∀ key ∈ order.columns.keys, KeepsHyphens key) :
    Sealed (Sql.listClause " ORDER BY " (((order.mapped query.mapping).columns.entries.map
        fun entry => Sql.OrderTerm.mk (columnOrFragment query.relation entry.1)
          (entry.2 == .descending)).map (·.pieces (some query.relation))))
      (∃ key ∈ order.columns.keys, LeavesHyphens query.mapping key) := by
  have each : List.Forall₂
      (fun (entry : String × Direction) part => Sealed part (Adjacent '-' entry.1.toList))
      (order.mapped query.mapping).columns.entries
      (((order.mapped query.mapping).columns.entries.map fun entry =>
        Sql.OrderTerm.mk (columnOrFragment query.relation entry.1)
          (entry.2 == .descending)).map (·.pieces (some query.relation))) := by
    rw [List.map_map, List.forall₂_map_right_iff, List.forall₂_same]
    intro entry isEntry
    obtain ⟨key, member, same⟩ := order.mem_keys_mapped.mp (List.mem_map_of_mem isEntry)
    refine sealed_orderTerm alone.relation ?_ _
    rw [← same]
    exact keepsHyphens_mapKey alone.mapping (keeps key member)
  refine (Sealed.listClause (by decide) each).congr ?_
  constructor
  · rintro ⟨entry, isEntry, inside⟩
    obtain ⟨key, member, same⟩ := order.mem_keys_mapped.mp (List.mem_map_of_mem isEntry)
    rw [← same, adjacent_mapKey alone.mapping] at inside
    exact ⟨key, member, inside⟩
  · rintro ⟨key, member, leaves⟩
    obtain ⟨entry, isEntry, same⟩ := List.mem_map.mp (order.mem_keys_mapped.mpr ⟨key, member, rfl⟩)
    refine ⟨entry, isEntry, ?_⟩
    rw [same, adjacent_mapKey alone.mapping]
    exact leaves

theorem sealed_orderBy :
    Sealed (Sql.listClause " ORDER BY " (query.orderTerms.map (·.pieces (some query.relation))))
      (∃ key ∈ query.order.elim [] fun order => order.columns.keys,
        LeavesHyphens query.mapping key) := by
  have newest := (unhyphened_newestFirst alone.relation).sealed
  unfold orderTerms
  cases given : query.order with
  | none => exact newest.congr (by simp)
  | some order =>
      have keeps : ∀ key ∈ order.columns.keys, KeepsHyphens key := by
        refine fun key member => alone.columns key (List.mem_append_right _ ?_)
        rw [given]
        exact member
      rw [Option.map_some, Option.filter_some]
      cases empty : (order.mapped query.mapping).isEmpty with
      | true =>
          -- Without columns there are no keys that could leave hyphens.
          refine newest.congr (iff_of_false not_false ?_)
          rintro ⟨key, member, _⟩
          have column : mapKey query.mapping key ∈ (order.mapped query.mapping).columns.keys :=
            order.mem_keys_mapped.mpr ⟨key, member, rfl⟩
          rw [Keyed.keys, List.isEmpty_iff.mp empty] at column
          cases column
      | false => exact alone.sealed_orderColumns keeps

theorem sealed_tail (predicates : List Predicate) :
    Sealed (Sql.Select.tail (some query.relation) (query.statement predicates))
      (∃ key ∈ query.order.elim [] fun order => order.columns.keys,
        LeavesHyphens query.mapping key) := by
  have group : Sql.Unhyphened (Sql.listClause " GROUP BY "
      ((query.group.map (columnOrFragment query.relation)).map
        (·.pieces (some query.relation)))) := by
    refine .listClause (by decide) fun part member => ?_
    obtain ⟨expr, isExpr, rfl⟩ := List.mem_map.mp member
    obtain ⟨column, isColumn, rfl⟩ := List.mem_map.mp isExpr
    exact unhyphened_columnOrFragment alone.relation (alone.group column isColumn)
  have limit : Sql.Unhyphened (literal " LIMIT " ++ [.slot "limit"]) := by decide
  have offset : Sql.Unhyphened (literal " OFFSET " ++ [.slot "offset"]) := by decide
  exact (((group.sealed.append alone.sealed_orderBy).append limit.sealed).append
    offset.sealed).congr (by simp)

theorem sealed_statement {predicates : List Predicate}
    (made : query.predicates = .ok predicates) :
    Sealed ((Sql.Statement.select (query.statement predicates)).pieces (some query.relation))
      (∃ key ∈ query.columnKeys, LeavesHyphens query.mapping key) := by
  rw [Sql.Statement.pieces_eq]
  refine (((alone.unhyphened_head predicates).sealed.append (alone.sealed_where made)).append
    (alone.sealed_tail predicates)).congr ?_
  unfold columnKeys
  simp only [List.mem_append, or_and_right, exists_or, false_or]

end GetQuery.HyphensInKeys

/-- In the statement of a read without hyphens that has taken a request, hyphens are adjacent
exactly when a key leaves them so. -/
theorem adjacent_hyphens_iff {query : GetQuery} (unhyphened : query.Unhyphened)
    {parameters : Keyed Json} {request : Request}
    (accepted : Request.ofQuery parameters = .ok request) {compiled : Compiled}
    (made : (query.applyRequest request).compile = .ok compiled) :
    Adjacent '-' compiled.sql.toList ↔
      ∃ key ∈ (query.applyRequest request).columnKeys, LeavesHyphens query.mapping key := by
  obtain ⟨predicates, bindings, known, _, rfl⟩ := GetQuery.compile_eq_ok made
  have alone := unhyphened.applyRequest accepted
  rw [bindings.sql_compile, Sql.adjacent_textOf]
  exact (alone.sealed_statement known).adjacent_iff

/-! ## A key that begins a comment -/

def dashedParameters : Keyed Json := .ofList [("order_by", .string "a---b")]

def allUsers : GetQuery := { relation := ⟨"app", "users"⟩ }

theorem unhyphened_allUsers : allUsers.Unhyphened where
  relation := ⟨by decide, by decide⟩
  keys _ member := nomatch member
  explicit _ member := nomatch member
  joins _ member := nomatch member
  group _ member := nomatch member
  mapping _ same := nomatch same
  entries _ member := nomatch member
  search _ same := nomatch same
  order _ same := nomatch same

def dashedText : String :=
  "SELECT app.users.id, FLOOR(EXTRACT(EPOCH FROM app.users.created_at))::BIGINT AS created_at" ++
    " FROM app.users WHERE TRUE ORDER BY a_" ++ "--" ++ "b ASC LIMIT $1 OFFSET $2"

theorem adjacent_dashedText : Adjacent '-' dashedText.toList := by
  unfold dashedText
  rw [String.toList_append, String.toList_append]
  exact ⟨_, _, rfl⟩

theorem exists_dashed : ∃ request compiled, Request.ofQuery dashedParameters = .ok request ∧
    (allUsers.applyRequest request).compile = .ok compiled ∧ compiled.sql = dashedText := by
  have run : ((Request.ofQuery dashedParameters).toOption.bind fun request =>
      (allUsers.applyRequest request).compile.toOption.map (·.sql)) = some dashedText := by
    decide +kernel
  obtain ⟨request, accepted, made⟩ := Option.bind_eq_some_iff.mp run
  obtain ⟨compiled, made, sql⟩ := Option.map_eq_some_iff.mp made
  exact ⟨request, compiled, eq_ok_of_toOption accepted, eq_ok_of_toOption made, sql⟩

/-- A request that is accepted can put a comment into a read whose own texts have no hyphen: here
the limit and the offset stand behind it. -/
theorem request_begins_comment :
    ¬ ∀ (query : GetQuery) (parameters : Keyed Json) (request : Request) (compiled : Compiled),
      query.Unhyphened → Request.ofQuery parameters = .ok request →
        (query.applyRequest request).compile = .ok compiled →
          ¬ Adjacent '-' compiled.sql.toList := by
  intro never
  obtain ⟨request, compiled, accepted, made, sql⟩ := exists_dashed
  refine never allUsers dashedParameters request compiled unhyphened_allUsers accepted made ?_
  rw [sql]
  exact adjacent_dashedText

/-- The comment is traced back to a key of the request. -/
theorem dashed_key_leaves_hyphens : ∃ request compiled, allUsers.Unhyphened ∧
    Request.ofQuery dashedParameters = .ok request ∧
    (allUsers.applyRequest request).compile = .ok compiled ∧
    ∃ key ∈ (allUsers.applyRequest request).columnKeys, LeavesHyphens allUsers.mapping key := by
  obtain ⟨request, compiled, accepted, made, sql⟩ := exists_dashed
  refine ⟨request, compiled, unhyphened_allUsers, accepted, made, ?_⟩
  rw [← adjacent_hyphens_iff unhyphened_allUsers accepted made, sql]
  exact adjacent_dashedText

end RelationQuery

import RelationQuery.Query.Basic
import RelationQuery.Query.Bindings

/-!
# Compiling queries

Every query becomes one statement and the values of its placeholders. No value is written into the
text of a statement; names of relations and columns are written as given.
-/

namespace RelationQuery

open Sql (Expr Relation)

def createdAtSeconds : String := "FLOOR(EXTRACT(EPOCH FROM $scheme.$table.created_at))::BIGINT"

def isColumnStart (c : Char) : Bool := c.isLower || c == '_'

def isPlainColumn (key : String) : Bool :=
  match key.toList with
  | [] => false
  | c :: rest => isColumnStart c && rest.all fun c => isColumnStart c || c.isDigit

/-- A plain name is a column of the relation, and everything else a fragment. -/
def columnOrFragment (relation : Relation) (key : String) : Expr :=
  if isPlainColumn key then .qualified relation key else .fragment key

def idCondition (relation : Relation) : Expr :=
  .equals (.qualified relation "id") (.param "id")

def idConditions (relation : Relation) (id : Option Value) : List Expr :=
  if id.isSome then [idCondition relation] else []

/-- A predicate in parentheses, which keep an alternative inside. -/
def Predicate.condition (predicate : Predicate) : Expr := .nested (.fragment predicate.template)

def idAndCreation (relation : Relation) : List Sql.SelectColumn :=
  [{ expr := .qualified relation "id" },
    { expr := .fragment createdAtSeconds, label := some "created_at" }]

def newestFirst (relation : Relation) : List Sql.OrderTerm :=
  [⟨.qualified relation "created_at", true⟩]

/-- The entries with a generated name for each of their values. -/
def withNames (family : NameFamily) (entries : List (String × Value)) :
    List (String × String × Value) :=
  entries.zipIdx.map fun (entry, place) => (entry.1, generatedName family (place + 1), entry.2)

def namedValues (entries : List (String × String × Value)) : List (String × Value) :=
  entries.map Prod.snd

namespace GetQuery

/-- Refuses a key of a request that is no plain identifier or not on the allow-list. -/
def checkRequestKey (query : GetQuery) (key : String) : Except Cause Unit :=
  if isRequestKey key then checkAllowed query.allowed key
  else .error (.malformedFilter (.requestKey key))

def predicates (query : GetQuery) : Except Cause (List Predicate) :=
  (query.filters.predicates query.mapping query.allowed {}).map Prod.fst

/-- The terms of the order; without an order the newest rows come first. -/
def orderTerms (query : GetQuery) : List Sql.OrderTerm :=
  match (query.order.map (·.mapped query.mapping)).filter (!·.isEmpty) with
  | none => newestFirst query.relation
  | some order => order.columns.entries.map fun entry =>
      ⟨columnOrFragment query.relation entry.1, entry.2 == .descending⟩

def statement (query : GetQuery) (predicates : List Predicate) : Sql.Select where
  columns := idAndCreation query.relation ++
    query.keys.map fun key => { expr := columnOrFragment query.relation key }
  source := some query.relation
  joins := query.joins
  conditions := idConditions query.relation query.id ++ predicates.map Predicate.condition
  groupBy := query.group.map (columnOrFragment query.relation)
  orderBy := query.orderTerms
  limit := some (.param "limit")
  offset := some (.param "offset")

def bindings (query : GetQuery) (predicates : List Predicate) : Except Cause Bindings := do
  let bindings ← Bindings.bindOptional .empty "id" query.id
  let bindings ← bindings.bindPredicates predicates
  let bindings ← bindings.bind "limit" (.int64 query.page.effectiveLimit)
  bindings.bind "offset" (.int64 query.page.effectiveOffset)

def compile (query : GetQuery) : Except Cause Compiled := do
  query.requestKeys.forM query.checkRequestKey
  let predicates ← query.predicates
  let bindings ← query.bindings predicates
  .ok (bindings.compile (.select (query.statement predicates)))

end GetQuery

namespace PatchQuery

def predicates (query : PatchQuery) : Except Cause (List Predicate) :=
  (query.filters.predicates query.mapping none {}).map Prod.fst

def assignments (query : PatchQuery) : List (String × String × Value) :=
  withNames .set query.writable

def statement (query : PatchQuery) (predicates : List Predicate) : Sql.Update where
  relation := query.relation
  assignments := query.assignments.map fun (column, name, _) => (column, .param name)
  conditions := idConditions query.relation query.id ++ predicates.map Predicate.condition
  returning := if query.returning then ["*"] else []

def bindings (query : PatchQuery) (predicates : List Predicate) : Except Cause Bindings := do
  let bindings ← Bindings.bindAll .empty (namedValues query.assignments)
  let bindings ← bindings.bindOptional "id" query.id
  bindings.bindPredicates predicates

/-- The update, or none when there is nothing to write. An update that nothing restricts has to be
allowed. -/
def compile (query : PatchQuery) : Except Cause (Option Compiled) := do
  if query.writable.isEmpty then return none
  let predicates ← query.predicates
  if query.id.isNone && predicates.isEmpty && !query.allowUnfiltered then
    throw .noFilterProvided
  let bindings ← query.bindings predicates
  return some (bindings.compile (.update (query.statement predicates)))

end PatchQuery

namespace DeleteQuery

def predicates (query : DeleteQuery) : Except Cause (List Predicate) :=
  (query.filters.predicates query.mapping none {}).map Prod.fst

def statement (query : DeleteQuery) (predicates : List Predicate) : Sql.Delete where
  relation := query.relation
  conditions := idConditions query.relation query.id ++ predicates.map Predicate.condition

def bindings (query : DeleteQuery) (predicates : List Predicate) : Except Cause Bindings := do
  let bindings ← Bindings.bindOptional .empty "id" query.id
  bindings.bindPredicates predicates

/-- The deletion, which something has to restrict. -/
def compile (query : DeleteQuery) : Except Cause Compiled := do
  let predicates ← query.predicates
  if query.id.isNone && predicates.isEmpty then throw .noFilterProvided
  let bindings ← query.bindings predicates
  return bindings.compile (.delete (query.statement predicates))

end DeleteQuery

namespace PostQuery

def columns (query : PostQuery) : List (String × String × Value) :=
  withNames .value query.values.entries

def statement (query : PostQuery) : Sql.Insert where
  relation := query.relation
  columns := query.columns.map fun (column, name, _) => (column, .param name)
  returning := if query.returning then ["*"] else []

def compile (query : PostQuery) : Compiled :=
  Bindings.compile (.ofList (namedValues query.columns)) (.insert query.statement)

end PostQuery

namespace LastUpdateQuery

def equations (query : LastUpdateQuery) : List (String × String × Value) :=
  withNames .filter query.equals.entries

def statement (query : LastUpdateQuery) : Sql.Select where
  columns := idAndCreation query.relation
  source := some query.relation
  conditions := idConditions query.relation query.id ++
    query.equations.map fun (column, name, _) =>
      .equals (.qualified query.relation column) (.param name)
  orderBy := newestFirst query.relation
  limit := some (.int 1)

def bindings (query : LastUpdateQuery) : Except Cause Bindings := do
  let bindings ← Bindings.bindOptional .empty "id" query.id
  bindings.bindAll (namedValues query.equations)

def compile (query : LastUpdateQuery) : Except Cause Compiled := do
  let bindings ← query.bindings
  .ok (bindings.compile (.select query.statement))

end LastUpdateQuery

end RelationQuery

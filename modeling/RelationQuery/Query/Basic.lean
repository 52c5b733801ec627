import RelationQuery.Directive
import RelationQuery.Filter
import RelationQuery.Request
import RelationQuery.Sql.Statement

/-!
# Queries

The five operations on a relation, each a description of what to read or change. A query starts from
its relation alone and takes its parts one call at a time; nothing here touches the server.
-/

namespace RelationQuery

open Sql (Relation Join)

/-- The columns that an update never writes. -/
def protectedColumns : List String := ["id", "created_at", "updated_at"]

namespace FilterSet

def addPredicate (filters : FilterSet) (predicate : Predicate) : FilterSet :=
  { filters with explicit := filters.explicit ++ [predicate] }

def addEntry (filters : FilterSet) (key : String) (value : Value) : FilterSet :=
  { filters with entries := filters.entries.insert key (.ofValue value) }

end FilterSet

/-! ## Reading -/

structure GetQuery where
  relation : Relation
  id : Option Value := none
  /-- What is selected behind the identifier and the time of creation. -/
  keys : List String := []
  filters : FilterSet := {}
  order : Option Order := none
  group : List String := []
  joins : List Join := []
  page : Page := {}
  /-- Whether even a single row is reported as a list. -/
  forceAsList : Bool := false
  mapping : Option KeyMapping := none
  /-- The keys that filters may use; without a list, all of them. -/
  allowed : Option (List String) := none
  /-- The keys of filters and order that came from requests. -/
  requestKeys : List String := []

def joinSearch (own request : Option String) : Option String :=
  match own, request with
  | some own, some request => some (own ++ " " ++ request)
  | none, request => request
  | own, none => own

namespace GetQuery

/-- The entries of a request whose keys the query does not filter on yet. -/
def freshEntries (query : GetQuery) (request : Request) : List (String × FilterValue) :=
  match request.filter with
  | none => []
  | some entries => entries.entries.filter fun entry => !query.filters.entries.contains entry.1

/-- The order that a request gives to a query without one. -/
def freshOrder (query : GetQuery) (request : Request) : Option Order :=
  match query.order with
  | some _ => none
  | none => request.order

/-- Fills in from a request what is not set yet; search texts add up. The keys taken are
remembered. -/
def applyRequest (query : GetQuery) (request : Request) : GetQuery :=
  let entries := query.freshEntries request
  let order := query.freshOrder request
  { query with
    filters := { query.filters with
      entries := query.filters.entries.extend entries
      search := joinSearch query.filters.search request.search }
    page := { limit := query.page.limit <|> request.limit
              offset := query.page.offset <|> request.offset }
    order := query.order <|> order
    requestKeys := query.requestKeys ++ entries.map Prod.fst ++
      order.elim [] fun order => order.columns.keys }

end GetQuery

inductive GetCall where
  | id (value : Value)
  | keys (keys : List String)
  | filter (predicate : Predicate)
  | entry (key : String) (value : Value)
  | entries (entries : FilterEntries)
  | search (text : String)
  | orderBy (order : Order)
  | groupBy (columns : List String)
  | join (join : Join)
  | limit (n : Int64)
  | offset (n : Int64)
  | forceAsList
  | keyMapping (mapping : KeyMapping)
  | allowedKeys (keys : List String)
  | request (request : Request)

def GetQuery.call (query : GetQuery) : GetCall → GetQuery
  | .id value => { query with id := some value }
  | .keys keys => { query with keys := query.keys ++ keys }
  | .filter predicate => { query with filters := query.filters.addPredicate predicate }
  | .entry key value => { query with filters := query.filters.addEntry key value }
  | .entries entries =>
      { query with filters := { query.filters with
          entries := query.filters.entries.extend entries.entries } }
  | .search text => { query with filters := { query.filters with search := some text } }
  | .orderBy order => { query with order := some order }
  | .groupBy columns => { query with group := columns }
  | .join join => { query with joins := query.joins ++ [join] }
  | .limit n => { query with page := { query.page with limit := some n } }
  | .offset n => { query with page := { query.page with offset := some n } }
  | .forceAsList => { query with forceAsList := true }
  | .keyMapping mapping => { query with mapping := some mapping }
  | .allowedKeys keys => { query with allowed := some keys }
  | .request request => query.applyRequest request

/-! ## Updating -/

structure PatchQuery where
  relation : Relation
  id : Option Value := none
  data : Keyed Value := .empty
  filters : FilterSet := {}
  mapping : Option KeyMapping := none
  /-- Whether the rows are reported, and not their number. -/
  returning : Bool := false
  /-- Whether all rows may be updated at once. -/
  allowUnfiltered : Bool := false

def PatchQuery.writable (query : PatchQuery) : List (String × Value) :=
  query.data.entries.filter fun entry => !protectedColumns.contains entry.1

inductive PatchCall where
  | id (value : Value)
  | data (entries : List (String × Value))
  | filter (predicate : Predicate)
  | entry (key : String) (value : Value)
  | search (text : String)
  | keyMapping (mapping : KeyMapping)
  | returning
  | allowUnfiltered

def PatchQuery.call (query : PatchQuery) : PatchCall → PatchQuery
  | .id value => { query with id := some value }
  | .data entries => { query with data := query.data.extend entries }
  | .filter predicate => { query with filters := query.filters.addPredicate predicate }
  | .entry key value => { query with filters := query.filters.addEntry key value }
  | .search text => { query with filters := { query.filters with search := some text } }
  | .keyMapping mapping => { query with mapping := some mapping }
  | .returning => { query with returning := true }
  | .allowUnfiltered => { query with allowUnfiltered := true }

/-! ## Deleting -/

structure DeleteQuery where
  relation : Relation
  id : Option Value := none
  filters : FilterSet := {}
  mapping : Option KeyMapping := none

inductive DeleteCall where
  | id (value : Value)
  | filter (predicate : Predicate)
  | entry (key : String) (value : Value)
  | search (text : String)
  | keyMapping (mapping : KeyMapping)

def DeleteQuery.call (query : DeleteQuery) : DeleteCall → DeleteQuery
  | .id value => { query with id := some value }
  | .filter predicate => { query with filters := query.filters.addPredicate predicate }
  | .entry key value => { query with filters := query.filters.addEntry key value }
  | .search text => { query with filters := { query.filters with search := some text } }
  | .keyMapping mapping => { query with mapping := some mapping }

/-! ## Inserting -/

structure PostQuery where
  relation : Relation
  values : Keyed Value := .empty
  returning : Bool := true

inductive PostCall where
  | values (entries : List (String × Value))
  | withoutReturning

def PostQuery.call (query : PostQuery) : PostCall → PostQuery
  | .values entries => { query with values := query.values.extend entries }
  | .withoutReturning => { query with returning := false }

/-! ## The newest row -/

/-- The identifier and the time of creation of the newest row. -/
structure LastUpdateQuery where
  relation : Relation
  id : Option Value := none
  /-- Columns and the values that they have to equal. -/
  equals : Keyed Value := .empty

inductive LastUpdateCall where
  | id (value : Value)
  | equals (entries : List (String × Value))

def LastUpdateQuery.call (query : LastUpdateQuery) : LastUpdateCall → LastUpdateQuery
  | .id value => { query with id := some value }
  | .equals entries => { query with equals := query.equals.extend entries }

end RelationQuery

import RelationQuery.Proofs.BoundValues
import RelationQuery.Proofs.Targets
import RelationQuery.Query.Run

/-!
# What statements are meant to say

The text that a query asks for, with the values themselves in their places. It is written from the
query alone: it knows neither the names of placeholders that are generated nor any numbers.
-/

namespace RelationQuery

open Sql (Relation)

/-- What stands at a place of a statement. -/
inductive Meant where
  | char (c : Char)
  | value (v : Value)
  /-- A placeholder that the caller has written under a reserved name. -/
  | unsaid

namespace Meant

def words (text : String) : List Meant := text.toList.map .char

def listed (parts : List (List Meant)) : List Meant := List.intercalate (words ", ") parts

/-- A clause of parts, left out when there are none. -/
def clause (opening : String) (parts : List (List Meant)) : List Meant :=
  if parts.isEmpty then [] else words opening ++ listed parts

def inParentheses (inside : List Meant) : List Meant := words "(" ++ inside ++ words ")"

/-- A name of the caller stands for the first value that it is given, or for null. -/
def ofPiece (given : List (String × Value)) : Sql.Piece → Meant
  | .char c => .char c
  | .slot name => if isReserved name then .unsaid else .value ((given.lookup name).getD .null)

def fragment (relation : Relation) (given : List (String × Value)) (template : String) :
    List Meant :=
  (Sql.Template.pieces (some relation) template).map (ofPiece given)

/-- A plain name is a column of the relation, and everything else a fragment. -/
def expression (relation : Relation) (given : List (String × Value)) (key : String) :
    List Meant :=
  if isPlainColumn key then words (relation.column key) else fragment relation given key

def equation (column : String) (v : Value) : List Meant := words (column ++ " = ") ++ [.value v]

/-- What a filter entry asks of a column. -/
def ofEntry (column : String) : FilterValue → List Meant
  | .null => words (column ++ " IS NULL")
  | .notNull => words (column ++ " IS NOT NULL")
  | .scalar v => equation column v
  | .list items => words (column ++ " = ANY(") ++ .value (.array items) :: words ")"

def ofContent (column : String) : Search.Content → List Meant
  | .isNull => words (column ++ " IS NULL")
  | .equals v false => equation column v
  | .equals v true => equation column v ++ words (" OR " ++ column ++ " IS NULL")

def whereTrue (conditions : List (List Meant)) : List Meant :=
  words " WHERE TRUE" ++ conditions.flatMap (words " AND " ++ ·)

def returning (rows : Bool) : List Meant := if rows then words " RETURNING *" else []

def idAndCreation (relation : Relation) : List (List Meant) :=
  [words (relation.column "id"),
    words ("FLOOR(EXTRACT(EPOCH FROM " ++ relation.column "created_at" ++
      "))::BIGINT AS created_at")]

def newestFirst (relation : Relation) : List Meant :=
  words (relation.column "created_at" ++ " DESC")

end Meant

namespace Page

/-- The number of rows that a count asks for; a negative count asks for none in particular. -/
def asked? (count : Option Int64) : Option Int64 := count.filter (0 ≤ ·)

def meantLimit (page : Page) : Int64 := (asked? page.limit).getD Int64.maxValue

def meantOffset (page : Page) : Int64 := (asked? page.offset).getD 0

theorem countOr_eq (absent : Int64) (count : Option Int64) :
    countOr absent count = (asked? count).getD absent := by
  cases count with
  | none => rfl
  | some n =>
      by_cases counts : 0 ≤ n
      · have asked : asked? (some n) = some n := by simp [asked?, counts]
        rw [countOr_of_nonneg counts, asked, Option.getD_some]
      · have negative : n < 0 := Int64.not_le.mp counts
        have unasked : asked? (some n) = none := by simp [asked?, negative]
        rw [countOr_of_neg negative, unasked, Option.getD_none]

theorem effectiveLimit_eq (page : Page) : page.effectiveLimit = page.meantLimit :=
  countOr_eq _ _

theorem effectiveOffset_eq (page : Page) : page.effectiveOffset = page.meantOffset :=
  countOr_eq _ _

end Page

structure Restriction where
  relation : Relation
  id : Option Value
  filters : FilterSet
  mapping : Option KeyMapping
  /-- The values that a read gives to its own names besides the identifier. -/
  page : List (String × Value) := []

namespace Restriction

def own (restriction : Restriction) : List (String × Value) :=
  restriction.id.toList.map ("id", ·) ++ restriction.page

/-- The values that the fragments of a query may name. -/
def given (restriction : Restriction) : List (String × Value) :=
  restriction.own ++ boundValues restriction.filters.explicit

def onId (restriction : Restriction) : List (List Meant) :=
  restriction.id.toList.map (Meant.equation (restriction.relation.column "id"))

def column (restriction : Restriction) (key : String) : String :=
  restriction.relation.column (mapKey restriction.mapping key)

/-- The conditions of the caller, of the filter entries and of the search terms. -/
def filtering (restriction : Restriction) : List (List Meant) :=
  (restriction.filters.explicit.map fun predicate =>
    Meant.inParentheses
      (Meant.fragment restriction.relation restriction.given predicate.template)) ++
  (restriction.filters.entries.entries.map fun entry =>
    Meant.inParentheses (Meant.ofEntry (restriction.column entry.1) entry.2)) ++
  (restriction.filters.terms.map fun term =>
    Meant.inParentheses (Meant.ofContent (restriction.column term.key) term.content))

def conditions (restriction : Restriction) : List (List Meant) :=
  restriction.onId ++ restriction.filtering

/-- The columns of all keys of filter entries and search terms are plain identifiers. -/
structure PlainKeys (restriction : Restriction) : Prop where
  entries : ∀ key ∈ restriction.filters.entries.keys,
    Sql.isIdentifier (mapKey restriction.mapping key) = true
  terms : ∀ term ∈ restriction.filters.terms,
    Sql.isIdentifier (mapKey restriction.mapping term.key) = true

end Restriction

namespace GetQuery

def restriction (query : GetQuery) : Restriction where
  relation := query.relation
  id := query.id
  filters := query.filters
  mapping := query.mapping
  page := [("limit", .int64 query.page.meantLimit),
    ("offset", .int64 query.page.meantOffset)]

def meantExpression (query : GetQuery) (key : String) : List Meant :=
  Meant.expression query.relation query.restriction.given key

def meantFragment (query : GetQuery) (template : String) : List Meant :=
  Meant.fragment query.relation query.restriction.given template

def meantJoin (query : GetQuery) (join : Sql.Join) : List Meant :=
  Meant.words (" " ++ join.kind.words ++ " ") ++ query.meantFragment join.source ++
    if Text.isBlankText join.on.toList then []
    else Meant.words " ON " ++ query.meantFragment join.on

def columnOrder (query : GetQuery) : Option Order :=
  (query.order.map (·.mapped query.mapping)).filter (!·.isEmpty)

def meantOrder (query : GetQuery) : List (List Meant) :=
  match query.columnOrder with
  | none => [Meant.newestFirst query.relation]
  | some order => order.columns.entries.map fun entry =>
      query.meantExpression entry.1 ++ Meant.words (" " ++ entry.2.word)

def head (query : GetQuery) : List Meant :=
  Meant.words "SELECT " ++
    Meant.listed (Meant.idAndCreation query.relation ++ query.keys.map query.meantExpression) ++
    Meant.words (" FROM " ++ query.relation.qualified) ++ query.joins.flatMap query.meantJoin

def tail (query : GetQuery) : List Meant :=
  Meant.clause " GROUP BY " (query.group.map query.meantExpression) ++
    Meant.clause " ORDER BY " query.meantOrder ++
    Meant.words " LIMIT " ++ [.value (.int64 query.page.meantLimit)] ++
    Meant.words " OFFSET " ++ [.value (.int64 query.page.meantOffset)]

end GetQuery

namespace PatchQuery

def restriction (query : PatchQuery) : Restriction where
  relation := query.relation
  id := query.id
  filters := query.filters
  mapping := query.mapping

def head (query : PatchQuery) : List Meant :=
  Meant.words ("UPDATE " ++ query.relation.qualified ++ " SET ") ++
    Meant.listed (query.writable.map fun entry => Meant.equation entry.1 entry.2)

end PatchQuery

def DeleteQuery.restriction (query : DeleteQuery) : Restriction where
  relation := query.relation
  id := query.id
  filters := query.filters
  mapping := query.mapping

def PostQuery.head (query : PostQuery) : List Meant :=
  Meant.words ("INSERT INTO " ++ query.relation.qualified) ++
    if query.values.isEmpty then Meant.words " DEFAULT VALUES"
    else
      Meant.words " (" ++ Meant.listed (query.values.keys.map Meant.words) ++
        Meant.words ") VALUES (" ++
        Meant.listed (query.values.entries.map fun entry => [.value entry.2]) ++ Meant.words ")"

namespace LastUpdateQuery

def head (query : LastUpdateQuery) : List Meant :=
  Meant.words "SELECT " ++ Meant.listed (Meant.idAndCreation query.relation) ++
    Meant.words (" FROM " ++ query.relation.qualified)

def meantConditions (query : LastUpdateQuery) : List (List Meant) :=
  (query.id.toList.map (Meant.equation (query.relation.column "id"))) ++
    query.equals.entries.map fun entry => Meant.equation (query.relation.column entry.1) entry.2

def tail (query : LastUpdateQuery) : List Meant :=
  Meant.clause " ORDER BY " [Meant.newestFirst query.relation] ++ Meant.words " LIMIT 1"

end LastUpdateQuery

def GetQuery.fragments (query : GetQuery) : List String :=
  query.filters.explicit.map Predicate.template ++ query.keys ++ query.group ++
    query.joins.flatMap (fun join => [join.source, join.on]) ++
    query.columnOrder.elim [] fun order => order.columns.keys

namespace Query

def restriction? : Query → Option Restriction
  | .get query => some query.restriction
  | .patch query => some query.restriction
  | .delete query => some query.restriction
  | .post _ => none
  | .lastUpdate _ => none

def head : Query → List Meant
  | .get query => query.head
  | .patch query => query.head
  | .delete query => Meant.words ("DELETE FROM " ++ query.relation.qualified)
  | .post query => query.head
  | .lastUpdate query => query.head

def meantConditions? : Query → Option (List (List Meant))
  | .get query => some query.restriction.conditions
  | .patch query => some query.restriction.conditions
  | .delete query => some query.restriction.conditions
  | .post _ => none
  | .lastUpdate query => some query.meantConditions

def tail : Query → List Meant
  | .get query => query.tail
  | .patch query => Meant.returning query.returning
  | .delete _ => []
  | .post query => Meant.returning query.returning
  | .lastUpdate query => query.tail

/-- All that the statement of a query is meant to say. -/
def meant (query : Query) : List Meant :=
  query.head ++ query.meantConditions?.elim [] Meant.whereTrue ++ query.tail

/-! ## What the caller has to see to -/

/-- The scheme, the table and the columns of filter and search keys are plain identifiers. -/
def Plain (query : Query) : Prop :=
  query.relation.Plain ∧
    ∀ restriction, query.restriction? = some restriction → restriction.PlainKeys

def givenColumns : Query → List String
  | .get _ => []
  | .patch query => query.writable.map Prod.fst
  | .delete _ => []
  | .post query => query.values.keys
  | .lastUpdate query => query.equals.keys

def fragments : Query → List String
  | .get query => query.fragments
  | .patch query => query.filters.explicit.map Predicate.template
  | .delete query => query.filters.explicit.map Predicate.template
  | .post _ => []
  | .lastUpdate _ => []

end Query

end RelationQuery

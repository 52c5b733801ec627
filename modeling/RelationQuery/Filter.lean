import RelationQuery.Error
import RelationQuery.Keyed
import RelationQuery.Search.Lexer

/-!
# Filters

A filter has three parts: predicates written by the caller, entries of keys and values, and a search
text. All of them become one list of predicates, in this order. The names of generated placeholders
count upward, so equal filters become equal predicates.
-/

namespace RelationQuery

/-- A condition as a fragment, and the values of its placeholders. -/
structure Predicate where
  template : String
  values : Keyed Value

namespace Predicate

def bare (template : String) : Predicate := ⟨template, .empty⟩

def binding (template name : String) (value : Value) : Predicate :=
  ⟨template, Keyed.empty.insert name value⟩

end Predicate

inductive FilterValue where
  | null
  | notNull
  | scalar (value : Value)
  /-- Membership in a list, which travels as one array. -/
  | list (items : List Value)
  deriving Repr, Inhabited

namespace FilterValue

/-- The words for null tests are read as such, and an array as a list. -/
def ofValue : Value → FilterValue
  | .null => .null
  | .text s =>
      if s = "null" ∨ s = "NULL" then .null
      else if s = "NOT NULL" ∨ s = "not null" then .notNull
      else .scalar (.text s)
  | .array items => .list items
  | other => .scalar other

def ofJson (json : Json) : FilterValue := ofValue (.ofJson json)

end FilterValue

abbrev FilterEntries := Keyed FilterValue

structure FilterSet where
  explicit : List Predicate := []
  entries : FilterEntries := .empty
  search : Option String := none

namespace FilterSet

def isEmpty (filters : FilterSet) : Bool :=
  filters.explicit.isEmpty && filters.entries.isEmpty &&
    filters.search.all fun text => Text.isBlankText text.toList

def terms (filters : FilterSet) : List Search.Term :=
  match filters.search with
  | none => []
  | some text => (Search.lex text).terms

end FilterSet

/-! ## Generated names -/

/-- What a generated placeholder stands for. -/
inductive NameFamily where
  | filter
  | set
  | value
  deriving DecidableEq, Repr

def NameFamily.letter : NameFamily → String
  | .filter => "f"
  | .set => "s"
  | .value => "v"

/-- The name at a place of its family, counted from one. -/
def generatedName (family : NameFamily) (place : Nat) : String :=
  generatedPrefix ++ family.letter ++ toString place

structure NameCounts where
  filter : Nat := 0
  set : Nat := 0
  value : Nat := 0
  deriving DecidableEq, Repr

namespace NameCounts

def count (counts : NameCounts) : NameFamily → Nat
  | .filter => counts.filter
  | .set => counts.set
  | .value => counts.value

def raise (counts : NameCounts) : NameFamily → NameCounts
  | .filter => { counts with filter := counts.filter + 1 }
  | .set => { counts with set := counts.set + 1 }
  | .value => { counts with value := counts.value + 1 }

def next (counts : NameCounts) (family : NameFamily) : String × NameCounts :=
  let counts := counts.raise family
  (generatedName family (counts.count family), counts)

end NameCounts

/-! ## Predicates of entries and terms -/

def targetColumn (name : String) : String := "$scheme.$table." ++ name

/-- The predicate of an entry whose key is a column already. -/
def entryPredicate (counts : NameCounts) (column : String) (value : FilterValue) :
    Predicate × NameCounts :=
  match value with
  | .null => (.bare (targetColumn column ++ " IS NULL"), counts)
  | .notNull => (.bare (targetColumn column ++ " IS NOT NULL"), counts)
  | .scalar value =>
      let (name, counts) := counts.next .filter
      (.binding (targetColumn column ++ " = :" ++ name) name value, counts)
  | .list items =>
      let (name, counts) := counts.next .filter
      (.binding (targetColumn column ++ " = ANY(:" ++ name ++ ")") name (.array items), counts)

def termPredicate (counts : NameCounts) (column : String) (content : Search.Content) :
    Predicate × NameCounts :=
  match content with
  | .isNull => (.bare (targetColumn column ++ " IS NULL"), counts)
  | .equals value orNull =>
      let (name, counts) := counts.next .filter
      let equation := targetColumn column ++ " = :" ++ name
      let template :=
        if orNull then equation ++ " OR " ++ targetColumn column ++ " IS NULL" else equation
      (.binding template name value, counts)

def checkAllowed (allowed : Option (List String)) (key : String) : Except Cause Unit :=
  if allowed.all (·.contains key) then .ok () else .error (.fieldNotAllowed key)

def predicatesOf {α : Type} (make : NameCounts → String → α → Predicate × NameCounts)
    (mapping : Option KeyMapping) (allowed : Option (List String)) :
    NameCounts → List (String × α) → Except Cause (List Predicate × NameCounts)
  | counts, [] => .ok ([], counts)
  | counts, (key, item) :: rest => do
      checkAllowed allowed key
      let (predicate, counts) := make counts (mapKey mapping key) item
      let (predicates, counts) ← predicatesOf make mapping allowed counts rest
      .ok (predicate :: predicates, counts)

def isReserved (name : String) : Bool := generatedPrefix.toList.isPrefixOf name.toList

def boundNames (predicates : List Predicate) : List String :=
  predicates.flatMap fun predicate => predicate.values.keys

/-- All the predicates of a filter: those of the caller, of the entries, and of the search text. -/
def FilterSet.predicates (filters : FilterSet) (mapping : Option KeyMapping)
    (allowed : Option (List String)) (counts : NameCounts) :
    Except Cause (List Predicate × NameCounts) :=
  match (boundNames filters.explicit).find? isReserved with
  | some name => .error (.malformedFilter (.reservedName name))
  | none => do
      let (ofEntries, counts) ←
        predicatesOf entryPredicate mapping allowed counts filters.entries.entries
      let (ofTerms, counts) ← predicatesOf termPredicate mapping allowed counts
        (filters.terms.map fun term => (term.key, term.content))
      .ok (filters.explicit ++ ofEntries ++ ofTerms, counts)

end RelationQuery

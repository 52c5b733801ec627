import RelationQuery.Filter
import RelationQuery.Sql.Render

/-!
# Bindings

The values of the named placeholders of a statement, collected while it is assembled. A name may be
bound twice only to the same value; a placeholder that nobody has bound is null.
-/

namespace RelationQuery

/-- A statement with its values in the order of their placeholders. -/
structure Compiled where
  sql : String
  params : List Value
  deriving Repr

abbrev Bindings := Keyed Value

namespace Bindings

def bind (bindings : Bindings) (name : String) (value : Value) : Except Cause Bindings :=
  match bindings.get? name with
  | none => .ok (bindings.insert name value)
  | some bound =>
      if bound.same value then .ok bindings else .error (.malformedFilter (.boundTwice name))

def bindAll : Bindings → List (String × Value) → Except Cause Bindings
  | bindings, [] => .ok bindings
  | bindings, (name, value) :: rest => do bindAll (← bindings.bind name value) rest

def bindOptional (bindings : Bindings) (name : String) (value : Option Value) :
    Except Cause Bindings :=
  match value with
  | none => .ok bindings
  | some value => bindings.bind name value

def bindPredicates (bindings : Bindings) (predicates : List Predicate) : Except Cause Bindings :=
  bindings.bindAll (predicates.flatMap fun predicate => predicate.values.entries)

def valueOf (bindings : Bindings) (name : String) : Value := (bindings.get? name).getD .null

/-- Puts the values in the order of the placeholders of a statement. -/
def compile (bindings : Bindings) (statement : Sql.Statement) : Compiled :=
  let rendered := statement.render
  ⟨rendered.sql, rendered.params.map bindings.valueOf⟩

end Bindings

end RelationQuery

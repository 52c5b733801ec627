import RelationQuery.Proofs.DecimalText
import RelationQuery.Proofs.NamedText
import RelationQuery.Proofs.ReadableFragments
import RelationQuery.Proofs.StatementFooting

/-!
# Legible statements

A statement is legible when its identifiers and aliases hold neither quotation marks nor dollar
signs and its fragments are readable under its target. Each expression, each clause and each of the
four statements then keeps its footing, whatever their values are named.
-/

namespace RelationQuery.Sql

/-! ## What a statement is made of -/

namespace Expr

def identifiers : Expr → List String
  | .param _ => []
  | .column none name => [name]
  | .column (some relation) name => [relation.scheme, relation.table, name]
  | .int _ => []
  | .binary left _ right => left.identifiers ++ right.identifiers
  | .isNull operand _ => operand.identifiers
  | .anyOf operand array => operand.identifiers ++ array.identifiers
  | .nested operand => operand.identifiers
  | .fragment _ => []

def fragments : Expr → List String
  | .param _ => []
  | .column _ _ => []
  | .int _ => []
  | .binary left _ right => left.fragments ++ right.fragments
  | .isNull operand _ => operand.fragments
  | .anyOf operand array => operand.fragments ++ array.fragments
  | .nested operand => operand.fragments
  | .fragment template => [template]

end Expr

namespace Statement

def exprs : Statement → List Expr
  | .select statement =>
      statement.columns.map (·.expr) ++ (statement.conditions ++ (statement.groupBy ++
        (statement.orderBy.map (·.expr) ++ (statement.limit.toList ++ statement.offset.toList))))
  | .insert statement => statement.columns.map (·.2)
  | .update statement => statement.assignments.map (·.2) ++ statement.conditions
  | .delete statement => statement.conditions
  | .bare expr => [expr]

/-- The identifiers and aliases that a statement writes besides those of its expressions. -/
def ownIdentifiers : Statement → List String
  | .select statement => statement.columns.filterMap (·.label)
  | .insert statement => statement.columns.map (·.1) ++ statement.returning
  | .update statement => statement.assignments.map (·.1) ++ statement.returning
  | .delete statement => statement.returning
  | .bare _ => []

def identifiers (statement : Statement) : List String :=
  statement.relation?.toList.flatMap (fun relation => [relation.scheme, relation.table]) ++
    (statement.ownIdentifiers ++ statement.exprs.flatMap Expr.identifiers)

def joins : Statement → List Join
  | .select statement => statement.joins
  | _ => []

def fragments (statement : Statement) : List String :=
  statement.joins.flatMap (fun join => [join.source, join.on]) ++
    statement.exprs.flatMap Expr.fragments

/-- A statement that a reader can tell apart from its placeholders. -/
structure Legible (target : Option Relation) (statement : Statement) : Prop where
  identifiers : ∀ name ∈ statement.identifiers, Calm name
  fragments : ∀ template ∈ statement.fragments, Readable target template

end Statement

/-! ## Footing of expressions -/

theorem calm_toString (n : Int) : Calm (toString n) := by
  have digits : MadeOf isCalm (Nat.toDigits 10 n.natAbs) := fun c member =>
    calm_of_nameChar (nameChar_of_digit (Text.isDigit_toDigits member))
  unfold Calm
  rw [Text.toList_toString_int]
  split
  · exact madeOf_cons rfl digits
  · exact digits

theorem Relation.calm_of_calm {relation : Relation} (scheme : Calm relation.scheme)
    (table : Calm relation.table) : Calm relation.qualified :=
  (MadeOf.append scheme (madeOf_point rfl)).append table

theorem unquoted_of_calm {text : List Char} (calm : MadeOf isCalm text) : Unquoted text := by
  intro c member
  have quiet := calm c member
  simp only [isCalm, Bool.and_eq_true, Bool.not_eq_true'] at quiet
  exact quiet.1

section Expressions

variable {target : Option Relation} (unquoted : UnquotedTarget target)

include unquoted

theorem Expr.settled {expr : Expr} (names : ∀ name ∈ expr.identifiers, Calm name)
    (readable : ∀ template ∈ expr.fragments, Readable target template) :
    Settled (expr.pieces target) := by
  induction expr with
  | param name => exact (steady_slot name).settled
  | column relation name =>
      cases relation with
      | none => exact MadeOf.settled (names name List.mem_cons_self)
      | some relation =>
          simp only [identifiers, List.forall_mem_cons] at names
          obtain ⟨scheme, table, column, -⟩ := names
          have point : Bridging (literal ".") := bridging_literal rfl
          have qualified := Relation.calm_of_calm scheme table
          exact qualified.settled.append (point.append column.settled)
  | int n => exact MadeOf.settled (calm_toString n.toInt)
  | binary left op right left_ih right_ih =>
      simp only [identifiers, fragments, List.forall_mem_append] at names readable
      have sign : Bridging (.char ' ' :: literal op.sign) := by
        cases op with
        | eq => exact @bridging_literal " =" rfl
        | and => exact @bridging_literal " AND" rfl
        | or => exact @bridging_literal " OR" rfl
      have blank : Bridging (literal " ") := bridging_literal rfl
      have operator := sign.steady.append (blank.append (right_ih names.2 readable.2))
      have whole := (left_ih names.1 readable.1).append operator
      rw [← List.append_assoc] at whole
      exact whole
  | isNull operand negated ih =>
      have words : Bridging (literal (if negated then " IS NOT NULL" else " IS NULL")) := by
        cases negated <;> exact bridging_literal rfl
      exact (ih names readable).append words.steady
  | anyOf operand array operand_ih array_ih =>
      simp only [identifiers, fragments, List.forall_mem_append] at names readable
      have opening : Bridging (literal " = ANY(") := bridging_literal rfl
      have closing : Bridging (literal ")") := bridging_literal rfl
      have behind := opening.append (array_ih names.2 readable.2)
      have whole := ((operand_ih names.1 readable.1).append behind).append closing.steady
      rw [← List.append_assoc] at whole
      exact whole
  | nested operand ih =>
      have opening : Bridging (literal "(") := bridging_literal rfl
      have closing : Bridging (literal ")") := bridging_literal rfl
      exact ((opening.append (ih names readable)).append closing.steady).settled
  | fragment template => exact settled_readable unquoted (readable template List.mem_cons_self)

end Expressions

/-! ## Footing of statements -/

theorem settled_of_mem_map {α : Type} {parts : List α} {write : α → List Piece}
    (each : ∀ part ∈ parts, Settled (write part)) :
    ∀ pieces ∈ parts.map write, Settled pieces := by
  intro pieces member
  obtain ⟨part, isPart, rfl⟩ := List.mem_map.mp member
  exact each part isPart

theorem steady_optionalClause {target : Option Relation} {words : String}
    (opening : Bridging (literal words)) {expr : Option Expr}
    (inside : ∀ e ∈ expr, Settled (e.pieces target)) :
    Steady (optionalClause target words expr) := by
  cases expr with
  | none => exact steady_nil
  | some e => exact opening.append (inside e rfl)

theorem SelectColumn.settled {target : Option Relation} (column : SelectColumn)
    (inside : Settled (column.expr.pieces target)) (calm : ∀ label ∈ column.label, Calm label) :
    Settled (column.pieces target) := by
  unfold SelectColumn.pieces
  cases labelled : column.label with
  | none => simpa using inside
  | some label =>
      have words : Bridging (literal " AS ") := bridging_literal rfl
      exact inside.append (words.append (calm label labelled).settled)

theorem OrderTerm.settled {target : Option Relation} (term : OrderTerm)
    (inside : Settled (term.expr.pieces target)) : Settled (term.pieces target) := by
  have words : Bridging (literal (if term.descending then " DESC" else " ASC")) := by
    cases term.descending <;> exact bridging_literal rfl
  exact inside.append words.steady

namespace Statement.Legible

variable {target : Option Relation}

section

variable {statement : Statement} (legible : statement.Legible target)

include legible

theorem expr (unquoted : UnquotedTarget target) {expr : Expr} (member : expr ∈ statement.exprs) :
    Settled (expr.pieces target) := by
  apply Expr.settled unquoted
  · intro name isName
    apply legible.identifiers
    simp only [Statement.identifiers, List.mem_append]
    exact .inr (.inr (List.mem_flatMap.mpr ⟨expr, member, isName⟩))
  · intro template isTemplate
    apply legible.fragments
    exact List.mem_append_right _ (List.mem_flatMap.mpr ⟨expr, member, isTemplate⟩)

theorem own {name : String} (member : name ∈ statement.ownIdentifiers) : Calm name := by
  apply legible.identifiers
  simp only [Statement.identifiers, List.mem_append]
  exact .inr (.inl member)

theorem relation {relation : Relation} (named : statement.relation? = some relation) :
    Calm relation.scheme ∧ Calm relation.table := by
  have calm (name : String) (member : name ∈ [relation.scheme, relation.table]) : Calm name := by
    apply legible.identifiers
    apply List.mem_append_left
    rw [named]
    exact List.mem_flatMap.mpr ⟨relation, List.mem_singleton_self relation, member⟩
  exact ⟨calm _ List.mem_cons_self, calm _ (List.mem_cons_of_mem _ List.mem_cons_self)⟩

theorem qualified {relation : Relation} (named : statement.relation? = some relation) :
    Settled (literal relation.qualified) := by
  obtain ⟨scheme, table⟩ := legible.relation named
  exact (Relation.calm_of_calm scheme table).settled

theorem join (unquoted : UnquotedTarget target) {join : Join} (member : join ∈ statement.joins) :
    Steady (join.pieces target) := by
  have readable (template : String) (isOwn : template ∈ [join.source, join.on]) :
      Settled (Template.pieces target template) := by
    apply settled_readable unquoted
    apply legible.fragments
    exact List.mem_append_left _ (List.mem_flatMap.mpr ⟨join, member, isOwn⟩)
  exact Join.steady (readable _ List.mem_cons_self)
    (readable _ (List.mem_cons_of_mem _ List.mem_cons_self))

end

theorem steady_source {statement : Select} (legible : (Statement.select statement).Legible target) :
    Steady (match statement.source with
      | none => []
      | some relation => literal " FROM " ++ literal relation.qualified) := by
  have words : Bridging (literal " FROM ") := bridging_literal rfl
  cases named : statement.source with
  | none => exact steady_nil
  | some relation => exact words.append (legible.qualified named)

variable (unquoted : UnquotedTarget target)

include unquoted

theorem steady_select {statement : Select} (legible : (Statement.select statement).Legible target) :
    Steady (statement.pieces target) := by
  have expr {e : Expr} (member : e ∈ (Statement.select statement).exprs) :=
    legible.expr unquoted member
  simp only [exprs, List.mem_append, List.mem_map, Option.mem_toList] at expr
  have select : Bridging (literal "SELECT ") := bridging_literal rfl
  have columns : Settled (if statement.columns.isEmpty then [.char '*']
      else separated ", " (statement.columns.map (·.pieces target))) := by
    split
    · exact .inl rfl
    · apply settled_separated
      apply settled_of_mem_map
      intro column member
      exact column.settled (expr (.inl ⟨column, member, rfl⟩)) fun label labelled =>
        legible.own (List.mem_filterMap.mpr ⟨column, member, labelled⟩)
  have joins : Steady (statement.joins.flatMap (·.pieces target)) :=
    .flatMap fun _ member => legible.join unquoted member
  have conditions : Steady (whereClause target statement.conditions) :=
    steady_whereClause fun e member => expr (.inr (.inl member))
  have groups : Steady (listClause " GROUP BY " (statement.groupBy.map (·.pieces target))) :=
    steady_listClause (bridging_literal rfl)
      (settled_of_mem_map fun e member => expr (.inr (.inr (.inl member))))
  have order : Steady (listClause " ORDER BY " (statement.orderBy.map (·.pieces target))) := by
    apply steady_listClause (bridging_literal rfl)
    apply settled_of_mem_map
    intro term member
    exact term.settled (expr (.inr (.inr (.inr (.inl ⟨term, member, rfl⟩)))))
  have limit : Steady (optionalClause target " LIMIT " statement.limit) :=
    steady_optionalClause (bridging_literal rfl)
      fun e member => expr (.inr (.inr (.inr (.inr (.inl member)))))
  have offset : Steady (optionalClause target " OFFSET " statement.offset) :=
    steady_optionalClause (bridging_literal rfl)
      fun e member => expr (.inr (.inr (.inr (.inr (.inr member)))))
  exact (((((((select.append columns).append legible.steady_source).append joins).append conditions).append
    groups).append order).append limit).append offset

theorem steady_insert {statement : Insert} (legible : (Statement.insert statement).Legible target) :
    Steady (statement.pieces target) := by
  have into : Bridging (literal "INSERT INTO ") := bridging_literal rfl
  have defaults : Bridging (literal " DEFAULT VALUES") := bridging_literal rfl
  have opening : Bridging (literal " (") := bridging_literal rfl
  have between : Bridging (literal ") VALUES (") := bridging_literal rfl
  have closing : Bridging (literal ")") := bridging_literal rfl
  have names : Settled (separated ", " (statement.columns.map (literal ·.1))) := by
    apply settled_separated
    apply settled_of_mem_map
    intro column member
    have own : column.1 ∈ (Statement.insert statement).ownIdentifiers :=
      List.mem_append_left _ (List.mem_map_of_mem member)
    exact (legible.own own).settled
  have values : Settled (separated ", " (statement.columns.map (·.2.pieces target))) := by
    apply settled_separated
    apply settled_of_mem_map
    intro column member
    exact legible.expr unquoted (List.mem_map_of_mem member)
  have columns : Steady (if statement.columns.isEmpty then literal " DEFAULT VALUES"
      else
        literal " (" ++ separated ", " (statement.columns.map (literal ·.1)) ++
        literal ") VALUES (" ++ separated ", " (statement.columns.map (·.2.pieces target)) ++
        [.char ')']) := by
    split
    · exact defaults.steady
    · have listed := (opening.append names).append (between.append values)
      rw [← List.append_assoc] at listed
      exact listed.append closing.steady
  have returning : Steady (returningClause statement.returning) :=
    steady_returningClause fun column member => legible.own (List.mem_append_right _ member)
  exact ((into.append (legible.qualified rfl)).append columns).append returning

theorem steady_update {statement : Update} (legible : (Statement.update statement).Legible target) :
    Steady (statement.pieces target) := by
  have opening : Bridging (literal "UPDATE ") := bridging_literal rfl
  have set : Bridging (literal " SET ") := bridging_literal rfl
  have sign : Bridging (literal " = ") := bridging_literal rfl
  have assignments : Settled (separated ", " (statement.assignments.map fun assignment =>
      literal assignment.1 ++ literal " = " ++ assignment.2.pieces target)) := by
    apply settled_separated
    apply settled_of_mem_map
    intro assignment member
    have column : Calm assignment.1 :=
      legible.own (List.mem_append_left _ (List.mem_map_of_mem member))
    have value : Settled (assignment.2.pieces target) :=
      legible.expr unquoted (List.mem_append_left _ (List.mem_map_of_mem member))
    have whole := column.settled.append (sign.append value)
    rwa [← List.append_assoc] at whole
  have conditions : Steady (whereClause target statement.conditions) :=
    steady_whereClause fun e member => legible.expr unquoted (List.mem_append_right _ member)
  have returning : Steady (returningClause statement.returning) :=
    steady_returningClause fun column member => legible.own (List.mem_append_right _ member)
  have head := (opening.append (legible.qualified rfl)).append (set.append assignments)
  rw [← List.append_assoc] at head
  exact (head.append conditions).append returning

theorem steady_delete {statement : Delete} (legible : (Statement.delete statement).Legible target) :
    Steady (statement.pieces target) := by
  have opening : Bridging (literal "DELETE FROM ") := bridging_literal rfl
  have conditions : Steady (whereClause target statement.conditions) :=
    steady_whereClause fun e member => legible.expr unquoted member
  have returning : Steady (returningClause statement.returning) :=
    steady_returningClause fun column member => legible.own member
  exact ((opening.append (legible.qualified rfl)).append conditions).append returning

theorem settled {statement : Statement} (legible : statement.Legible target) :
    Settled (statement.pieces target) := by
  cases statement with
  | select statement => exact (steady_select unquoted legible).settled
  | insert statement => exact (steady_insert unquoted legible).settled
  | update statement => exact (steady_update unquoted legible).settled
  | delete statement => exact (steady_delete unquoted legible).settled
  | bare expr => exact legible.expr unquoted List.mem_cons_self

end Statement.Legible

end RelationQuery.Sql

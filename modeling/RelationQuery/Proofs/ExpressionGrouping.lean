import RelationQuery.Proofs.ConditionReading
import RelationQuery.Proofs.ConditionText
import RelationQuery.Proofs.Numbering

/-!
# The grouping of expressions

An expression of columns, parameters and logical operators is a condition on their texts. It is
written without parentheses of its own, so a server groups it by the strength of its operators; this
is the grouping that was meant as far as truth goes, where every weak operand is nested. Where one
is not, the text can mean something else.
-/

namespace RelationQuery.Sql

namespace Expr

/-- The condition that an expression is in a statement with these names: columns that are named as
names are written, parameters, and operators. -/
def condition? (names : List String) : Expr → Option Condition
  | .param name => some (.atom (placeholder (names.idxOf name + 1)))
  | .column none name =>
      if Condition.isName name.toList && (Condition.keyword? name.toList).isNone then
        some (.atom name.toList)
      else none
  | .column (some relation) name =>
      if Condition.isName relation.scheme.toList && Condition.isName relation.table.toList &&
          Condition.isName name.toList then
        some (.atom (relation.column name).toList)
      else none
  | .binary left op right => do
      let left ← left.condition? names
      let right ← right.condition? names
      some (.binary left op right)
  | .isNull operand negated => (operand.condition? names).map (.isNull · negated)
  | .nested operand => (operand.condition? names).map .nested
  | .int _ => none
  | .anyOf _ _ => none
  | .fragment _ => none

variable {names : List String} {target : Option Relation}

/-- An expression is written as the text of its condition, and its atoms are read as such. -/
theorem written_condition {expr : Expr} {condition : Condition}
    (made : expr.condition? names = some condition) :
    textOf names (expr.pieces target) = condition.text ∧
      ∀ text ∈ condition.atoms, Condition.Solid text := by
  induction expr generalizing condition with
  | param name =>
      cases made
      exact ⟨List.append_nil _, List.forall_mem_singleton.mpr (Condition.solid_placeholder _)⟩
  | column relation name =>
      cases relation with
      | none =>
          obtain ⟨legal, same⟩ := Option.ite_none_right_eq_some.mp made
          cases same
          obtain ⟨named, free⟩ := (Bool.and_eq_true _ _).mp legal
          exact ⟨textOf_literal names name, List.forall_mem_singleton.mpr
            (Condition.solid_name named (Option.isNone_iff_eq_none.mp free))⟩
      | some relation =>
          obtain ⟨legal, same⟩ := Option.ite_none_right_eq_some.mp made
          cases same
          obtain ⟨owner, named⟩ := (Bool.and_eq_true _ _).mp legal
          obtain ⟨scheme, table⟩ := (Bool.and_eq_true _ _).mp owner
          refine ⟨?_, List.forall_mem_singleton.mpr (Condition.solid_column scheme table named)⟩
          change textOf names (literal relation.qualified ++ ([.char '.'] ++ literal name)) = _
          rw [textOf_append, textOf_append, textOf_literal, textOf_literal]
          simp [Condition.text, Relation.column, textOf, Piece.text]
  | binary left op right ihLeft ihRight =>
      obtain ⟨first, madeLeft, made⟩ := Option.bind_eq_some_iff.mp made
      obtain ⟨second, madeRight, same⟩ := Option.bind_eq_some_iff.mp made
      cases same
      obtain ⟨spelled, solid⟩ := ihLeft madeLeft
      obtain ⟨spelled', solid'⟩ := ihRight madeRight
      refine ⟨?_, List.forall_mem_append.mpr ⟨solid, solid'⟩⟩
      have signed :
          textOf names (.char ' ' :: literal op.sign ++ .char ' ' :: right.pieces target) =
            ' ' :: op.sign.toList ++ ' ' :: textOf names (right.pieces target) := by
        change ' ' :: textOf names (literal op.sign ++ .char ' ' :: right.pieces target) = _
        rw [textOf_append, textOf_literal]
        rfl
      change textOf names (left.pieces target ++ .char ' ' :: literal op.sign ++
        .char ' ' :: right.pieces target) = _
      rw [List.append_assoc, textOf_append, signed, spelled, spelled', ← List.append_assoc]
      rfl
  | isNull operand negated ih =>
      obtain ⟨inner, known, rfl⟩ := Option.map_eq_some_iff.mp made
      obtain ⟨spelled, solid⟩ := ih known
      refine ⟨?_, solid⟩
      change textOf names (operand.pieces target ++ literal _) = _
      rw [textOf_append, textOf_literal, spelled]
      rfl
  | nested operand ih =>
      obtain ⟨inner, known, rfl⟩ := Option.map_eq_some_iff.mp made
      obtain ⟨spelled, solid⟩ := ih known
      refine ⟨?_, solid⟩
      change '(' :: textOf names (operand.pieces target ++ [.char ')']) = _
      rw [textOf_append, spelled]
      rfl
  | int | anyOf | fragment => cases made

/-- The text of an expression is read as a condition of the same truth, whatever the truth of its
atoms. -/
def ReadsBack (expr : Expr) (condition : Condition) : Prop :=
  ∃ read, Condition.ofText? (Statement.bare expr).render.sql.toList = some read ∧ read.Grouped ∧
    ∀ valuation, read.truth valuation = condition.truth valuation

/-- An expression whose weak operands are nested is read as it was meant. -/
theorem grouped_reads_back {expr : Expr} {condition : Condition}
    (made : expr.condition? (Statement.bare expr).render.params = some condition)
    (grouped : condition.Grouped) : expr.ReadsBack condition := by
  obtain ⟨spelled, solid⟩ := expr.written_condition made
  obtain ⟨read, known, same⟩ := Condition.read?_words grouped
  refine ⟨read, ?_, (Condition.read?_sound known).1, same⟩
  rw [Statement.sql_render]
  change Condition.ofText? (textOf _ (expr.pieces _)) = _
  rw [spelled, Condition.ofText?_text solid, known]

/-! ## An alternative in parentheses -/

def paidOrders : Expr :=
  .binary (.nested (.binary (.equals (.qualified ⟨"shop", "orders"⟩ "coupon") (.param "f1")) .or
    (.isNull (.qualified ⟨"shop", "orders"⟩ "coupon") false))) .and (.bare "paid")

def paidCondition : Condition :=
  .binary (.nested (.binary (.binary (.atom "shop.orders.coupon".toList) .eq (.atom "$1".toList)) .or
    (.isNull (.atom "shop.orders.coupon".toList) false))) .and (.atom "paid".toList)

theorem grouped_paidCondition : paidCondition.Grouped := by
  have coupon := Condition.Grouped.atom "shop.orders.coupon".toList
  have equation : (Condition.binary (.atom "shop.orders.coupon".toList) .eq
      (.atom "$1".toList)).Grouped := .equals coupon (.atom _) rfl rfl
  have absent := Condition.Grouped.isNull coupon (by decide) false
  have either : BinaryOp.or ≠ .eq := by decide
  have both : BinaryOp.and ≠ .eq := by decide
  have alternative := Condition.Grouped.join either equation absent (by decide) (by decide)
  exact .join both alternative.nested (.atom _) (by decide) (by decide)

theorem paidOrders_reads_back :
    paidOrders.condition? (Statement.bare paidOrders).render.params = some paidCondition ∧
    paidCondition.Grouped ∧ paidOrders.ReadsBack paidCondition := by
  have made : paidOrders.condition? (Statement.bare paidOrders).render.params =
      some paidCondition := by decide +kernel
  exact ⟨made, grouped_paidCondition, grouped_reads_back made grouped_paidCondition⟩

/-! ## Weak operands -/

def truths (a b c : Truth) : List Char → Truth
  | ['a'] => a
  | ['b'] => b
  | ['c'] => c
  | _ => none

/-- Expressions with one weak operand that is not nested, and truths with which it matters. -/
def weakOperands : List (Expr × (List Char → Truth)) :=
  let a := bare "a"
  let b := bare "b"
  let c := bare "c"
  let yes := some true
  let no := some false
  [(.binary (.binary a .or b) .and c, truths yes no no),
    (.binary c .and (.binary a .or b), truths no yes no),
    (.equals (.binary a .or b) c, truths yes no no),
    (.equals c (.binary a .or b), truths no yes no),
    (.equals (.binary a .and b) c, truths no no no),
    (.equals c (.binary a .and b), truths no no no),
    (.equals (.equals a b) c, truths no no no),
    (.equals a (.equals b c), truths no no no),
    (.equals a (.isNull b false), truths no yes no),
    (.isNull (.binary a .or b) false, truths yes yes no),
    (.isNull (.binary a .and b) false, truths none yes no)]

/-- Whatever an expression is read as, it is not what was meant. -/
def Misread (expr : Expr) : Prop :=
  ∃ condition, expr.condition? (Statement.bare expr).render.params = some condition ∧
    ∀ read, Condition.ofText? (Statement.bare expr).render.sql.toList = some read →
      ∃ valuation, read.truth valuation ≠ condition.truth valuation

def misreads (expr : Expr) (valuation : List Char → Truth) : Bool :=
  (expr.condition? (Statement.bare expr).render.params).any fun condition =>
    (Condition.ofText? (Statement.bare expr).render.sql.toList).all fun read =>
      read.truth valuation != condition.truth valuation

theorem misread_of_misreads {expr : Expr} {valuation : List Char → Truth}
    (known : misreads expr valuation = true) : expr.Misread := by
  unfold misreads at known
  cases made : expr.condition? (Statement.bare expr).render.params with
  | none =>
      rw [made] at known
      cases known
  | some condition =>
      rw [made, Option.any_some] at known
      refine ⟨condition, made, fun read found => ⟨valuation, ?_⟩⟩
      rw [found, Option.all_some] at known
      exact bne_iff_ne.mp known

/-- No operand of these may be left without its parentheses. -/
theorem weak_operands_misread :
    (¬ ∀ (expr : Expr) (condition : Condition),
      expr.condition? (Statement.bare expr).render.params = some condition →
        expr.ReadsBack condition) ∧
    ∀ weak ∈ weakOperands, weak.1.Misread := by
  have checked : ∀ weak ∈ weakOperands, misreads weak.1 weak.2 = true := by decide +kernel
  have misread : ∀ weak ∈ weakOperands, weak.1.Misread := fun weak member =>
    misread_of_misreads (checked weak member)
  refine ⟨fun always => ?_, misread⟩
  obtain ⟨condition, made, differs⟩ := misread _ List.mem_cons_self
  obtain ⟨read, known, _, same⟩ := always _ condition made
  obtain ⟨valuation, other⟩ := differs read known
  exact other (same valuation)

end Expr

end RelationQuery.Sql

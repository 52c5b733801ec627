import Mathlib.Data.List.Forall2
import RelationQuery.Proofs.Conditions
import RelationQuery.Proofs.NamedValues

/-!
# Statements say what is meant

A piece says what is meant when it is the same character, or a slot whose name has the value that is
meant there. Part by part, the statement of every query says what the query asks for.
-/

namespace RelationQuery

open Sql (Relation Piece Expr literal separated)

/-- A piece says what is meant when names have the values of `valueOf`. -/
inductive Meant.Said (valueOf : String → Value) : Meant → Piece → Prop where
  | char (c : Char) : Said valueOf (.char c) (.char c)
  | value (name : String) : Said valueOf (.value (valueOf name)) (.slot name)
  | unsaid (name : String) : Said valueOf .unsaid (.slot name)

def Says (valueOf : String → Value) (meant : List Meant) (pieces : List Piece) : Prop :=
  List.Forall₂ (Meant.Said valueOf) meant pieces

section Says

variable {valueOf : String → Value}

theorem says_nil : Says valueOf [] [] := .nil

theorem says_append {meant more : List Meant} {front back : List Piece}
    (first : Says valueOf meant front) (second : Says valueOf more back) :
    Says valueOf (meant ++ more) (front ++ back) :=
  List.rel_append first second

theorem says_words (text : String) : Says valueOf (Meant.words text) (literal text) := by
  unfold Says Meant.words literal
  rw [List.forall₂_map_left_iff, List.forall₂_map_right_iff, List.forall₂_same]
  exact fun c _ => .char c

theorem says_slot {name : String} {v : Value} (valued : valueOf name = v) :
    Says valueOf [.value v] [.slot name] := by
  subst valued
  exact .cons (.value name) .nil

theorem says_flatMap {α β : Type} {Pair : α → β → Prop} {write : α → List Meant}
    {pieces : β → List Piece} {items : List α} {others : List β}
    (each : ∀ a b, Pair a b → Says valueOf (write a) (pieces b))
    (paired : List.Forall₂ Pair items others) :
    Says valueOf (items.flatMap write) (others.flatMap pieces) :=
  List.rel_flatMap paired fun a b => each a b

theorem says_listed {parts : List (List Meant)} {pieces : List (List Piece)}
    (each : List.Forall₂ (Says valueOf) parts pieces) :
    Says valueOf (Meant.listed parts) (separated ", " pieces) := by
  unfold Meant.listed separated
  induction each with
  | nil => exact says_nil
  | cons first rest ih =>
      cases rest with
      | nil =>
          rw [List.intercalate_singleton, List.intercalate_singleton]
          exact first
      | cons second others =>
          rw [List.intercalate_cons_cons, List.intercalate_cons_cons]
          exact says_append (says_append first (says_words ", ")) ih

theorem says_clause (opening : String) {parts : List (List Meant)} {pieces : List (List Piece)}
    (each : List.Forall₂ (Says valueOf) parts pieces) :
    Says valueOf (Meant.clause opening parts) (Sql.listClause opening pieces) := by
  cases each with
  | nil => exact says_nil
  | cons first rest => exact says_append (says_words opening) (says_listed (.cons first rest))

theorem says_returning (rows : Bool) :
    Says valueOf (Meant.returning rows) (Sql.returningClause (if rows then ["*"] else [])) := by
  cases rows with
  | false => exact says_nil
  | true => exact says_words " RETURNING *"

/-- Conditions that are said one by one are said in their clause. -/
theorem says_whereTrue (target : Option Relation) {conditions : List (List Meant)}
    {exprs : List Expr}
    (each : List.Forall₂ (fun meant expr => Says valueOf meant (expr.pieces target))
      conditions exprs) :
    Says valueOf (Meant.whereTrue conditions) (Sql.whereClause target exprs) :=
  says_append (says_words " WHERE TRUE")
    (says_flatMap (fun _ _ said => says_append (says_words " AND ") said) each)

/-! ## Columns and equations -/

theorem says_equation {column name : String} {v : Value} (valued : valueOf name = v) :
    Says valueOf (Meant.equation column v) (literal (column ++ " = ") ++ [.slot name]) :=
  says_append (says_words _) (says_slot valued)

theorem says_equals (target : Option Relation) (relation : Relation) {column name : String}
    {v : Value} (valued : valueOf name = v) :
    Says valueOf (Meant.equation (relation.column column) v)
      ((Expr.equals (.qualified relation column) (.param name)).pieces target) := by
  rw [pieces_equals]
  exact says_equation valued

theorem says_entryPieces {column name : String} (value : FilterValue)
    (valued : ∀ v, value = .scalar v → valueOf name = v)
    (listed : ∀ items, value = .list items → valueOf name = .array items) :
    Says valueOf (Meant.ofEntry column value) (entryPieces column name value) := by
  cases value with
  | null => exact says_words _
  | notNull => exact says_words _
  | scalar v => exact says_equation (valued v rfl)
  | list items =>
      exact says_append (says_words _)
        (says_append (says_slot (listed items rfl)) (says_words ")"))

theorem says_contentPieces {column name : String} (content : Search.Content)
    (valued : ∀ v orNull, content = .equals v orNull → valueOf name = v) :
    Says valueOf (Meant.ofContent column content) (contentPieces column name content) := by
  cases content with
  | isNull => exact says_words _
  | equals v orNull =>
      have here := valued v orNull rfl
      cases orNull with
      | false => exact says_equation here
      | true =>
          have first : Says valueOf (Meant.equation column v)
              (literal (column ++ " = ") ++ [.slot name]) := says_equation here
          have said := says_append first (says_words (" OR " ++ column ++ " IS NULL"))
          rwa [List.append_assoc] at said

/-! ## Fragments of the caller -/

def Gives (given : List (String × Value)) (valueOf : String → Value) : Prop :=
  ∀ name, isReserved name = false → valueOf name = (given.lookup name).getD .null

variable {given : List (String × Value)} (gives : Gives given valueOf)

include gives

theorem says_fragment (relation : Relation) (template : String) :
    Says valueOf (Meant.fragment relation given template)
      (Sql.Template.pieces (some relation) template) := by
  unfold Says Meant.fragment
  rw [List.forall₂_map_left_iff, List.forall₂_same]
  intro piece _
  cases piece with
  | char c => exact .char c
  | slot name =>
      unfold Meant.ofPiece
      dsimp only
      cases reserved : isReserved name with
      | true => exact .unsaid name
      | false =>
          rw [← gives name reserved]
          exact .value name

theorem says_expression (relation : Relation) (key : String) :
    Says valueOf (Meant.expression relation given key)
      ((columnOrFragment relation key).pieces (some relation)) := by
  unfold Meant.expression columnOrFragment
  cases isPlainColumn key with
  | true =>
      rw [if_pos rfl, if_pos rfl, pieces_qualified]
      exact says_words _
  | false => exact says_fragment gives relation key

theorem says_predicate (relation : Relation) (predicate : Predicate) :
    Says valueOf (Meant.inParentheses (Meant.fragment relation given predicate.template))
      (predicate.condition.pieces (some relation)) :=
  says_append (says_append (says_words "(") (says_fragment gives relation _)) (says_words ")")

end Says

/-! ## Conditions -/

theorem forall₂_imp_of_mem {α β : Type} {Pair Other : α → β → Prop} {items : List α}
    {others : List β} (paired : List.Forall₂ Pair items others)
    (imp : ∀ a ∈ items, ∀ b ∈ others, Pair a b → Other a b) : List.Forall₂ Other items others := by
  induction paired with
  | nil => exact .nil
  | cons first rest ih =>
      exact .cons (imp _ List.mem_cons_self _ List.mem_cons_self first)
        (ih fun a inItems b inOthers =>
          imp a (List.mem_cons_of_mem _ inItems) b (List.mem_cons_of_mem _ inOthers))

namespace Restriction

variable {restriction : Restriction} {valueOf : String → Value}

theorem says_onId (valued : ∀ v, restriction.id = some v → valueOf "id" = v) :
    List.Forall₂ (fun meant expr => Says valueOf meant (expr.pieces (some restriction.relation)))
      restriction.onId (idConditions restriction.relation restriction.id) := by
  unfold onId idConditions
  cases own : restriction.id with
  | none => exact .nil
  | some v => exact .cons (says_equals _ _ (valued v own)) .nil

/-- The condition of a predicate made for an entry. -/
theorem says_entry {key : String} {value : FilterValue} {counts : NameCounts}
    (plain : restriction.relation.Plain)
    (named : Sql.isIdentifier (mapKey restriction.mapping key) = true)
    (valued : ∀ entry ∈
        (entryPredicate counts (mapKey restriction.mapping key) value).1.values.entries,
      valueOf entry.1 = entry.2) :
    Says valueOf (Meant.inParentheses (Meant.ofEntry (restriction.column key) value))
      ((entryPredicate counts (mapKey restriction.mapping key) value).1.condition.pieces
        (some restriction.relation)) := by
  change Says _ _ (literal "(" ++ Sql.Template.pieces _ _ ++ literal ")")
  rw [pieces_entryPredicate plain named]
  refine says_append (says_append (says_words "(") (says_entryPieces value ?_ ?_)) (says_words ")")
  · rintro v rfl
    exact valued _ List.mem_cons_self
  · rintro items rfl
    exact valued _ List.mem_cons_self

/-- The condition of a predicate made for a search term. -/
theorem says_term {key : String} {content : Search.Content} {counts : NameCounts}
    (plain : restriction.relation.Plain)
    (named : Sql.isIdentifier (mapKey restriction.mapping key) = true)
    (valued : ∀ entry ∈
        (termPredicate counts (mapKey restriction.mapping key) content).1.values.entries,
      valueOf entry.1 = entry.2) :
    Says valueOf (Meant.inParentheses (Meant.ofContent (restriction.column key) content))
      ((termPredicate counts (mapKey restriction.mapping key) content).1.condition.pieces
        (some restriction.relation)) := by
  change Says _ _ (literal "(" ++ Sql.Template.pieces _ _ ++ literal ")")
  rw [pieces_termPredicate plain named]
  refine says_append (says_append (says_words "(") (says_contentPieces content ?_)) (says_words ")")
  rintro v orNull rfl
  exact valued _ List.mem_cons_self

/-- The conditions of all predicates say what the filters ask for. -/
theorem says_filtering (plain : restriction.relation.Plain) (keys : restriction.PlainKeys)
    {predicates : List Predicate} (valued : restriction.Valued predicates valueOf) :
    List.Forall₂ (fun meant expr => Says valueOf meant (expr.pieces (some restriction.relation)))
      restriction.filtering (predicates.map Predicate.condition) := by
  obtain ⟨ofEntries, ofTerms, rfl, ⟨allowed, made⟩, generated⟩ := valued.made
  unfold filtering
  rw [List.map_append, List.map_append, ← List.append_assoc]
  refine List.rel_append (List.rel_append ?_ ?_) ?_
  · rw [List.forall₂_map_left_iff, List.forall₂_map_right_iff, List.forall₂_same]
    intro predicate _
    exact says_predicate valued.given _ predicate
  · rw [List.forall₂_map_left_iff, List.forall₂_map_right_iff]
    apply forall₂_imp_of_mem made.entries
    rintro entry isEntry _ isMade ⟨counts, rfl⟩
    exact says_entry plain (keys.entries _ (List.mem_map_of_mem isEntry))
      (generated _ (List.mem_append_left _ isMade))
  · rw [List.forall₂_map_left_iff, List.forall₂_map_right_iff]
    have pairs := made.terms
    unfold FilterSet.keyedTerms at pairs
    rw [List.forall₂_map_left_iff] at pairs
    apply forall₂_imp_of_mem pairs
    rintro term isTerm _ isMade ⟨counts, rfl⟩
    exact says_term plain (keys.terms _ isTerm) (generated _ (List.mem_append_right _ isMade))

end Restriction

end RelationQuery

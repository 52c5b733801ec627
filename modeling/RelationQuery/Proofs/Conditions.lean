import RelationQuery.Proofs.GeneratedPredicates
import RelationQuery.Query.Compile

/-!
# Conditions as pieces

A predicate that is made for a filter entry or a search term compares one column of the target. As
pieces it is the words around at most one slot, which has the next generated name.
-/

namespace RelationQuery

open Sql (Relation Piece literal chars fragmentOf MadeOf isCopied)

/-- The pieces of what a filter entry asks of a column. -/
def entryPieces (column name : String) : FilterValue → List Piece
  | .null => literal (column ++ " IS NULL")
  | .notNull => literal (column ++ " IS NOT NULL")
  | .scalar _ => literal (column ++ " = ") ++ [.slot name]
  | .list _ => literal (column ++ " = ANY(") ++ .slot name :: literal ")"

def contentPieces (column name : String) : Search.Content → List Piece
  | .isNull => literal (column ++ " IS NULL")
  | .equals _ false => literal (column ++ " = ") ++ [.slot name]
  | .equals _ true =>
      literal (column ++ " = ") ++ .slot name :: literal (" OR " ++ column ++ " IS NULL")

/-- The name that the next predicate takes if it needs one. -/
def NameCounts.nextName (counts : NameCounts) : String :=
  generatedName .filter (counts.filter + 1)

namespace Sql

theorem literal_append (front back : String) :
    literal (front ++ back) = literal front ++ literal back := by
  unfold literal
  rw [String.toList_append, List.map_append]

theorem pieces_eq_fragmentOf (relation : Relation) (template : String) :
    Template.pieces (some relation) template = fragmentOf relation template.toList := rfl

/-- Words that hold nothing a fragment would change. -/
theorem fragmentOf_words (relation : Relation) {text : List Char}
    (copied : MadeOf isCopied text) : fragmentOf relation text = chars text := by
  have read := fragmentOf_append relation copied []
  rw [List.append_nil] at read
  rw [read]
  exact List.append_nil _

end Sql

theorem pieces_qualified (target : Option Relation) (relation : Relation) (name : String) :
    (Sql.Expr.qualified relation name).pieces target = literal (relation.column name) := by
  unfold Relation.column
  rw [Sql.literal_append, Sql.literal_append, List.append_assoc]
  rfl

theorem pieces_equals (target : Option Relation) (relation : Relation) (column name : String) :
    (Sql.Expr.equals (.qualified relation column) (.param name)).pieces target =
      literal (relation.column column ++ " = ") ++ [.slot name] := by
  change (Sql.Expr.qualified relation column).pieces target ++ [.char ' ', .char '='] ++
    [.char ' ', .slot name] = _
  rw [pieces_qualified, Sql.literal_append, List.append_assoc, List.append_assoc]
  rfl

section Aimed

variable {relation : Relation} (plain : relation.Plain) {column : String}
  (named : Sql.isIdentifier column = true)

include plain named

theorem pieces_columnWords {words : String} (copied : MadeOf isCopied words.toList) :
    Sql.Template.pieces (some relation) (targetColumn column ++ words) =
      literal (relation.column column ++ words) := by
  rw [Sql.pieces_eq_fragmentOf, String.toList_append, Sql.fragmentOf_targetColumn plain named,
    Sql.fragmentOf_words relation copied, Sql.literal_append, Sql.literal_eq words]

theorem pieces_columnEquals {name : String} (spelled : Sql.isIdentifier name = true) :
    Sql.Template.pieces (some relation) (targetColumn column ++ " = :" ++ name) =
      literal (relation.column column ++ " = ") ++ [.slot name] := by
  have text : (targetColumn column ++ " = :" ++ name).toList =
      (targetColumn column).toList ++ ([' ', '=', ' '] ++ ':' :: name.toList) := by
    simp only [String.toList_append, List.append_assoc]
    rfl
  rw [Sql.pieces_eq_fragmentOf, text, Sql.fragmentOf_targetColumn plain named,
    Sql.fragmentOf_append relation (by decide), Sql.fragmentOf_placeholder relation spelled,
    Sql.literal_append, List.append_assoc]
  rfl

theorem pieces_columnAny {name : String} (spelled : Sql.isIdentifier name = true) :
    Sql.Template.pieces (some relation) (targetColumn column ++ " = ANY(:" ++ name ++ ")") =
      literal (relation.column column ++ " = ANY(") ++ .slot name :: literal ")" := by
  have text : (targetColumn column ++ " = ANY(:" ++ name ++ ")").toList =
      (targetColumn column).toList ++
        ([' ', '=', ' ', 'A', 'N', 'Y', '('] ++ ':' :: (name.toList ++ ')' :: [])) := by
    simp only [String.toList_append, List.append_assoc]
    rfl
  rw [Sql.pieces_eq_fragmentOf, text, Sql.fragmentOf_targetColumn plain named,
    Sql.fragmentOf_append relation (by decide),
    Sql.fragmentOf_placeholder_append relation spelled rfl rfl,
    Sql.fragmentOf_words relation (by decide), Sql.literal_append, List.append_assoc]
  rfl

theorem pieces_columnOrNull {name : String} (spelled : Sql.isIdentifier name = true) :
    Sql.Template.pieces (some relation)
        (targetColumn column ++ " = :" ++ name ++ " OR " ++ targetColumn column ++ " IS NULL") =
      literal (relation.column column ++ " = ") ++
        .slot name :: literal (" OR " ++ relation.column column ++ " IS NULL") := by
  have text : (targetColumn column ++ " = :" ++ name ++ " OR " ++ targetColumn column ++
        " IS NULL").toList =
      (targetColumn column).toList ++ ([' ', '=', ' '] ++ ':' :: (name.toList ++ ' ' ::
        (['O', 'R', ' '] ++ ((targetColumn column).toList ++ " IS NULL".toList)))) := by
    simp only [String.toList_append, List.append_assoc]
    rfl
  have behind : fragmentOf relation (' ' :: (['O', 'R', ' '] ++
      ((targetColumn column).toList ++ " IS NULL".toList))) =
        literal (" OR " ++ relation.column column ++ " IS NULL") := by
    change fragmentOf relation ([' ', 'O', 'R', ' '] ++ _) = _
    rw [Sql.fragmentOf_append relation (by decide), Sql.fragmentOf_targetColumn plain named,
      Sql.fragmentOf_words relation (by decide), Sql.literal_append, Sql.literal_append,
      List.append_assoc]
    rfl
  rw [Sql.pieces_eq_fragmentOf, text, Sql.fragmentOf_targetColumn plain named,
    Sql.fragmentOf_append relation (by decide),
    Sql.fragmentOf_placeholder_append relation spelled rfl rfl, behind,
    Sql.literal_append (relation.column column) " = ", List.append_assoc]
  rfl

/-- The predicate of an entry as pieces. -/
theorem pieces_entryPredicate (counts : NameCounts) (value : FilterValue) :
    Sql.Template.pieces (some relation) (entryPredicate counts column value).1.template =
      entryPieces (relation.column column) counts.nextName value := by
  have spelled : Sql.isIdentifier counts.nextName = true := isIdentifier_generatedName _ _
  cases value with
  | null => exact pieces_columnWords plain named (by decide)
  | notNull => exact pieces_columnWords plain named (by decide)
  | scalar value => exact pieces_columnEquals plain named spelled
  | list items => exact pieces_columnAny plain named spelled

/-- The predicate of a search term as pieces. -/
theorem pieces_termPredicate (counts : NameCounts) (content : Search.Content) :
    Sql.Template.pieces (some relation) (termPredicate counts column content).1.template =
      contentPieces (relation.column column) counts.nextName content := by
  have spelled : Sql.isIdentifier counts.nextName = true := isIdentifier_generatedName _ _
  cases content with
  | isNull => exact pieces_columnWords plain named (by decide)
  | equals value orNull =>
      cases orNull with
      | false => exact pieces_columnEquals plain named spelled
      | true => exact pieces_columnOrNull plain named spelled

end Aimed

theorem pieces_createdAtSeconds {relation : Relation} (plain : relation.Plain) :
    Sql.Template.pieces (some relation) createdAtSeconds =
      literal ("FLOOR(EXTRACT(EPOCH FROM " ++ relation.column "created_at" ++ "))::BIGINT") := by
  have text : createdAtSeconds.toList = "FLOOR(EXTRACT(EPOCH FROM ".toList ++
      ((targetColumn "created_at").toList ++ "))::BIGINT".toList) := by decide
  have cast : Sql.fragmentOf relation "))::BIGINT".toList = literal "))::BIGINT" := by
    have aimed := Sql.aim_append relation (by decide : '$' ∉ "))::BIGINT".toList) []
    rw [List.append_nil, Sql.aim_nil, List.append_nil] at aimed
    unfold Sql.fragmentOf
    rw [aimed]
    rfl
  rw [Sql.pieces_eq_fragmentOf, text, Sql.fragmentOf_append relation (by decide),
    Sql.fragmentOf_targetColumn plain (by decide), cast, Sql.literal_append, Sql.literal_append,
    List.append_assoc]
  rfl

end RelationQuery

import RelationQuery.Proofs.Compilation
import RelationQuery.Proofs.Conditions
import RelationQuery.Proofs.NamedValues

/-!
# Statements keep their footing

Every part of a statement is made of names, words and fragments that a reader leaves outside quotes,
and no digit ever stands behind a placeholder or a dollar sign.
-/

namespace RelationQuery

namespace Sql

/-- A space is firm ground behind anything. -/
theorem bridging_of_calm {text : String} (calm : Calm text) :
    Bridging (.char ' ' :: literal text) := by
  have spelled : (" " ++ text).toList = ' ' :: text.toList := String.toList_append
  have firm : isFirm (" " ++ text) = true := by
    unfold isFirm
    rw [spelled]
    exact List.all_eq_true.mpr (madeOf_cons rfl calm)
  have bridging := bridging_literal firm
  rw [literal_append] at bridging
  exact bridging

theorem settled_nil : Settled [] := .inl rfl

theorem settled_separated {parts : List (List Piece)} (each : ∀ part ∈ parts, Settled part) :
    Settled (separated ", " parts) := by
  have comma : Bridging (literal ", ") := bridging_literal rfl
  cases parts with
  | nil => exact settled_nil
  | cons part rest =>
      obtain ⟨first, later⟩ := List.forall_mem_cons.mp each
      rw [separated_cons]
      exact first.append (.flatMap fun other member => comma.append (later other member))

theorem steady_listClause {words : String} (opening : Bridging (literal words))
    {parts : List (List Piece)} (each : ∀ part ∈ parts, Settled part) :
    Steady (listClause words parts) := by
  cases parts with
  | nil => exact steady_nil
  | cons part rest => exact opening.append (settled_separated each)

theorem steady_whereClause {target : Option Relation} {conditions : List Expr}
    (each : ∀ expr ∈ conditions, Settled (expr.pieces target)) :
    Steady (whereClause target conditions) := by
  have opening : Bridging (literal " WHERE TRUE") := bridging_literal rfl
  have joining : Bridging (literal " AND ") := bridging_literal rfl
  exact opening.steady.append
    (Steady.flatMap fun expr member => joining.append (each expr member))

theorem steady_returningClause {columns : List String} (calm : ∀ column ∈ columns, Calm column) :
    Steady (returningClause columns) := by
  have words : Bridging (literal " RETURNING ") := bridging_literal rfl
  unfold returningClause
  split
  · exact steady_nil
  · apply words.append
    apply settled_separated
    intro part member
    obtain ⟨column, isColumn, rfl⟩ := List.mem_map.mp member
    exact (calm column isColumn).settled

theorem steady_returning (rows : Bool) :
    Steady (returningClause (if rows then ["*"] else [])) := by
  cases rows with
  | false => exact steady_nil
  | true => exact steady_returningClause (List.forall_mem_singleton.mpr (by decide))

/-- A join whose two fragments keep their footing. -/
theorem Join.steady {target : Option Relation} {join : Join}
    (source : Settled (Template.pieces target join.source))
    (on : Settled (Template.pieces target join.on)) : Steady (join.pieces target) := by
  have words : Calm join.kind.words := by
    cases join.kind <;> decide
  have opening := bridging_of_calm words
  have space : Bridging (literal " ") := bridging_literal rfl
  have joined : Steady (.char ' ' :: literal join.kind.words ++
      .char ' ' :: Template.pieces target join.source) :=
    opening.steady.append (space.append source)
  unfold Join.pieces
  apply joined.append
  split
  · exact steady_nil
  · have condition : Bridging (literal " ON ") := bridging_literal rfl
    exact condition.append on

end Sql

open Sql (Relation Piece Expr literal Calm Settled Steady Bridging Tame)

/-! ## Expressions -/

theorem calm_of_isPlainColumn {key : String} (plain : isPlainColumn key = true) : Calm key := by
  have start {c : Char} (small : isColumnStart c = true) : Sql.Template.isNameChar c = true := by
    rcases Bool.or_eq_true_iff.mp small with lower | underscore
    · exact Sql.nameChar_of_letter (Bool.or_eq_true_iff.mpr (.inr lower))
    · rw [beq_iff_eq.mp underscore]
      rfl
  unfold isPlainColumn at plain
  intro c member
  split at plain
  · exact absurd plain Bool.false_ne_true
  · rename_i first rest spelled
    obtain ⟨small, more⟩ := (Bool.and_eq_true _ _).mp plain
    rw [spelled] at member
    rcases List.mem_cons.mp member with rfl | later
    · exact Sql.calm_of_nameChar (start small)
    · rcases Bool.or_eq_true_iff.mp (List.all_eq_true.mp more c later) with lower | digit
      · exact Sql.calm_of_nameChar (start lower)
      · exact Sql.calm_of_nameChar (Sql.nameChar_of_digit digit)

theorem calm_of_withNames {family : NameFamily} {entries : List (String × Value)}
    (columns : ∀ column ∈ entries.map Prod.fst, Sql.isIdentifier column = true)
    {named : String × String × Value} (member : named ∈ withNames family entries) :
    Calm named.1 := by
  obtain ⟨entry, isEntry, same, _⟩ :=
    exists_of_forall₂_right (forall₂_withNames family entries) member
  rw [same]
  exact Sql.calm_of_isIdentifier (columns entry.1 (List.mem_map_of_mem isEntry))

section Parts

variable {relation : Relation} (plain : relation.Plain)

include plain

theorem settled_qualified {name : String} (calm : Calm name) :
    Settled ((Expr.qualified relation name).pieces (some relation)) := by
  rw [pieces_qualified]
  exact (Sql.calm_column plain calm).settled

theorem settled_columnOrFragment {key : String} (tame : Tame key) :
    Settled ((columnOrFragment relation key).pieces (some relation)) := by
  unfold columnOrFragment
  cases column : isPlainColumn key with
  | true => exact settled_qualified plain (calm_of_isPlainColumn column)
  | false => exact Sql.settled_fragment plain tame

theorem settled_columnsOrFragments {keys : List String} (tame : ∀ key ∈ keys, Tame key) :
    ∀ part ∈ (keys.map (columnOrFragment relation)).map (·.pieces (some relation)),
      Settled part := by
  intro part member
  rw [List.map_map] at member
  obtain ⟨key, isKey, rfl⟩ := List.mem_map.mp member
  exact settled_columnOrFragment plain (tame key isKey)

theorem settled_equals {column : String} (calm : Calm column) (name : String) :
    Settled ((Expr.equals (.qualified relation column) (.param name)).pieces (some relation)) := by
  rw [pieces_equals]
  have words : Calm (relation.column column ++ " = ") :=
    (Sql.calm_column plain calm).append (by decide)
  exact words.settled.append (Sql.steady_slot name)

omit plain in
theorem settled_condition {predicate : Predicate}
    (inside : Settled (Sql.Template.pieces (some relation) predicate.template)) :
    Settled (predicate.condition.pieces (some relation)) := by
  have opening : Bridging (literal "(") := Sql.bridging_literal rfl
  have closing : Bridging (literal ")") := Sql.bridging_literal rfl
  exact ((opening.append inside).append closing.steady).settled

omit plain in
theorem settled_entryPieces {column : String} (calm : Calm column) (name : String)
    (value : FilterValue) : Settled (entryPieces column name value) := by
  have closing : Bridging (literal ")") := Sql.bridging_literal rfl
  cases value with
  | null => exact (calm.append (by decide)).settled
  | notNull => exact (calm.append (by decide)).settled
  | scalar v => exact (calm.append (by decide)).settled.append (Sql.steady_slot name)
  | list items =>
      exact (calm.append (by decide)).settled.append
        ((Sql.steady_slot name).append closing.steady)

omit plain in
theorem settled_contentPieces {column : String} (calm : Calm column) (name : String)
    (content : Search.Content) : Settled (contentPieces column name content) := by
  cases content with
  | isNull => exact (calm.append (by decide)).settled
  | equals v orNull =>
      have equation : Settled (literal (column ++ " = ") ++ [.slot name]) :=
        (calm.append (by decide)).settled.append (Sql.steady_slot name)
      cases orNull with
      | false => exact equation
      | true =>
          have behind : Calm (column ++ " IS NULL") := calm.append (by decide)
          have opening : Bridging (literal " OR ") := Sql.bridging_literal rfl
          have whole := equation.append (opening.append behind.settled)
          rw [← Sql.literal_append, List.append_assoc, ← String.append_assoc] at whole
          exact whole

end Parts

/-! ## Conditions -/

theorem Restriction.settled_conditions {restriction : Restriction}
    (plain : restriction.relation.Plain) (keys : restriction.PlainKeys)
    (tame : ∀ predicate ∈ restriction.filters.explicit, Tame predicate.template)
    {predicates : List Predicate} {valueOf : String → Value}
    (valued : restriction.Valued predicates valueOf) :
    ∀ expr ∈ idConditions restriction.relation restriction.id ++
        predicates.map Predicate.condition,
      Settled (expr.pieces (some restriction.relation)) := by
  intro expr member
  rcases List.mem_append.mp member with onId | filtering
  · unfold idConditions at onId
    split at onId
    · rw [List.mem_singleton.mp onId]
      exact settled_equals plain (by decide) "id"
    · contradiction
  obtain ⟨predicate, isPredicate, rfl⟩ := List.mem_map.mp filtering
  apply settled_condition
  obtain ⟨ofEntries, ofTerms, rfl, ⟨allowed, made⟩, _⟩ := valued.made
  rcases List.mem_append.mp isPredicate with explicit | generated
  · exact Sql.settled_fragment plain (tame predicate explicit)
  rcases List.mem_append.mp generated with ofEntry | ofTerm
  · obtain ⟨entry, isEntry, counts, rfl⟩ := exists_of_forall₂_right made.entries ofEntry
    have named := keys.entries entry.1 (List.mem_map_of_mem isEntry)
    rw [pieces_entryPredicate plain named]
    exact settled_entryPieces (Sql.calm_column plain (Sql.calm_of_isIdentifier named)) _ _
  · obtain ⟨item, isItem, counts, rfl⟩ := exists_of_forall₂_right made.terms ofTerm
    obtain ⟨term, isTerm, rfl⟩ := List.mem_map.mp isItem
    have named := keys.terms term isTerm
    rw [pieces_termPredicate plain named]
    exact settled_contentPieces (Sql.calm_column plain (Sql.calm_of_isIdentifier named)) _ _

/-! ## Reads -/

section Reads

variable {relation : Relation} (plain : relation.Plain)

include plain

theorem settled_idAndCreation :
    ∀ part ∈ (idAndCreation relation).map (·.pieces (some relation)), Settled part := by
  intro part member
  change part ∈ [(Expr.qualified relation "id").pieces _ ++ [],
    Sql.Template.pieces (some relation) createdAtSeconds ++
      (literal " AS " ++ literal "created_at")] at member
  rcases List.mem_cons.mp member with rfl | member
  · rw [List.append_nil]
    exact settled_qualified plain (by decide)
  · rw [List.mem_singleton.mp member, pieces_createdAtSeconds plain]
    have label : Bridging (literal " AS ") := Sql.bridging_literal rfl
    have name : Calm "created_at" := by decide
    have column : Calm (relation.column "created_at") := Sql.calm_column plain (by decide)
    have seconds : Calm ("FLOOR(EXTRACT(EPOCH FROM " ++ relation.column "created_at" ++
        "))::BIGINT") :=
      ((by decide : Calm "FLOOR(EXTRACT(EPOCH FROM ").append column).append (by decide)
    exact seconds.settled.append (label.append name.settled)

theorem settled_newestFirst :
    ∀ part ∈ (newestFirst relation).map (·.pieces (some relation)), Settled part := by
  intro part member
  change part ∈ [(Expr.qualified relation "created_at").pieces _ ++ literal " DESC"] at member
  have descending : Bridging (literal " DESC") := Sql.bridging_literal rfl
  rw [List.mem_singleton.mp member]
  exact (settled_qualified plain (by decide)).append descending.steady

theorem steady_source : Steady (literal " FROM " ++ literal relation.qualified) := by
  have words : Bridging (literal " FROM ") := Sql.bridging_literal rfl
  exact words.append (Sql.calm_qualified plain).settled

theorem steady_join {join : Sql.Join} (source : Tame join.source) (on : Tame join.on) :
    Steady (join.pieces (some relation)) :=
  Sql.Join.steady (Sql.settled_fragment plain source) (Sql.settled_fragment plain on)

end Reads

namespace GetQuery

variable {query : GetQuery} (plain : query.relation.Plain)
  (tame : ∀ text ∈ query.fragments, Tame text) (predicates : List Predicate)

include plain tame

theorem settled_head :
    Settled (Sql.Select.head (some query.relation) (query.statement predicates)) := by
  have select : Bridging (literal "SELECT ") := Sql.bridging_literal rfl
  have columns : ∀ part ∈ (query.statement predicates).columns.map (·.pieces (some query.relation)),
      Settled part := by
    intro part member
    change part ∈ List.map _ (idAndCreation query.relation ++ _) at member
    rw [List.map_append, List.map_map] at member
    rcases List.mem_append.mp member with own | selected
    · exact settled_idAndCreation plain part own
    · obtain ⟨key, isKey, rfl⟩ := List.mem_map.mp selected
      change Settled ((columnOrFragment query.relation key).pieces _ ++ [])
      rw [List.append_nil]
      exact settled_columnOrFragment plain (tame key (by simp [fragments, isKey]))
  have joins : Steady (query.joins.flatMap (·.pieces (some query.relation))) := by
    apply Sql.Steady.flatMap
    intro join isJoin
    have isText (text : String) (member : text = join.source ∨ text = join.on) :
        text ∈ query.joins.flatMap fun join => [join.source, join.on] :=
      List.mem_flatMap.mpr ⟨join, isJoin, by simpa using member⟩
    have source : Tame join.source := tame join.source (by
      simp only [fragments, List.mem_append, isText _ (.inl rfl), true_or, or_true])
    have on : Tame join.on := tame join.on (by
      simp only [fragments, List.mem_append, isText _ (.inr rfl), true_or, or_true])
    exact steady_join plain source on
  exact (((select.append (Sql.settled_separated columns)).append (steady_source plain)).append
    joins).settled

theorem settled_order :
    ∀ part ∈ query.orderTerms.map (·.pieces (some query.relation)), Settled part := by
  unfold orderTerms
  cases known : (query.order.map (·.mapped query.mapping)).filter (!·.isEmpty) with
  | none => exact settled_newestFirst plain
  | some order =>
      intro part member
      dsimp only at member
      rw [List.map_map] at member
      obtain ⟨entry, isEntry, rfl⟩ := List.mem_map.mp member
      have isKey : entry.1 ∈ query.columnOrder.elim [] fun order => order.columns.keys := by
        unfold columnOrder
        rw [known]
        exact List.mem_map_of_mem isEntry
      have key := settled_columnOrFragment plain (tame entry.1 (by
        simp only [fragments, List.mem_append, isKey, or_true]))
      have words : Bridging (literal (if entry.2 == .descending then " DESC" else " ASC")) := by
        cases entry.2 <;> exact Sql.bridging_literal rfl
      exact key.append words.steady

theorem steady_tail :
    Steady (Sql.Select.tail (some query.relation) (query.statement predicates)) := by
  have group : Bridging (literal " GROUP BY ") := Sql.bridging_literal rfl
  have order : Bridging (literal " ORDER BY ") := Sql.bridging_literal rfl
  have limit : Bridging (literal " LIMIT ") := Sql.bridging_literal rfl
  have offset : Bridging (literal " OFFSET ") := Sql.bridging_literal rfl
  have keys : ∀ key ∈ query.group, Tame key := fun key isKey =>
    tame key (by simp [fragments, isKey])
  have groups := Sql.steady_listClause group (settled_columnsOrFragments plain keys)
  have terms := Sql.steady_listClause order (settled_order plain tame)
  exact ((groups.append terms).append (limit.append (Sql.steady_slot "limit").settled)).append
    (offset.append (Sql.steady_slot "offset").settled)

end GetQuery

namespace LastUpdateQuery

variable {query : LastUpdateQuery} (plain : query.relation.Plain)

include plain

theorem settled_head :
    Settled (Sql.Select.head (some query.relation) query.statement) := by
  have select : Bridging (literal "SELECT ") := Sql.bridging_literal rfl
  exact (((select.append (Sql.settled_separated (settled_idAndCreation plain))).append
    (steady_source plain)).append Sql.steady_nil).settled

theorem settled_conditions
    (columns : ∀ column ∈ query.equals.keys, Sql.isIdentifier column = true) :
    ∀ expr ∈ query.statement.conditions, Settled (expr.pieces (some query.relation)) := by
  intro expr member
  rcases List.mem_append.mp member with onId | equation
  · unfold idConditions at onId
    split at onId
    · rw [List.mem_singleton.mp onId]
      exact settled_equals plain (by decide) "id"
    · contradiction
  · obtain ⟨named, isNamed, rfl⟩ := List.mem_map.mp equation
    exact settled_equals plain (calm_of_withNames columns isNamed) named.2.1

theorem steady_tail :
    Steady (Sql.Select.tail (some query.relation) query.statement) := by
  have order : Bridging (literal " ORDER BY ") := Sql.bridging_literal rfl
  have limit : Bridging (literal " LIMIT 1") := Sql.bridging_literal rfl
  exact ((Sql.steady_listClause order (settled_newestFirst plain)).append limit.steady).append
    Sql.steady_nil

end LastUpdateQuery

/-! ## Writes -/

theorem PatchQuery.settled_head {query : PatchQuery} (plain : query.relation.Plain)
    (columns : ∀ column ∈ query.writable.map Prod.fst, Sql.isIdentifier column = true)
    (predicates : List Predicate) :
    Settled (Sql.Update.head (some query.relation) (query.statement predicates)) := by
  have update : Bridging (literal "UPDATE ") := Sql.bridging_literal rfl
  have set : Bridging (literal " SET ") := Sql.bridging_literal rfl
  have equals : Bridging (literal " = ") := Sql.bridging_literal rfl
  have start := (update.append (Sql.calm_qualified plain).settled).settled
  rw [Sql.Update.head, List.append_assoc]
  refine start.append (set.append (Sql.settled_separated ?_))
  intro part member
  change part ∈ List.map _ (List.map _ query.assignments) at member
  rw [List.map_map] at member
  obtain ⟨named, isNamed, rfl⟩ := List.mem_map.mp member
  have column := (calm_of_withNames columns isNamed).settled
  exact (column.append equals.steady).append (Sql.steady_slot named.2.1)

theorem PostQuery.settled_head {query : PostQuery} (plain : query.relation.Plain)
    (columns : ∀ column ∈ query.values.keys, Sql.isIdentifier column = true) :
    Settled (Sql.Insert.head (some query.relation) query.statement) := by
  have insert : Bridging (literal "INSERT INTO ") := Sql.bridging_literal rfl
  have start := (insert.append (Sql.calm_qualified plain).settled).settled
  refine start.append ?_
  split
  · have defaults : Bridging (literal " DEFAULT VALUES") := Sql.bridging_literal rfl
    exact defaults.steady
  have opening : Bridging (literal " (") := Sql.bridging_literal rfl
  have values : Bridging (literal ") VALUES (") := Sql.bridging_literal rfl
  have closing : Bridging (literal ")") := Sql.bridging_literal rfl
  have names : ∀ part ∈ query.statement.columns.map (literal ·.1), Settled part := by
    intro part member
    change part ∈ List.map _ (List.map _ query.columns) at member
    rw [List.map_map] at member
    obtain ⟨named, isNamed, rfl⟩ := List.mem_map.mp member
    exact (calm_of_withNames columns isNamed).settled
  have slots : ∀ part ∈ query.statement.columns.map (·.2.pieces (some query.relation)),
      Settled part := by
    intro part member
    change part ∈ List.map _ (List.map _ query.columns) at member
    rw [List.map_map] at member
    obtain ⟨named, isNamed, rfl⟩ := List.mem_map.mp member
    exact (Sql.steady_slot named.2.1).settled
  have listed := (opening.append (Sql.settled_separated names)).append
    (values.append (Sql.settled_separated slots))
  rw [← List.append_assoc] at listed
  exact listed.append closing.steady

/-! ## Every query -/

/-- A built statement keeps its footing from its first to its last character. -/
theorem Query.Built.settled {query : Query} {bindings : Bindings} {statement : Sql.Statement}
    (built : query.Built bindings statement) (plain : query.Plain)
    (columns : ∀ column ∈ query.givenColumns, Sql.isIdentifier column = true)
    (tame : ∀ text ∈ query.fragments, Tame text) :
    Settled (statement.pieces (some query.relation)) := by
  rw [Sql.Statement.pieces_eq]
  cases built with
  | @get query predicates bindings made bound =>
      have conditions := Restriction.settled_conditions plain.1 (plain.2 query.restriction rfl)
        (fun predicate member => tame predicate.template (by
          have isText : predicate.template ∈ query.filters.explicit.map Predicate.template :=
            List.mem_map_of_mem member
          simp only [fragments, GetQuery.fragments, List.mem_append, isText, true_or]))
        (GetQuery.valued bound made)
      exact ((GetQuery.settled_head plain.1 tame predicates).append
        (Sql.steady_whereClause conditions)).append (GetQuery.steady_tail plain.1 tame predicates)
  | @patch query predicates bindings _ made _ bound =>
      have conditions := Restriction.settled_conditions plain.1 (plain.2 query.restriction rfl)
        (fun predicate member => tame predicate.template (List.mem_map_of_mem member))
        (PatchQuery.valued made bound)
      exact ((PatchQuery.settled_head plain.1 columns predicates).append
        (Sql.steady_whereClause conditions)).append (Sql.steady_returning query.returning)
  | @delete query predicates bindings made _ bound =>
      have conditions := Restriction.settled_conditions plain.1 (plain.2 query.restriction rfl)
        (fun predicate member => tame predicate.template (List.mem_map_of_mem member))
        (DeleteQuery.valued made bound)
      have delete : Bridging (literal "DELETE FROM ") := Sql.bridging_literal rfl
      exact ((delete.append (Sql.calm_qualified plain.1).settled).settled.append
        (Sql.steady_whereClause conditions)).append Sql.steady_nil
  | @post query =>
      exact ((PostQuery.settled_head plain.1 columns).append Sql.steady_nil).append
        (Sql.steady_returning query.returning)
  | @lastUpdate query bindings bound =>
      exact ((LastUpdateQuery.settled_head plain.1).append
        (Sql.steady_whereClause (LastUpdateQuery.settled_conditions plain.1 columns))).append
        (LastUpdateQuery.steady_tail plain.1)

end RelationQuery

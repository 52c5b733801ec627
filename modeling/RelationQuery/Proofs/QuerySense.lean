import RelationQuery.Proofs.Sense

/-!
# What the statement of each query says

Head, conditions and tail of a built statement, each against what the query means there.
-/

namespace RelationQuery

open Sql (Relation Piece Expr literal separated)

/-! ## The parts that reads share -/

section Reads

variable {valueOf : String → Value} {relation : Relation} (plain : relation.Plain)

theorem says_newestFirst :
    List.Forall₂ (Says valueOf) [Meant.newestFirst relation]
      ((newestFirst relation).map (·.pieces (some relation))) := by
  refine .cons ?_ .nil
  change Says valueOf _ ((Expr.qualified relation "created_at").pieces _ ++ literal " DESC")
  rw [pieces_qualified, ← Sql.literal_append]
  exact says_words _

include plain

theorem says_idAndCreation :
    List.Forall₂ (Says valueOf) (Meant.idAndCreation relation)
      ((idAndCreation relation).map (·.pieces (some relation))) := by
  refine .cons ?_ (.cons ?_ .nil)
  · change Says valueOf _ ((Expr.qualified relation "id").pieces _ ++ [])
    rw [pieces_qualified, List.append_nil]
    exact says_words _
  · change Says valueOf _ (Sql.Template.pieces _ createdAtSeconds ++
      (literal " AS " ++ literal "created_at"))
    rw [pieces_createdAtSeconds plain, ← Sql.literal_append, ← Sql.literal_append]
    have text : "FLOOR(EXTRACT(EPOCH FROM " ++ relation.column "created_at" ++ "))::BIGINT" ++
        (" AS " ++ "created_at") = "FLOOR(EXTRACT(EPOCH FROM " ++ relation.column "created_at" ++
          "))::BIGINT AS created_at" := by
      rw [String.append_assoc]
      exact congrArg _ (by decide)
    rw [text]
    exact says_words _

end Reads

/-! ## Reading -/

namespace GetQuery

variable {query : GetQuery} {predicates : List Predicate} {valueOf : String → Value}
  (valued : query.restriction.Valued predicates valueOf)

include valued

theorem says_meantExpression (key : String) : Says valueOf (query.meantExpression key)
    ((columnOrFragment query.relation key).pieces (some query.relation)) :=
  says_expression valued.given query.relation key

theorem says_meantExpressions (keys : List String) :
    List.Forall₂ (Says valueOf) (keys.map query.meantExpression)
      ((keys.map (columnOrFragment query.relation)).map (·.pieces (some query.relation))) := by
  rw [List.map_map, List.forall₂_map_left_iff, List.forall₂_map_right_iff, List.forall₂_same]
  exact fun key _ => says_meantExpression valued key

theorem says_meantJoin (join : Sql.Join) :
    Says valueOf (query.meantJoin join) (join.pieces (some query.relation)) := by
  have source : Says valueOf (query.meantFragment join.source)
      (Sql.Template.pieces (some query.relation) join.source) :=
    says_fragment valued.given query.relation join.source
  have words : literal (" " ++ join.kind.words ++ " ") =
      .char ' ' :: literal join.kind.words ++ [.char ' '] := by
    rw [Sql.literal_append, Sql.literal_append]
    rfl
  have opening := says_append (says_words (" " ++ join.kind.words ++ " ")) source
  rw [words, List.append_assoc] at opening
  unfold meantJoin Sql.Join.pieces
  refine says_append opening ?_
  cases Text.isBlankText join.on.toList with
  | true => exact says_nil
  | false =>
      exact says_append (says_words " ON ") (says_fragment valued.given query.relation join.on)

theorem says_head (plain : query.relation.Plain) :
    Says valueOf query.head
      (Sql.Select.head (some query.relation) (query.statement predicates)) := by
  have columns : List.Forall₂ (Says valueOf)
      (Meant.idAndCreation query.relation ++ query.keys.map query.meantExpression)
      ((query.statement predicates).columns.map (·.pieces (some query.relation))) := by
    change List.Forall₂ _ _ (List.map _ (idAndCreation query.relation ++ _))
    rw [List.map_append]
    refine List.rel_append (says_idAndCreation plain) ?_
    rw [List.map_map, List.forall₂_map_left_iff, List.forall₂_map_right_iff, List.forall₂_same]
    intro key _
    change Says valueOf _ ((columnOrFragment query.relation key).pieces _ ++ [])
    rw [List.append_nil]
    exact says_meantExpression valued key
  have source : Says valueOf (Meant.words (" FROM " ++ query.relation.qualified))
      (literal " FROM " ++ literal query.relation.qualified) := by
    rw [← Sql.literal_append]
    exact says_words _
  have same : List.Forall₂ Eq query.joins query.joins := List.forall₂_same.mpr fun _ _ => rfl
  have joins : Says valueOf (query.joins.flatMap query.meantJoin)
      (query.joins.flatMap (·.pieces (some query.relation))) := by
    refine says_flatMap (fun join other eq => ?_) same
    subst eq
    exact says_meantJoin valued join
  exact says_append (says_append (says_append (says_words "SELECT ") (says_listed columns)) source)
    joins

theorem says_order :
    List.Forall₂ (Says valueOf) query.meantOrder
      (query.orderTerms.map (·.pieces (some query.relation))) := by
  unfold meantOrder orderTerms columnOrder
  cases (query.order.map (·.mapped query.mapping)).filter (!·.isEmpty) with
  | none => exact says_newestFirst
  | some order =>
      dsimp only
      rw [List.map_map, List.forall₂_map_left_iff, List.forall₂_map_right_iff, List.forall₂_same]
      rintro ⟨column, direction⟩ _
      refine says_append (says_meantExpression valued column) ?_
      cases direction with
      | ascending =>
          rw [show " " ++ Direction.ascending.word = " ASC" by decide]
          exact says_words " ASC"
      | descending =>
          rw [show " " ++ Direction.descending.word = " DESC" by decide]
          exact says_words " DESC"

theorem valueOf_limit : valueOf "limit" = .int64 query.page.meantLimit := by
  rw [valued.given "limit" (by decide)]
  unfold Restriction.given restriction
  cases query.id <;> rfl

theorem valueOf_offset : valueOf "offset" = .int64 query.page.meantOffset := by
  rw [valued.given "offset" (by decide)]
  unfold Restriction.given restriction
  cases query.id <;> rfl

theorem says_tail :
    Says valueOf query.tail
      (Sql.Select.tail (some query.relation) (query.statement predicates)) := by
  have groups := says_clause " GROUP BY " (says_meantExpressions valued query.group)
  have order := says_clause " ORDER BY " (says_order valued)
  have limit := says_append (says_words " LIMIT ") (says_slot (valueOf_limit valued))
  have offset := says_append (says_words " OFFSET ") (says_slot (valueOf_offset valued))
  have whole := says_append (says_append (says_append groups order) limit) offset
  rw [← List.append_assoc _ (Meant.words " LIMIT "),
    ← List.append_assoc _ (Meant.words " OFFSET ")] at whole
  exact whole

end GetQuery

/-! ## Writing -/

/-- Every assignment of an update gives its column the value that is meant. -/
theorem PatchQuery.says_head {query : PatchQuery} {predicates : List Predicate}
    {bindings : Bindings} (bound : query.bindings predicates = .ok bindings) :
    Says bindings.valueOf query.head
      (Sql.Update.head (some query.relation) (query.statement predicates)) := by
  have start : Says bindings.valueOf
      (Meant.words ("UPDATE " ++ query.relation.qualified ++ " SET "))
      (literal "UPDATE " ++ literal query.relation.qualified ++ literal " SET ") := by
    rw [← Sql.literal_append, ← Sql.literal_append]
    exact says_words _
  refine says_append start (says_listed ?_)
  change List.Forall₂ _ _ (List.map _ (List.map _ (withNames .set query.writable)))
  rw [List.map_map, List.forall₂_map_left_iff, List.forall₂_map_right_iff]
  apply forall₂_imp_of_mem (forall₂_withNames .set query.writable)
  rintro entry _ ⟨column, name, v⟩ member ⟨rfl, rfl⟩
  have valued : bindings.valueOf name = entry.2 := valueOf_assignment bound member
  change Says _ _ (literal entry.1 ++ literal " = " ++ [.slot name])
  rw [← Sql.literal_append]
  exact says_equation valued

namespace PostQuery

variable (query : PostQuery)

theorem says_names (valueOf : String → Value) :
    List.Forall₂ (Says valueOf) (query.values.keys.map Meant.words)
      (query.statement.columns.map (literal ·.1)) := by
  change List.Forall₂ _ (List.map _ (List.map _ _))
    (List.map _ (List.map _ (withNames .value query.values.entries)))
  rw [List.map_map, List.map_map, List.forall₂_map_left_iff, List.forall₂_map_right_iff]
  apply forall₂_imp_of_mem (forall₂_withNames .value query.values.entries)
  rintro entry _ ⟨column, name, v⟩ member ⟨rfl, rfl⟩
  exact says_words entry.1

theorem says_values :
    List.Forall₂ (Says (Bindings.valueOf (.ofList (namedValues query.columns))))
      (query.values.entries.map fun entry => [Meant.value entry.2])
      (query.statement.columns.map (·.2.pieces (some query.relation))) := by
  change List.Forall₂ _ _ (List.map _ (List.map _ (withNames .value query.values.entries)))
  rw [List.map_map, List.forall₂_map_left_iff, List.forall₂_map_right_iff]
  apply forall₂_imp_of_mem (forall₂_withNames .value query.values.entries)
  rintro entry _ ⟨column, name, v⟩ member ⟨rfl, rfl⟩
  exact says_slot (valueOf_column member)

theorem says_head :
    Says (Bindings.valueOf (.ofList (namedValues query.columns))) query.head
      (Sql.Insert.head (some query.relation) query.statement) := by
  have start : Says (Bindings.valueOf (.ofList (namedValues query.columns)))
      (Meant.words ("INSERT INTO " ++ query.relation.qualified))
      (literal "INSERT INTO " ++ literal query.relation.qualified) := by
    rw [← Sql.literal_append]
    exact says_words _
  refine says_append start ?_
  have filled : query.statement.columns.isEmpty = query.values.isEmpty := by
    change (List.map _ (withNames .value query.values.entries)).isEmpty = _
    unfold withNames Keyed.isEmpty
    cases query.values.entries <;> rfl
  rw [filled]
  cases query.values.isEmpty with
  | true => exact says_words " DEFAULT VALUES"
  | false =>
      have values := says_listed (says_values query)
      refine says_append (says_append (says_append (says_append (says_words " (") ?_)
        (says_words ") VALUES (")) values) (says_words ")")
      exact says_listed (says_names query _)

end PostQuery

/-! ## The newest row -/

namespace LastUpdateQuery

variable {query : LastUpdateQuery} {bindings : Bindings}

theorem says_head (plain : query.relation.Plain) {valueOf : String → Value} :
    Says valueOf query.head (Sql.Select.head (some query.relation) query.statement) := by
  have source : Says valueOf (Meant.words (" FROM " ++ query.relation.qualified))
      (literal " FROM " ++ literal query.relation.qualified ++ []) := by
    rw [List.append_nil, ← Sql.literal_append]
    exact says_words _
  have whole := says_append
    (says_append (says_words "SELECT ") (says_listed (says_idAndCreation plain))) source
  rw [← List.append_assoc] at whole
  exact whole

theorem says_conditions (bound : query.bindings = .ok bindings) :
    List.Forall₂
      (fun meant expr => Says bindings.valueOf meant (expr.pieces (some query.relation)))
      query.meantConditions query.statement.conditions := by
  refine List.rel_append ?_ ?_
  · unfold idConditions
    cases own : query.id with
    | none => exact .nil
    | some v => exact .cons (says_equals _ _ (valueOf_id bound own)) .nil
  · change List.Forall₂ _ _ (List.map _ (withNames .filter query.equals.entries))
    rw [List.forall₂_map_left_iff, List.forall₂_map_right_iff]
    apply forall₂_imp_of_mem (forall₂_withNames .filter query.equals.entries)
    rintro entry _ ⟨column, name, v⟩ member ⟨rfl, rfl⟩
    exact says_equals _ _ (valueOf_equation bound member)

theorem says_tail {valueOf : String → Value} :
    Says valueOf query.tail (Sql.Select.tail (some query.relation) query.statement) := by
  have newest : List.Forall₂ (Says valueOf) [Meant.newestFirst query.relation]
      ((newestFirst query.relation).map (·.pieces (some query.relation))) := says_newestFirst
  have order := says_clause " ORDER BY " newest
  have whole := says_append (says_append order (says_words " LIMIT 1")) says_nil
  rw [List.append_nil] at whole
  exact whole

end LastUpdateQuery

/-! ## Every query -/

/-- The identifier is bound under its own name. -/
theorem Restriction.Valued.valueOf_id {restriction : Restriction} {predicates : List Predicate}
    {valueOf : String → Value} (valued : restriction.Valued predicates valueOf) {v : Value}
    (held : restriction.id = some v) : valueOf "id" = v := by
  rw [valued.given "id" (by decide), Restriction.given, Restriction.own, held]
  rfl

/-- The conditions of a statement that is restricted: the one on the identifier, then the others. -/
theorem Restriction.says_conditions {restriction : Restriction} (plain : restriction.relation.Plain)
    (keys : restriction.PlainKeys) {predicates : List Predicate} {valueOf : String → Value}
    (valued : restriction.Valued predicates valueOf) :
    List.Forall₂ (fun meant expr => Says valueOf meant (expr.pieces (some restriction.relation)))
      restriction.conditions (idConditions restriction.relation restriction.id ++
        predicates.map Predicate.condition) :=
  List.rel_append (says_onId fun _ held => valued.valueOf_id held)
    (says_filtering plain keys valued)

namespace Query

variable {query : Query} {bindings : Bindings} {statement : Sql.Statement}

theorem Built.says_head (built : query.Built bindings statement) (plain : query.Plain) :
    Says bindings.valueOf query.head (statement.head (some query.relation)) := by
  cases built with
  | get made bound => exact GetQuery.says_head (GetQuery.valued bound made) plain.1
  | patch _ _ _ bound => exact PatchQuery.says_head bound
  | @delete query _ _ _ _ _ =>
      change Says _ _ (literal "DELETE FROM " ++ literal query.relation.qualified)
      rw [← Sql.literal_append]
      exact says_words _
  | post => exact PostQuery.says_head _
  | lastUpdate _ => exact LastUpdateQuery.says_head plain.1

theorem Built.says_tail (built : query.Built bindings statement) :
    Says bindings.valueOf query.tail (statement.tail (some query.relation)) := by
  cases built with
  | get made bound => exact GetQuery.says_tail (GetQuery.valued bound made)
  | patch _ _ _ _ => exact says_returning _
  | delete _ _ _ => exact says_nil
  | post => exact says_returning _
  | lastUpdate _ => exact LastUpdateQuery.says_tail

/-- A restricted query has made its predicates, and its statement has them as conditions. -/
theorem Built.restricted (built : query.Built bindings statement) {restriction : Restriction}
    (restricted : query.restriction? = some restriction) :
    ∃ predicates, restriction.relation = query.relation ∧
      restriction.Valued predicates bindings.valueOf ∧
      query.meantConditions? = some restriction.conditions ∧
      statement.conditions? = some (idConditions restriction.relation restriction.id ++
        predicates.map Predicate.condition) := by
  cases built with
  | get made bound =>
      cases restricted
      exact ⟨_, rfl, GetQuery.valued bound made, rfl, rfl⟩
  | patch _ made _ bound =>
      cases restricted
      exact ⟨_, rfl, PatchQuery.valued made bound, rfl, rfl⟩
  | delete made _ bound =>
      cases restricted
      exact ⟨_, rfl, DeleteQuery.valued made bound, rfl, rfl⟩
  | post => cases restricted
  | lastUpdate _ => cases restricted

/-- The clause of conditions, where there is one, says what is meant. -/
theorem Built.says_where (built : query.Built bindings statement) (plain : query.Plain) :
    Says bindings.valueOf (query.meantConditions?.elim [] Meant.whereTrue)
      (statement.conditions?.elim [] (Sql.whereClause (some query.relation))) := by
  cases known : query.restriction? with
  | some restriction =>
      obtain ⟨predicates, same, valued, meant, conditions⟩ := built.restricted known
      rw [meant, conditions, ← same]
      exact says_whereTrue _ (Restriction.says_conditions (same ▸ plain.1)
        (plain.2 restriction known) valued)
  | none =>
      cases built with
      | get _ _ => cases known
      | patch _ _ _ _ => cases known
      | delete _ _ _ => cases known
      | post => exact says_nil
      | lastUpdate bound => exact says_whereTrue _ (LastUpdateQuery.says_conditions bound)

/-- The statement of a query says what the query means. -/
theorem Built.says_meant (built : query.Built bindings statement) (plain : query.Plain) :
    Says bindings.valueOf query.meant (statement.pieces (some query.relation)) := by
  rw [Sql.Statement.pieces_eq]
  exact says_append (says_append (built.says_head plain) (built.says_where plain)) built.says_tail

end Query

end RelationQuery

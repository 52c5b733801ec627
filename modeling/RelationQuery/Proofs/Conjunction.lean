import RelationQuery.Proofs.Nesting
import RelationQuery.Proofs.PositionalParameters

/-!
# No alternative escapes the conjunction

The conditions of a read, an update or a deletion are joined by `AND`. All but the one on the
identifier stand in parentheses that are matched, whatever the caller has written in them, so an
`OR` of one condition never reaches another.
-/

namespace RelationQuery

open Sql (Relation Piece Expr literal textOf placeholder slotNames MadeOf isInert Inert Balanced
  Enclosed surface Nesting)

/-! ## Written text -/

/-- Text that writes what is meant, a value as the placeholder `$k` of the value at place `k`. -/
inductive Writes (params : List Value) : List Meant → List Char → Prop where
  | nil : Writes params [] []
  | char (c : Char) {meant : List Meant} {text : List Char} (rest : Writes params meant text) :
      Writes params (.char c :: meant) (c :: text)
  | value {v : Value} {place : Nat} (held : params[place]? = some v) {meant : List Meant}
      {text : List Char} (rest : Writes params meant text) :
      Writes params (.value v :: meant) (placeholder (place + 1) ++ text)
  | unsaid (place : Nat) {meant : List Meant} {text : List Char} (rest : Writes params meant text) :
      Writes params (.unsaid :: meant) (placeholder (place + 1) ++ text)

theorem Says.writes {valueOf : String → Value} {names : List String} {meant : List Meant}
    {pieces : List Piece} (said : Says valueOf meant pieces)
    (known : ∀ name, .slot name ∈ pieces → name ∈ names) :
    Writes (names.map valueOf) meant (textOf names pieces) := by
  induction said with
  | nil => exact .nil
  | cons here rest ih =>
      have later := ih fun name member => known name (List.mem_cons_of_mem _ member)
      cases here with
      | char c => exact .char c later
      | value name =>
          have held : (names.map valueOf)[names.idxOf name]? = some (valueOf name) := by
            rw [List.getElem?_map, List.getElem?_idxOf (known name List.mem_cons_self)]
            rfl
          exact .value held later
      | unsaid name => exact .unsaid (names.idxOf name) later

/-! ## Generated predicates are balanced -/

theorem inert_targetColumn {column : String} (named : Sql.isIdentifier column = true) :
    Inert (targetColumn column) :=
  (by decide : Inert "$scheme.$table.").append (Sql.inert_of_isIdentifier named)

section Generated

variable {column : String} (named : Sql.isIdentifier column = true) (counts : NameCounts)

include named

theorem inert_equation : Inert (targetColumn column ++ " = :" ++ counts.nextName) :=
  ((inert_targetColumn named).append (by decide)).append
    (Sql.inert_of_isIdentifier (isIdentifier_generatedName _ _))

theorem balanced_entryPredicate (value : FilterValue) :
    Balanced (entryPredicate counts column value).1.template.toList := by
  cases value with
  | null => exact Sql.balanced_of_inert ((inert_targetColumn named).append (by decide))
  | notNull => exact Sql.balanced_of_inert ((inert_targetColumn named).append (by decide))
  | scalar v => exact Sql.balanced_of_inert (inert_equation named counts)
  | list items =>
      have front : Inert (targetColumn column ++ " = ANY") :=
        (inert_targetColumn named).append (by decide)
      have inside : Inert (":" ++ counts.nextName) :=
        (by decide : Inert ":").append (Sql.inert_of_isIdentifier (isIdentifier_generatedName _ _))
      have text : (entryPredicate counts column (.list items)).1.template.toList =
          (targetColumn column ++ " = ANY").toList ++
            ('(' :: (":" ++ counts.nextName).toList ++ [')']) := by
        change (targetColumn column ++ " = ANY(:" ++ counts.nextName ++ ")").toList = _
        simp only [String.toList_append, List.append_assoc]
        rfl
      rw [text]
      exact Sql.balanced_append (Sql.balanced_of_inert front)
        (Sql.enclosed_of_balanced (Sql.balanced_of_inert inside)).balanced

theorem balanced_termPredicate (content : Search.Content) :
    Balanced (termPredicate counts column content).1.template.toList := by
  cases content with
  | isNull => exact Sql.balanced_of_inert ((inert_targetColumn named).append (by decide))
  | equals v orNull =>
      cases orNull with
      | false => exact Sql.balanced_of_inert (inert_equation named counts)
      | true =>
          exact Sql.balanced_of_inert ((((inert_equation named counts).append (by decide)).append
            (inert_targetColumn named)).append (by decide))

end Generated

/-- Every predicate of a restricted query is balanced when those of the caller are. -/
theorem Restriction.balanced_predicates {restriction : Restriction} (keys : restriction.PlainKeys)
    (balanced : ∀ predicate ∈ restriction.filters.explicit, Balanced predicate.template.toList)
    {predicates : List Predicate} {valueOf : String → Value}
    (valued : restriction.Valued predicates valueOf) :
    ∀ predicate ∈ predicates, Balanced predicate.template.toList := by
  intro predicate member
  obtain ⟨ofEntries, ofTerms, rfl, ⟨allowed, made⟩, _⟩ := valued.made
  rcases List.mem_append.mp member with explicit | generated
  · exact balanced predicate explicit
  rcases List.mem_append.mp generated with ofEntry | ofTerm
  · obtain ⟨entry, isEntry, counts, rfl⟩ := exists_of_forall₂_right made.entries ofEntry
    exact balanced_entryPredicate (keys.entries _ (List.mem_map_of_mem isEntry)) counts entry.2
  · obtain ⟨item, isItem, counts, rfl⟩ := exists_of_forall₂_right made.terms ofTerm
    obtain ⟨term, isTerm, rfl⟩ := List.mem_map.mp isItem
    exact balanced_termPredicate (keys.terms _ isTerm) counts term.content

/-! ## The text of conditions -/

theorem enclosed_condition {relation : Relation} (plain : relation.Plain) {predicate : Predicate}
    (balanced : Balanced predicate.template.toList) (names : List String) :
    Enclosed (textOf names (predicate.condition.pieces (some relation))) := by
  have text : textOf names (predicate.condition.pieces (some relation)) =
      '(' :: textOf names (Sql.Template.pieces (some relation) predicate.template) ++ [')'] := by
    change textOf names (.char '(' :: Sql.Template.pieces _ _ ++ [.char ')']) = _
    rw [Sql.textOf_append]
    rfl
  rw [text]
  exact Sql.enclosed_of_balanced (Sql.balanced_textOf_fragment plain balanced names)

/-- The condition on the identifier is one comparison, without quotes or parentheses. -/
theorem inert_idConditions {relation : Relation} (plain : relation.Plain) (id : Option Value)
    (names : List String) {expr : Expr} (member : expr ∈ idConditions relation id) :
    MadeOf isInert (textOf names (expr.pieces (some relation))) := by
  have id : Inert (relation.column "id") :=
    Sql.madeOf_column (fun _ => Sql.inert_of_nameChar) plain rfl (by decide)
  have column : Inert (relation.column "id" ++ " = ") := id.append (by decide)
  unfold idConditions at member
  split at member
  · rw [List.mem_singleton.mp member, idCondition, pieces_equals, Sql.textOf_append,
      Sql.textOf_literal]
    intro c inText
    rcases List.mem_append.mp inText with inColumn | inPlace
    · exact column c inColumn
    · change c ∈ placeholder _ ++ [] at inPlace
      rw [List.append_nil] at inPlace
      exact Sql.inert_placeholder _ c inPlace
  · contradiction

/-- What is met of conditions outside quotes and parentheses: the bare ones, the joining words. -/
theorem surface_conditions {bare enclosed : List (List Char)}
    (inert : ∀ condition ∈ bare, MadeOf isInert condition)
    (closed : ∀ condition ∈ enclosed, Enclosed condition) :
    surface (.level 0) ((bare ++ enclosed).flatMap (" AND ".toList ++ ·)) =
      bare.flatMap (" AND ".toList ++ ·) ++
        (List.replicate enclosed.length " AND (".toList).flatten := by
  have words : Inert " AND " := by decide
  have front : MadeOf isInert (bare.flatMap (" AND ".toList ++ ·)) := by
    intro c member
    obtain ⟨condition, isBare, inCondition⟩ := List.mem_flatMap.mp member
    exact (List.mem_append.mp inCondition).elim (words c) (inert condition isBare c)
  rw [List.flatMap_append, Sql.surface_append, Sql.surface_inert front,
    Nesting.run_inert (Nesting.sound_level 0) front]
  congr 1
  clear front
  induction enclosed with
  | nil => rfl
  | cons condition rest ih =>
      have here : Enclosed condition := closed condition List.mem_cons_self
      rw [List.flatMap_cons, Sql.surface_append, Sql.surface_append, Sql.surface_inert words,
        Nesting.run_append, Nesting.run_inert (Nesting.sound_level 0) words,
        Sql.surface_enclosed here, here.balanced,
        ih fun other member => closed other (List.mem_cons_of_mem condition member)]
      rfl

theorem textOf_whereClause (names : List String) (target : Option Relation)
    (conditions : List Expr) : textOf names (Sql.whereClause target conditions) =
      " WHERE TRUE".toList ++
        (conditions.map fun expr => textOf names (expr.pieces target)).flatMap
          (" AND ".toList ++ ·) := by
  unfold Sql.whereClause
  rw [Sql.textOf_append, Sql.textOf_literal, Sql.textOf_flatMap, List.flatMap_map]
  rfl

/-- Conditions that are said one by one are written one by one. -/
theorem writes_conditions {valueOf : String → Value} {names : List String}
    {target : Option Relation} {conditions : List (List Meant)} {exprs : List Expr}
    (said : List.Forall₂ (fun meant expr => Says valueOf meant (expr.pieces target))
      conditions exprs)
    (known : ∀ expr ∈ exprs, ∀ name, .slot name ∈ expr.pieces target → name ∈ names) :
    List.Forall₂ (Writes (names.map valueOf)) conditions
      (exprs.map fun expr => textOf names (expr.pieces target)) := by
  rw [List.forall₂_map_right_iff]
  exact forall₂_imp_of_mem said fun _ _ expr member here => here.writes (known expr member)

/-- The text of a statement with conditions, part by part. Every slot of a part is a slot of the
statement, so its name is among those that are numbered. -/
theorem Query.Built.parts {query : Query} {bindings : Bindings} {statement : Sql.Statement}
    (built : query.Built bindings statement) {conditions : List Expr}
    (known : statement.conditions? = some conditions) :
    ∃ names, (bindings.compile statement).params = names.map bindings.valueOf ∧
      (bindings.compile statement).sql.toList =
        textOf names (statement.head (some query.relation)) ++
          (" WHERE TRUE".toList ++
            (conditions.map fun expr => textOf names (expr.pieces (some query.relation))).flatMap
              (" AND ".toList ++ ·)) ++ textOf names (statement.tail (some query.relation)) ∧
      (∀ name, .slot name ∈ statement.head (some query.relation) → name ∈ names) ∧
      (∀ name, .slot name ∈ statement.tail (some query.relation) → name ∈ names) ∧
      ∀ expr ∈ conditions, ∀ name, .slot name ∈ expr.pieces (some query.relation) →
        name ∈ names := by
  have sql := bindings.sql_compile statement
  have params := bindings.params_compile statement
  have parts := Sql.Statement.pieces_eq (some query.relation) statement
  rw [known, Option.elim_some] at parts
  rw [built.relation, parts] at sql params
  refine ⟨_, params, ?_, ?_, ?_, ?_⟩
  · rw [← textOf_whereClause, ← Sql.textOf_append, ← Sql.textOf_append]
    exact sql
  · intro name member
    exact Sql.slot_mem_slotNames (List.mem_append_left _ (List.mem_append_left _ member))
  · intro name member
    exact Sql.slot_mem_slotNames (List.mem_append_right _ member)
  · intro expr isCondition name member
    have inClause : Piece.slot name ∈ Sql.whereClause (some query.relation) conditions :=
      List.mem_append_right _ (List.mem_flatMap.mpr
        ⟨expr, isCondition, List.mem_append_right _ member⟩)
    exact Sql.slot_mem_slotNames (List.mem_append_left _ (List.mem_append_right _ inClause))

/-- In the statement of a query that is restricted, the text from `WHERE TRUE` to the next clause
is the conditions in order, each behind an `AND`. All of them but the one on the identifier are
enclosed in parentheses, so outside quotes and parentheses nothing is met but that one and the
joining words. -/
theorem conditions_stay_apart {query : Query} {restriction : Restriction} {compiled : Compiled}
    (restricted : query.restriction? = some restriction) (plain : query.Plain)
    (balanced : ∀ predicate ∈ restriction.filters.explicit, Balanced predicate.template.toList)
    (made : query.compile = .ok (some compiled)) :
    ∃ before onId filtering behind,
      compiled.sql.toList = before ++
        (" WHERE TRUE".toList ++ (onId ++ filtering).flatMap (" AND ".toList ++ ·)) ++ behind ∧
      Writes compiled.params query.head before ∧ Writes compiled.params query.tail behind ∧
      List.Forall₂ (Writes compiled.params) restriction.onId onId ∧
      List.Forall₂ (Writes compiled.params) restriction.filtering filtering ∧
      (∀ condition ∈ filtering, Enclosed condition) ∧
      surface (.level 0) ((onId ++ filtering).flatMap (" AND ".toList ++ ·)) =
        onId.flatMap (" AND ".toList ++ ·) ++
          (List.replicate filtering.length " AND (".toList).flatten := by
  obtain ⟨bindings, statement, built, rfl⟩ := Query.built_of_compile made
  obtain ⟨predicates, same, valued, _, conditions⟩ := built.restricted restricted
  have keys := plain.2 restriction restricted
  have plainRelation : restriction.relation.Plain := same ▸ plain.1
  obtain ⟨names, params, sql, inHead, inTail, inConditions⟩ := built.parts conditions
  rw [params]
  rw [← same] at sql inConditions
  have enclosed : ∀ condition ∈ (predicates.map Predicate.condition).map
      (fun expr => textOf names (expr.pieces (some restriction.relation))), Enclosed condition := by
    intro condition member
    rw [List.map_map] at member
    obtain ⟨predicate, isPredicate, rfl⟩ := List.mem_map.mp member
    exact enclosed_condition plainRelation
      (Restriction.balanced_predicates keys balanced valued predicate isPredicate) names
  have inert : ∀ condition ∈ (idConditions restriction.relation restriction.id).map
      (fun expr => textOf names (expr.pieces (some restriction.relation))),
      MadeOf isInert condition := by
    intro condition member
    obtain ⟨expr, isExpr, rfl⟩ := List.mem_map.mp member
    exact inert_idConditions plainRelation restriction.id names isExpr
  rw [List.map_append] at sql
  refine ⟨_, _, _, _, sql, ?_, ?_, ?_, ?_, enclosed, surface_conditions inert enclosed⟩
  · rw [same]
    exact (built.says_head plain).writes inHead
  · rw [same]
    exact built.says_tail.writes inTail
  · exact writes_conditions (Restriction.says_onId fun _ held => valued.valueOf_id held)
      fun expr member => inConditions expr (List.mem_append_left _ member)
  · exact writes_conditions (Restriction.says_filtering plainRelation keys valued)
      fun expr member => inConditions expr (List.mem_append_right _ member)

theorem conditions_of_ownedRows : ∃ (compiled : Compiled) (before behind : List Char)
    (onId filtering : List (List Char)),
    (Query.delete ownedRows).compile = .ok (some compiled) ∧
      compiled.sql.toList = before ++
        (" WHERE TRUE".toList ++ (onId ++ filtering).flatMap (" AND ".toList ++ ·)) ++ behind ∧
      onId.length = 1 ∧ filtering.length = 2 ∧ ∀ condition ∈ filtering, Enclosed condition := by
  have balanced : ∀ predicate ∈ ownedRows.restriction.filters.explicit,
      Balanced predicate.template.toList := by
    intro predicate member
    rw [List.mem_singleton.mp member]
    decide
  have made : (Query.delete ownedRows).compile = .ok (some _) := rfl
  obtain ⟨before, onId, filtering, behind, sql, _, _, one, two, enclosed, _⟩ :=
    conditions_stay_apart rfl plain_ownedRows balanced made
  exact ⟨_, before, behind, onId, filtering, made, sql, one.length_eq.symm, two.length_eq.symm,
    enclosed⟩

end RelationQuery

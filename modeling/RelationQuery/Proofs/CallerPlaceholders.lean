import RelationQuery.Proofs.GeneratedValues
import RelationQuery.Proofs.PositionalParameters

/-!
# Placeholders that the caller only names

A fragment of the caller stands in the statement as it was written, with a number for each of its
placeholders. A placeholder that is bound neither by the query nor by a predicate of the caller is
null, unless its name is one that was generated: the prefix of generated names is refused where a
caller binds a name, and not where a fragment mentions one.
-/

namespace RelationQuery

open List (infix_append_of_infix_left infix_append_of_infix_right)
open Sql (Relation Piece Expr MadeOf isCopied literal separated slotNames textOf)

/-! ## Parts of pieces -/

theorem infix_flatMap {α β : Type} {items : List α} {item : α} (member : item ∈ items)
    (write : α → List β) : write item <:+: items.flatMap write :=
  List.infix_of_mem_flatten (List.mem_map_of_mem member)

theorem infix_separated (separator : String) {parts : List (List Piece)} {part : List Piece}
    (member : part ∈ parts) : part <:+: separated separator parts := by
  cases parts with
  | nil => cases member
  | cons first rest =>
      rw [Sql.separated_cons]
      rcases List.mem_cons.mp member with rfl | later
      · exact List.infix_append_left
      · have behind := infix_flatMap later fun other => literal separator ++ other
        exact infix_append_of_infix_right (List.infix_append_right.trans behind)

theorem infix_listClause (words : String) {parts : List (List Piece)} {part : List Piece}
    (member : part ∈ parts) : part <:+: Sql.listClause words parts := by
  unfold Sql.listClause
  rw [if_neg (by simpa using List.ne_nil_of_mem member)]
  exact infix_append_of_infix_right (infix_separated ", " member)

theorem infix_whereClause (target : Option Relation) {conditions : List Expr} {condition : Expr}
    (member : condition ∈ conditions) :
    condition.pieces target <:+: Sql.whereClause target conditions := by
  have inside := infix_flatMap member fun condition => literal " AND " ++ condition.pieces target
  exact infix_append_of_infix_right (List.infix_append_right.trans inside)

/-! ## Texts without placeholders -/

theorem slotless_of_copied {text : String} (copied : MadeOf isCopied text.toList)
    (relation : Relation) (name : String) :
    .slot name ∉ Sql.Template.pieces (some relation) text := by
  rw [Sql.pieces_eq_fragmentOf, Sql.fragmentOf_words relation copied]
  intro member
  obtain ⟨_, _, same⟩ := List.mem_map.mp member
  cases same

theorem copied_of_plainColumn {key : String} (plain : isPlainColumn key = true) :
    MadeOf isCopied key.toList := by
  have start {c : Char} (starts : isColumnStart c = true) : isCopied c = true := by
    apply Sql.copied_of_nameChar
    rcases Bool.or_eq_true_iff.mp starts with lower | underscore
    · exact Sql.nameChar_of_letter (Bool.or_eq_true_iff.mpr (.inr lower))
    · rw [beq_iff_eq.mp underscore]
      rfl
  unfold isPlainColumn at plain
  split at plain
  · cases plain
  · rename_i first rest spelled
    obtain ⟨starts, others⟩ := (Bool.and_eq_true _ _).mp plain
    rw [spelled]
    refine Sql.madeOf_cons (start starts) fun c member => ?_
    rcases Bool.or_eq_true_iff.mp (List.all_eq_true.mp others c member) with letter | digit
    · exact start letter
    · exact Sql.copied_of_nameChar (Sql.nameChar_of_digit digit)

theorem copied_of_blank {c : Char} (blank : Text.isBlank c = true) : isCopied c = true := by
  have other {d : Char} (solid : Text.isBlank d = false) : c ≠ d := by
    rintro rfl
    rw [blank] at solid
    cases solid
  simp [isCopied, Sql.isCalm, Sql.Template.isQuote, other (d := '\'') (by decide),
    other (d := '"') (by decide), other (d := '$') (by decide), other (d := ':') (by decide)]

section Slots

variable {relation : Relation} {text name : String}
  (slot : .slot name ∈ Sql.Template.pieces (some relation) text)

include slot

/-- A key with a placeholder is written as a fragment. -/
theorem columnOrFragment_of_slot : columnOrFragment relation text = .fragment text := by
  unfold columnOrFragment
  apply if_neg
  intro plain
  exact slotless_of_copied (copied_of_plainColumn plain) relation name slot

theorem not_blank_of_slot : ¬ Text.isBlankText text.toList = true := by
  intro blank
  refine slotless_of_copied (fun c member => ?_) relation name slot
  exact copied_of_blank (List.all_eq_true.mp blank c member)

end Slots

/-! ## Where fragments stand -/

theorem infix_of_head {statement : Sql.Statement} {target : Option Relation} {part : List Piece}
    (inside : part <:+: statement.head target) : part <:+: statement.pieces target := by
  rw [Sql.Statement.pieces_eq]
  exact infix_append_of_infix_left (infix_append_of_infix_left inside)

theorem infix_of_tail {statement : Sql.Statement} {target : Option Relation} {part : List Piece}
    (inside : part <:+: statement.tail target) : part <:+: statement.pieces target := by
  rw [Sql.Statement.pieces_eq]
  exact infix_append_of_infix_right inside

theorem infix_condition {statement : Sql.Statement} {conditions : List Expr}
    (known : statement.conditions? = some conditions) {condition : Expr}
    (member : condition ∈ conditions) (target : Option Relation) :
    condition.pieces target <:+: statement.pieces target := by
  rw [Sql.Statement.pieces_eq, known]
  exact infix_append_of_infix_left (infix_append_of_infix_right (infix_whereClause target member))

/-- The predicates of the caller are conditions of the statement. -/
theorem infix_explicit {filters : FilterSet} {mapping : Option KeyMapping}
    {allowed : Option (List String)} {predicates : List Predicate}
    (made : (filters.predicates mapping allowed {}).map Prod.fst = .ok predicates)
    {statement : Sql.Statement} {before : List Expr}
    (known : statement.conditions? = some (before ++ predicates.map Predicate.condition))
    {text : String} (written : text ∈ filters.explicit.map Predicate.template)
    (target : Option Relation) :
    Sql.Template.pieces target text <:+: statement.pieces target := by
  obtain ⟨ofEntries, ofTerms, rfl, _⟩ := FilterSet.exists_made made
  obtain ⟨predicate, member, rfl⟩ := List.mem_map.mp written
  have isCondition : predicate.condition ∈
      before ++ (filters.explicit ++ (ofEntries ++ ofTerms)).map Predicate.condition :=
    List.mem_append_right _ (List.mem_map_of_mem (List.mem_append_left _ member))
  refine List.IsInfix.trans ?_ (infix_condition known isCondition target)
  exact infix_append_of_infix_left (List.infix_cons List.infix_rfl)

namespace GetQuery

variable {query : GetQuery} {predicates : List Predicate} {text name : String}
  (slot : .slot name ∈ Sql.Template.pieces (some query.relation) text)

include slot

theorem infix_expression :
    Sql.Template.pieces (some query.relation) text <:+:
      (columnOrFragment query.relation text).pieces (some query.relation) := by
  rw [columnOrFragment_of_slot slot]
  exact List.infix_rfl

theorem infix_head_of_key (isKey : text ∈ query.keys) :
    Sql.Template.pieces (some query.relation) text <:+:
      Sql.Select.head (some query.relation) (query.statement predicates) := by
  have column : ({ expr := columnOrFragment query.relation text } : Sql.SelectColumn) ∈
      (query.statement predicates).columns :=
    List.mem_append_right _ (List.mem_map_of_mem isKey)
  have listed := infix_separated ", "
    (List.mem_map_of_mem (f := (·.pieces (some query.relation))) column)
  have inside := (infix_append_of_infix_left (infix_expression slot)).trans listed
  exact infix_append_of_infix_left (infix_append_of_infix_left (infix_append_of_infix_right inside))

theorem infix_head_of_join {join : Sql.Join} (isJoin : join ∈ query.joins)
    (isText : text = join.source ∨ text = join.on) :
    Sql.Template.pieces (some query.relation) text <:+:
      Sql.Select.head (some query.relation) (query.statement predicates) := by
  have here : Sql.Template.pieces (some query.relation) text <:+:
      join.pieces (some query.relation) := by
    unfold Sql.Join.pieces
    rcases isText with rfl | rfl
    · exact infix_append_of_infix_left
        (infix_append_of_infix_right (List.infix_cons List.infix_rfl))
    · rw [if_neg (not_blank_of_slot slot)]
      exact infix_append_of_infix_right List.infix_append_right
  exact infix_append_of_infix_right
    (here.trans (infix_flatMap isJoin (·.pieces (some query.relation))))

theorem infix_tail_of_group (isKey : text ∈ query.group) :
    Sql.Template.pieces (some query.relation) text <:+:
      Sql.Select.tail (some query.relation) (query.statement predicates) := by
  have listed := infix_listClause " GROUP BY " (List.mem_map_of_mem
    (f := (·.pieces (some query.relation)))
    (List.mem_map_of_mem (f := columnOrFragment query.relation) isKey))
  exact infix_append_of_infix_left (infix_append_of_infix_left (infix_append_of_infix_left
    ((infix_expression slot).trans listed)))

theorem infix_tail_of_order
    (isKey : text ∈ query.columnOrder.elim [] fun order => order.columns.keys) :
    Sql.Template.pieces (some query.relation) text <:+:
      Sql.Select.tail (some query.relation) (query.statement predicates) := by
  have term : ∃ descending, (⟨columnOrFragment query.relation text, descending⟩ : Sql.OrderTerm) ∈
      query.orderTerms := by
    unfold columnOrder at isKey
    unfold orderTerms
    cases known : (query.order.map (·.mapped query.mapping)).filter (!·.isEmpty) with
    | none =>
        rw [known] at isKey
        cases isKey
    | some order =>
        rw [known] at isKey
        obtain ⟨entry, isEntry, rfl⟩ := List.mem_map.mp isKey
        exact ⟨entry.2 == .descending, List.mem_map.mpr ⟨entry, isEntry, rfl⟩⟩
  obtain ⟨descending, isTerm⟩ := term
  have listed := infix_listClause " ORDER BY "
    (List.mem_map_of_mem (f := (·.pieces (some query.relation))) isTerm)
  have inside := (infix_append_of_infix_left (infix_expression slot)).trans listed
  exact infix_append_of_infix_left (infix_append_of_infix_left (infix_append_of_infix_right inside))

/-- Every text of the caller of a read stands in its statement. -/
theorem infix_statement (made : query.predicates = .ok predicates)
    (written : text ∈ query.fragments) :
    Sql.Template.pieces (some query.relation) text <:+:
      (query.statement predicates).pieces (some query.relation) := by
  change _ <:+: (Sql.Statement.select (query.statement predicates)).pieces (some query.relation)
  simp only [fragments, List.mem_append] at written
  rcases written with (((isPredicate | isKey) | isGroup) | isJoin) | isOrder
  · exact infix_explicit made rfl isPredicate _
  · exact infix_of_head (infix_head_of_key slot isKey)
  · exact infix_of_tail (infix_tail_of_group slot isGroup)
  · obtain ⟨join, member, isText⟩ := List.mem_flatMap.mp isJoin
    simp only [List.mem_cons, List.not_mem_nil, or_false] at isText
    exact infix_of_head (infix_head_of_join slot member isText)
  · exact infix_of_tail (infix_tail_of_order slot isOrder)

end GetQuery

/-- Every text of the caller with a placeholder stands in the statement of its query. -/
theorem Query.Built.infix_fragment {query : Query} {bindings : Bindings}
    {statement : Sql.Statement} (built : query.Built bindings statement) {text name : String}
    (written : text ∈ query.fragments)
    (slot : .slot name ∈ Sql.Template.pieces (some query.relation) text) :
    Sql.Template.pieces (some query.relation) text <:+: statement.pieces (some query.relation) := by
  cases built with
  | get made bound => exact GetQuery.infix_statement slot made written
  | patch writes made restricted bound => exact infix_explicit made rfl written _
  | delete made restricted bound => exact infix_explicit made rfl written _
  | post => cases written
  | lastUpdate bound => cases written

/-! ## What they are read as -/

/-- Where a query compiles, each placeholder of a caller's text has its number in the statement. One
that neither the query nor a predicate of the caller binds has there the value that was generated
under its name: null if the name is not reserved, and null if none was generated. -/
theorem caller_placeholders_read {query : Query} {compiled : Compiled}
    (made : query.compile = .ok (some compiled)) :
    ∃ bindings statement, query.Built bindings statement ∧
      compiled = bindings.compile statement ∧
      compiled.sql.toList =
        textOf statement.render.params (statement.pieces (some query.relation)) ∧
      ∀ text ∈ query.fragments, ∀ name,
        .slot name ∈ Sql.Template.pieces (some query.relation) text →
        name ∉ ownNames → name ∉ query.callerNames →
          Sql.Template.pieces (some query.relation) text <:+:
            statement.pieces (some query.relation) ∧
          compiled.params[statement.render.params.idxOf name]? =
            some ((query.generated.lookup name).getD .null) ∧
          (isReserved name = false → query.generated.lookup name = none) := by
  obtain ⟨bindings, statement, built, rfl⟩ := Query.built_of_compile made
  have sql := Sql.Statement.sql_render statement
  have params := bindings.params_compile statement
  rw [built.relation] at sql params
  refine ⟨bindings, statement, built, rfl, sql, ?_⟩
  intro text written name slot free unbound
  have inside := built.infix_fragment written slot
  refine ⟨inside, ?_, query.lookup_generated_of_free⟩
  have known : name ∈ slotNames (statement.pieces (some query.relation)) :=
    Sql.slot_mem_slotNames (inside.subset slot)
  rw [params, Sql.Statement.params_render, built.relation, List.getElem?_map,
    List.getElem?_idxOf known, ← built.valueOf_unbound free unbound]
  rfl

/-- A read with a predicate of the caller and a filter entry. -/
def GetQuery.comparing (template : String) : GetQuery where
  relation := ⟨"app", "users"⟩
  filters :=
    { explicit := [.bare template]
      entries := .ofList [("kind", .scalar (.text "a"))] }

/-- A placeholder named like none of the library's stays null beside a generated one. -/
theorem unbound_placeholder_is_null : ∃ (compiled : Compiled) (statement : Sql.Statement),
    (Query.get (.comparing "$scheme.$table.parent IS NOT DISTINCT FROM :f1")).compile =
        .ok (some compiled) ∧
      compiled.params[statement.render.params.idxOf "f1"]? = some .null := by
  obtain ⟨compiled, made⟩ : ∃ compiled,
      (Query.get (.comparing "$scheme.$table.parent IS NOT DISTINCT FROM :f1")).compile =
        .ok (some compiled) := ⟨_, rfl⟩
  obtain ⟨bindings, statement, _, _, _, read⟩ := caller_placeholders_read made
  have here := read _ List.mem_cons_self "f1" (by decide) (by decide) (by decide)
  have null := here.2.1
  rw [here.2.2 (by decide)] at null
  exact ⟨compiled, statement, made, null⟩

/-- A placeholder that is only mentioned, under the first generated name, takes the value of a
filter entry. -/
theorem mentioned_placeholder_takes_value :
    ¬ ∀ (query : Query) (compiled : Compiled) (bindings : Bindings) (statement : Sql.Statement),
      query.compile = .ok (some compiled) → query.Built bindings statement →
        compiled = bindings.compile statement →
        ∀ text ∈ query.fragments, ∀ name,
          .slot name ∈ Sql.Template.pieces (some query.relation) text →
          name ∉ ownNames → name ∉ query.callerNames →
            compiled.params[statement.render.params.idxOf name]? = some .null := by
  intro null
  have built : (Query.get (.comparing "$scheme.$table.owner = :_sift_f1")).Built _ _ := .get rfl rfl
  have here := null _ _ _ _ rfl built rfl "$scheme.$table.owner = :_sift_f1" List.mem_cons_self
    "_sift_f1" (by decide) (by decide) (by decide)
  have taken : some Value.null = some (.text "a") := here.symm.trans rfl
  cases taken

end RelationQuery

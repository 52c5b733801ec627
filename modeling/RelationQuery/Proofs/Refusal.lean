import RelationQuery.Proofs.Conjunction
import RelationQuery.Proofs.SearchKeys

/-!
# Writes that nothing restricts

A deletion is refused exactly when it has no identifier and no filter of any kind, and so is an
update that is not allowed to write all rows. What is not refused has at least one condition.
-/

namespace RelationQuery

open Sql (Relation Expr textOf)

/-- Neither an identifier, nor a predicate, nor an entry, nor a key in the search text. -/
structure Restriction.Absent (restriction : Restriction) : Prop where
  id : restriction.id = none
  explicit : restriction.filters.explicit = []
  entries : restriction.filters.entries.entries = []
  search : ∀ text, restriction.filters.search = some text → ¬ Search.HasKey text.toList

/-! ## Filters without predicates -/

theorem FilterSet.terms_eq_nil_iff (filters : FilterSet) :
    filters.terms = [] ↔ ∀ text, filters.search = some text → ¬ Search.HasKey text.toList := by
  unfold terms
  cases filters.search with
  | none => exact ⟨fun _ _ same => (nomatch same), fun _ => rfl⟩
  | some text =>
      rw [Search.terms_eq_nil_iff]
      exact ⟨fun absent _ same => Option.some.inj same ▸ absent, fun all => all text rfl⟩

/-- A filter comes to no predicates exactly when each of its parts is empty. -/
theorem FilterSet.predicates_eq_nil_iff (filters : FilterSet) (mapping : Option KeyMapping)
    (allowed : Option (List String)) :
    (filters.predicates mapping allowed {}).map Prod.fst = .ok [] ↔
      filters.explicit = [] ∧ filters.entries.entries = [] ∧ filters.terms = [] := by
  constructor
  · intro made
    obtain ⟨ofEntries, ofTerms, parts, shape⟩ := FilterSet.exists_made made
    obtain ⟨explicit, generated⟩ := List.append_eq_nil_iff.mp parts.symm
    obtain ⟨rfl, rfl⟩ := List.append_eq_nil_iff.mp generated
    exact ⟨explicit, List.forall₂_nil_right_iff.mp shape.entries,
      List.map_eq_nil_iff.mp (List.forall₂_nil_right_iff.mp shape.terms)⟩
  · rintro ⟨explicit, entries, terms⟩
    unfold predicates
    rw [explicit, entries, terms]
    rfl

theorem Restriction.absent_iff (restriction : Restriction) : restriction.Absent ↔
    restriction.id = none ∧ restriction.filters.explicit = [] ∧
      restriction.filters.entries.entries = [] ∧ restriction.filters.terms = [] := by
  rw [FilterSet.terms_eq_nil_iff]
  exact ⟨fun absent => ⟨absent.id, absent.explicit, absent.entries, absent.search⟩,
    fun ⟨id, explicit, entries, search⟩ => ⟨id, explicit, entries, search⟩⟩

/-! ## Other failures -/

/-- Whatever fails here, it is not for want of a filter. -/
def Unrefused {α : Type} (result : Except Cause α) : Prop := result ≠ .error .noFilterProvided

theorem unrefused_ok {α : Type} (a : α) : Unrefused (Except.ok a : Except Cause α) :=
  fun same => nomatch same

theorem Unrefused.bind {α β : Type} {result : Except Cause α} (first : Unrefused result)
    {next : α → Except Cause β} (later : ∀ a, Unrefused (next a)) :
    Unrefused (result >>= next) := by
  cases result with
  | error cause =>
      intro same
      exact first (congrArg Except.error (Except.error.inj same))
  | ok a => exact later a

theorem unrefused_checkAllowed (allowed : Option (List String)) (key : String) :
    Unrefused (checkAllowed allowed key) := by
  unfold checkAllowed
  split <;> exact fun same => nomatch same

theorem unrefused_predicatesOf {α : Type}
    (make : NameCounts → String → α → Predicate × NameCounts) (mapping : Option KeyMapping)
    (allowed : Option (List String)) (counts : NameCounts) (items : List (String × α)) :
    Unrefused (predicatesOf make mapping allowed counts items) := by
  induction items generalizing counts with
  | nil => exact unrefused_ok _
  | cons entry rest ih =>
      exact (unrefused_checkAllowed allowed entry.1).bind fun _ =>
        (ih _).bind fun _ => unrefused_ok _

theorem unrefused_predicates (filters : FilterSet) (mapping : Option KeyMapping)
    (allowed : Option (List String)) :
    Unrefused ((filters.predicates mapping allowed {}).map Prod.fst) := by
  have whole : Unrefused (filters.predicates mapping allowed {}) := by
    unfold FilterSet.predicates
    split
    · exact fun same => nomatch same
    · exact (unrefused_predicatesOf _ _ _ _ _).bind fun _ =>
        (unrefused_predicatesOf _ _ _ _ _).bind fun _ => unrefused_ok _
  cases made : filters.predicates mapping allowed {} with
  | error cause =>
      rw [made] at whole
      intro same
      exact whole (congrArg Except.error (Except.error.inj same))
  | ok found => exact unrefused_ok _

theorem unrefused_bind (bindings : Bindings) (name : String) (value : Value) :
    Unrefused (bindings.bind name value) := by
  unfold Bindings.bind
  split
  · exact unrefused_ok _
  · split <;> exact fun same => nomatch same

theorem unrefused_bindAll (bindings : Bindings) (entries : List (String × Value)) :
    Unrefused (bindings.bindAll entries) := by
  induction entries generalizing bindings with
  | nil => exact unrefused_ok _
  | cons entry rest ih => exact (unrefused_bind bindings entry.1 entry.2).bind fun _ => ih _

theorem unrefused_bindOptional (bindings : Bindings) (name : String) (value : Option Value) :
    Unrefused (bindings.bindOptional name value) := by
  cases value with
  | none => exact unrefused_ok _
  | some value => exact unrefused_bind bindings name value

/-! ## When a write is refused -/

theorem isNone_and_isEmpty_iff {id : Option Value} {predicates : List Predicate} :
    (id.isNone && predicates.isEmpty) = true ↔ id = none ∧ predicates = [] := by
  rw [Bool.and_eq_true, Option.isNone_iff_eq_none, List.isEmpty_iff]

/-- A run that makes its predicates, wants one of them or an identifier, and goes on to what does
not refuse. -/
theorem guarded_iff {α : Type} {result : Except Cause (List Predicate)} (others : Unrefused result)
    {id : Option Value} {next : List Predicate → Except Cause α}
    (onward : ∀ predicates, Unrefused (next predicates)) :
    (result >>= fun predicates =>
        if id.isNone && predicates.isEmpty then .error .noFilterProvided else next predicates) =
      .error .noFilterProvided ↔ id = none ∧ result = .ok [] := by
  cases result with
  | error cause =>
      refine ⟨fun same => absurd ?_ others, fun both => nomatch both.2⟩
      exact congrArg Except.error (Except.error.inj same)
  | ok predicates =>
      change (if id.isNone && predicates.isEmpty then _ else _) = _ ↔ _
      split
      · rename_i free
        obtain ⟨absent, rfl⟩ := isNone_and_isEmpty_iff.mp free
        exact ⟨fun _ => ⟨absent, rfl⟩, fun _ => rfl⟩
      · rename_i held
        refine ⟨fun same => absurd same (onward predicates), fun both => absurd ?_ held⟩
        exact isNone_and_isEmpty_iff.mpr ⟨both.1, Except.ok.inj both.2⟩

theorem DeleteQuery.refused_iff (query : DeleteQuery) :
    query.compile = .error .noFilterProvided ↔ query.restriction.Absent := by
  rw [Restriction.absent_iff, ← FilterSet.predicates_eq_nil_iff _ query.mapping none]
  refine guarded_iff (unrefused_predicates _ _ _) fun predicates => ?_
  have bound : Unrefused (query.bindings predicates) :=
    (unrefused_bindOptional _ _ _).bind fun _ => unrefused_bindAll _ _
  exact bound.bind fun _ => unrefused_ok _

theorem PatchQuery.refused_iff (query : PatchQuery) (writes : query.writable ≠ [])
    (guarded : query.allowUnfiltered = false) :
    query.compile = .error .noFilterProvided ↔ query.restriction.Absent := by
  rw [Restriction.absent_iff, ← FilterSet.predicates_eq_nil_iff _ query.mapping none]
  have some : query.writable.isEmpty = false := by
    cases columns : query.writable with
    | nil => exact absurd columns writes
    | cons entry rest => rfl
  unfold compile
  rw [some, guarded]
  simp only [Bool.not_false, Bool.and_true]
  refine guarded_iff (unrefused_predicates _ _ _) fun predicates => ?_
  have bound : Unrefused (query.bindings predicates) :=
    (unrefused_bindAll _ _).bind fun _ =>
      (unrefused_bindOptional _ _ _).bind fun _ => unrefused_bindAll _ _
  exact bound.bind fun _ => unrefused_ok _

/-! ## What is written of a restriction -/

/-- The text has a condition behind `WHERE TRUE`, between what is meant before and behind. -/
def Compiled.Restricted (compiled : Compiled) (head tail : List Meant) : Prop :=
  ∃ before conditions behind,
    compiled.sql.toList = before ++
      (" WHERE TRUE".toList ++ conditions.flatMap (" AND ".toList ++ ·)) ++ behind ∧
    Writes compiled.params head before ∧ Writes compiled.params tail behind ∧
    conditions ≠ [] ∧ ∀ condition ∈ conditions, condition ≠ []

theorem textOf_idConditions_ne_nil {relation : Relation} {id : Option Value} {expr : Expr}
    (member : expr ∈ idConditions relation id) (names : List String) (target : Option Relation) :
    textOf names (expr.pieces target) ≠ [] := by
  unfold idConditions at member
  split at member
  · rw [List.mem_singleton.mp member, idCondition, pieces_equals, Sql.textOf_append,
      Sql.textOf_literal, String.toList_append]
    simp
  · contradiction

theorem Query.Built.compiled_restricted {query : Query} {bindings : Bindings}
    {statement : Sql.Statement} (built : query.Built bindings statement)
    (head : Says bindings.valueOf query.head (statement.head (some query.relation)))
    {relation : Relation} {id : Option Value} {predicates : List Predicate}
    (known : statement.conditions? =
      some (idConditions relation id ++ predicates.map Predicate.condition))
    (held : (id.isNone && predicates.isEmpty) = false) :
    (bindings.compile statement).Restricted query.head query.tail := by
  obtain ⟨names, params, sql, inHead, inTail, _⟩ := built.parts known
  refine ⟨_, _, _, sql, ?_, ?_, ?_, ?_⟩
  · rw [params]
    exact head.writes inHead
  · rw [params]
    exact built.says_tail.writes inTail
  · intro none
    obtain ⟨noId, noPredicates⟩ := List.append_eq_nil_iff.mp (List.map_eq_nil_iff.mp none)
    have absent : (id.isNone && predicates.isEmpty) = true := by
      apply isNone_and_isEmpty_iff.mpr
      refine ⟨?_, List.map_eq_nil_iff.mp noPredicates⟩
      cases id with
      | none => rfl
      | some v => cases noId
    rw [held] at absent
    cases absent
  · intro condition member
    obtain ⟨expr, isCondition, rfl⟩ := List.mem_map.mp member
    rcases List.mem_append.mp isCondition with onId | filtering
    · exact textOf_idConditions_ne_nil onId names _
    · obtain ⟨predicate, _, rfl⟩ := List.mem_map.mp filtering
      exact List.cons_ne_nil _ _

theorem DeleteQuery.restricted_of_compile {query : DeleteQuery} {compiled : Compiled}
    (made : query.compile = .ok compiled) :
    compiled.Restricted (Query.delete query).head (Query.delete query).tail := by
  obtain ⟨predicates, bindings, known, restricted, bound, rfl⟩ := compile_eq_ok made
  have built : (Query.delete query).Built bindings _ := .delete known restricted bound
  refine built.compiled_restricted ?_ rfl restricted
  change Says _ _ (Sql.literal "DELETE FROM " ++ Sql.literal query.relation.qualified)
  rw [← Sql.literal_append]
  exact says_words _

theorem PatchQuery.restricted_of_compile {query : PatchQuery} {compiled : Compiled}
    (guarded : query.allowUnfiltered = false) (made : query.compile = .ok (some compiled)) :
    compiled.Restricted (Query.patch query).head (Query.patch query).tail := by
  obtain ⟨writes, predicates, bindings, known, restricted, bound, rfl⟩ := compile_eq_ok made
  have built : (Query.patch query).Built bindings _ := .patch writes known restricted bound
  rw [guarded, Bool.not_false, Bool.and_true] at restricted
  exact built.compiled_restricted (says_head bound) rfl restricted

/-- A deletion is refused for want of a filter exactly when nothing restricts it, and so is an
update that writes something and is not allowed to write all rows; those that are compiled have at
least one condition. -/
theorem refused_exactly_when_unrestricted :
    (∀ query : DeleteQuery,
      query.compile = .error .noFilterProvided ↔ query.restriction.Absent) ∧
    (∀ query : PatchQuery, query.writable ≠ [] → query.allowUnfiltered = false →
      (query.compile = .error .noFilterProvided ↔ query.restriction.Absent)) ∧
    (∀ (query : DeleteQuery) (compiled : Compiled), query.compile = .ok compiled →
      compiled.Restricted (Query.delete query).head (Query.delete query).tail) ∧
    ∀ (query : PatchQuery) (compiled : Compiled), query.allowUnfiltered = false →
      query.compile = .ok (some compiled) →
      compiled.Restricted (Query.patch query).head (Query.patch query).tail :=
  ⟨DeleteQuery.refused_iff, PatchQuery.refused_iff, fun _ _ => DeleteQuery.restricted_of_compile,
    fun _ _ => PatchQuery.restricted_of_compile⟩

/-- A colon behind a blank is no key, and one behind a letter is. -/
theorem refusal_of_deletions :
    (DeleteQuery.mk ⟨"app", "rows"⟩ none { search := some "is open : yes" } none).compile =
        .error .noFilterProvided ∧
      (DeleteQuery.mk ⟨"app", "rows"⟩ none { search := some "is-open:yes" } none).compile ≠
        .error .noFilterProvided := by
  constructor
  · apply (refused_exactly_when_unrestricted.1 _).mpr
    refine ⟨rfl, rfl, rfl, ?_⟩
    rintro _ ⟨⟩
    exact Search.find?_string_eq_none_iff.mp rfl
  · intro refused
    have absent := (refused_exactly_when_unrestricted.1 _).mp refused
    apply absent.search _ rfl
    exact ⟨'n', rfl, "is-ope".toList, "yes".toList, by decide⟩

end RelationQuery

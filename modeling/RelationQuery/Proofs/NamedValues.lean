import RelationQuery.Proofs.Compilation
import RelationQuery.Proofs.GeneratedPredicates
import RelationQuery.Proofs.Meaning

/-!
# The values behind the names of a query

Every compiler binds its values in an order of its own. Whatever the order is, a name that a caller
may write has the value that the query gives it, and a generated name has the value that it was made
for.
-/

namespace RelationQuery

/-! ## Columns with generated names -/

theorem forall₂_withNames (family : NameFamily) (entries : List (String × Value)) :
    List.Forall₂ (fun entry named => named.1 = entry.1 ∧ named.2.2 = entry.2) entries
      (withNames family entries) := by
  have paired : List.Forall₂ (fun entry named => named.1 = entry.1 ∧ named.2.2 = entry.2)
      (entries.zipIdx.map Prod.fst) (withNames family entries) := by
    unfold withNames
    rw [List.forall₂_map_left_iff, List.forall₂_map_right_iff, List.forall₂_same]
    exact fun _ _ => ⟨rfl, rfl⟩
  rwa [List.zipIdx_map_fst] at paired

/-- The names are those of the family in order. -/
theorem names_withNames (family : NameFamily) (entries : List (String × Value)) :
    (namedValues (withNames family entries)).map Prod.fst =
      (List.range' 1 entries.length).map (generatedName family) := by
  have places : (namedValues (withNames family entries)).map Prod.fst =
      (entries.zipIdx.map Prod.snd).map fun place => generatedName family (place + 1) := by
    unfold namedValues withNames
    simp only [List.map_map]
    rfl
  have shifted : List.range' 1 entries.length =
      (List.range' 0 entries.length).map (1 + ·) := (List.map_add_range' 0 entries.length 1).symm
  rw [places, List.zipIdx_map_snd, shifted, List.map_map]
  apply List.map_congr_left
  intro place _
  exact congrArg (generatedName family) (Nat.add_comm place 1)

theorem nodup_withNames (family : NameFamily) (entries : List (String × Value)) :
    ((namedValues (withNames family entries)).map Prod.fst).Nodup := by
  rw [names_withNames]
  exact nodup_generatedNames family 1 entries.length

theorem lookup_withNames {family : NameFamily} {entries : List (String × Value)}
    {named : String × String × Value} (member : named ∈ withNames family entries) :
    (namedValues (withNames family entries)).lookup named.2.1 = some named.2.2 :=
  lookup_of_mem (nodup_withNames family entries) (List.mem_map_of_mem member)

/-- A name of no such column is not among them. -/
theorem lookup_withNames_of_ne {family : NameFamily} (entries : List (String × Value))
    {name : String} (other : ∀ place, name ≠ generatedName family place) :
    (namedValues (withNames family entries)).lookup name = none := by
  apply lookup_of_not_mem
  rw [names_withNames]
  intro member
  obtain ⟨place, _, same⟩ := List.mem_map.mp member
  exact other place same.symm

theorem ne_generatedName {name : String} (free : isReserved name = false) (family : NameFamily)
    (place : Nat) : name ≠ generatedName family place := by
  rintro rfl
  exact absurd (free.symm.trans (isReserved_generatedName family place)) (fun same => nomatch same)

/-! ## Names that predicates may bind -/

/-- A name of the caller, or one generated for a filter. -/
def IsFilterName (name : String) : Prop :=
  isReserved name = false ∨ ∃ place, name = generatedName .filter place

theorem IsFilterName.ne_set {name : String} (filtering : IsFilterName name) (place : Nat) :
    name ≠ generatedName .set place := by
  rcases filtering with free | ⟨other, rfl⟩
  · exact ne_generatedName free .set place
  · intro same
    exact absurd (generatedName_inj same).1 (fun families => nomatch families)

/-- Names have the values that a restriction and its predicates give them. -/
structure Restriction.Valued (restriction : Restriction) (predicates : List Predicate)
    (valueOf : String → Value) : Prop where
  given : ∀ name, isReserved name = false →
    valueOf name = (restriction.given.lookup name).getD .null
  made : ∃ ofEntries ofTerms, predicates = restriction.filters.explicit ++ (ofEntries ++ ofTerms) ∧
    (∃ allowed, restriction.filters.Made restriction.mapping allowed ofEntries ofTerms) ∧
    ∀ predicate ∈ ofEntries ++ ofTerms, ∀ entry ∈ predicate.values.entries,
      valueOf entry.1 = entry.2

theorem Bindings.valueOf_eq {bindings : Bindings} {name : String} {held : Option Value}
    (found : bindings.get? name = held) : bindings.valueOf name = held.getD .null :=
  congrArg (Option.getD · Value.null) found

theorem Bindings.valueOf_some {bindings : Bindings} {name : String} {v : Value}
    (found : bindings.get? name = some v) : bindings.valueOf name = v :=
  valueOf_eq found

/-- Bindings that hold what the query owns, and otherwise what its predicates bind, are right. -/
theorem Restriction.valued_of_get? (restriction : Restriction) (allowed : Option (List String))
    {predicates : List Predicate} {bindings : Bindings}
    (made : (restriction.filters.predicates restriction.mapping allowed {}).map Prod.fst =
      .ok predicates)
    (callers : ∀ name ∈ restriction.own.map Prod.fst, isReserved name = false)
    (owned : ∀ name v, restriction.own.lookup name = some v → bindings.get? name = some v)
    (others : ∀ name, IsFilterName name → restriction.own.lookup name = none →
      bindings.get? name = (boundValues predicates).lookup name) :
    restriction.Valued predicates bindings.valueOf := by
  obtain ⟨ofEntries, ofTerms, rfl, shape⟩ := FilterSet.exists_made made
  refine ⟨?_, ofEntries, ofTerms, rfl, ⟨allowed, shape⟩, ?_⟩
  · intro name free
    apply Bindings.valueOf_eq
    unfold Restriction.given
    rw [List.lookup_append]
    cases own : restriction.own.lookup name with
    | some v => exact owned name v own
    | none => exact (others name (.inl free) own).trans (shape.lookup_unreserved free)
  · intro predicate member entry bound
    have known : entry.1 ∈ boundNames (ofEntries ++ ofTerms) :=
      List.mem_flatMap.mpr ⟨predicate, member, List.mem_map_of_mem bound⟩
    have unowned : restriction.own.lookup entry.1 = none := by
      apply lookup_of_not_mem
      intro own
      exact absurd ((shape.reserved known).symm.trans (callers _ own)) (fun same => nomatch same)
    obtain ⟨count, names⟩ := shape.names
    have generated : ∃ place, entry.1 = generatedName .filter place := by
      rw [names] at known
      obtain ⟨place, _, same⟩ := List.mem_map.mp known
      exact ⟨place, same.symm⟩
    have found := others entry.1 (.inr generated) unowned
    have binding : (entry.1, entry.2) ∈ predicate.values.entries := bound
    rw [shape.lookup_generated member binding] at found
    exact Bindings.valueOf_some found

/-! ## The compilers -/

/-- An identifier is bound under its own name only. -/
theorem lookup_own_id {id : Option Value} {name : String} {v : Value}
    (found : (id.toList.map ("id", ·)).lookup name = some v) : name = "id" ∧ id = some v := by
  cases id with
  | none => cases found
  | some held =>
      change ([("id", held)] : List (String × Value)).lookup name = some v at found
      rw [List.lookup_cons, List.lookup_nil] at found
      split at found
      · rename_i same
        exact ⟨beq_iff_eq.mp same, found⟩
      · cases found

theorem own_id_unreserved (id : Option Value) :
    ∀ name ∈ (id.toList.map (("id", ·) : Value → String × Value)).map Prod.fst,
      isReserved name = false := by
  cases id with
  | none => exact fun _ member => nomatch member
  | some held =>
      intro name member
      rw [List.mem_singleton.mp member]
      exact (by decide : isReserved "id" = false)

theorem DeleteQuery.valued {query : DeleteQuery} {predicates : List Predicate}
    {bindings : Bindings} (made : query.predicates = .ok predicates)
    (bound : query.bindings predicates = .ok bindings) :
    query.restriction.Valued predicates bindings.valueOf := by
  obtain ⟨first, ownBound, rest⟩ := bind_eq_ok.mp bound
  have reads (name : String) : bindings.get? name =
      ((query.id.toList.map ("id", ·)).lookup name).or ((boundValues predicates).lookup name) := by
    rw [Bindings.get?_bindPredicates rest, Bindings.get?_bindOptional ownBound]
    rfl
  have ownId : query.restriction.own = query.id.toList.map ("id", ·) := List.append_nil _
  apply Restriction.valued_of_get? query.restriction none made
  · rw [ownId]
    exact own_id_unreserved query.id
  · intro name v own
    rw [reads, ← ownId, own]
    rfl
  · intro name _ own
    rw [reads, ← ownId, own]
    rfl

/-- What an update binds: the names of the written columns, its identifier, its predicates. -/
theorem PatchQuery.get?_bindings {query : PatchQuery} {predicates : List Predicate}
    {bindings : Bindings} (bound : query.bindings predicates = .ok bindings) (name : String) :
    bindings.get? name = ((namedValues query.assignments).lookup name).or
      (((query.id.toList.map ("id", ·)).lookup name).or
        ((boundValues predicates).lookup name)) := by
  obtain ⟨first, written, rest⟩ := bind_eq_ok.mp bound
  obtain ⟨second, ownBound, rest⟩ := bind_eq_ok.mp rest
  rw [Bindings.get?_bindPredicates rest, Bindings.get?_bindOptional ownBound,
    Bindings.get?_bindAll written, Option.or_assoc]
  rfl

theorem PatchQuery.valued {query : PatchQuery} {predicates : List Predicate}
    {bindings : Bindings} (made : query.predicates = .ok predicates)
    (bound : query.bindings predicates = .ok bindings) :
    query.restriction.Valued predicates bindings.valueOf := by
  have unwritten {name : String} (filtering : IsFilterName name) :
      (namedValues query.assignments).lookup name = none :=
    lookup_withNames_of_ne query.writable filtering.ne_set
  have ownId : query.restriction.own = query.id.toList.map ("id", ·) := List.append_nil _
  apply Restriction.valued_of_get? query.restriction none made
  · rw [ownId]
    exact own_id_unreserved query.id
  · intro name v own
    have named : isReserved name = false := by
      rw [ownId] at own
      rw [(lookup_own_id own).1]
      decide
    rw [get?_bindings bound, unwritten (.inl named), ← ownId, own]
    rfl
  · intro name filtering own
    rw [get?_bindings bound, unwritten filtering, ← ownId, own]
    rfl

/-- A written column's name has the value that is written. -/
theorem PatchQuery.valueOf_assignment {query : PatchQuery} {predicates : List Predicate}
    {bindings : Bindings} (bound : query.bindings predicates = .ok bindings)
    {named : String × String × Value} (member : named ∈ query.assignments) :
    bindings.valueOf named.2.1 = named.2.2 := by
  apply Bindings.valueOf_some
  rw [get?_bindings bound, PatchQuery.assignments, lookup_withNames member]
  rfl

namespace GetQuery

variable {query : GetQuery} {predicates : List Predicate} {bindings : Bindings}

/-- The values of a page stand under two names. -/
theorem lookup_page {name : String} {v : Value}
    (found : query.restriction.page.lookup name = some v) :
    name = "limit" ∧ v = .int64 query.page.meantLimit ∨
      name = "offset" ∧ v = .int64 query.page.meantOffset := by
  change ([("limit", _), ("offset", _)] : List (String × Value)).lookup name = some v at found
  rw [List.lookup_cons, List.lookup_cons, List.lookup_nil] at found
  split at found
  · rename_i same
    exact .inl ⟨beq_iff_eq.mp same, (Option.some.inj found).symm⟩
  split at found
  · rename_i same
    exact .inr ⟨beq_iff_eq.mp same, (Option.some.inj found).symm⟩
  · cases found

theorem own_unreserved (query : GetQuery) :
    ∀ name ∈ query.restriction.own.map Prod.fst, isReserved name = false := by
  intro name member
  change name ∈ (query.id.toList.map ("id", ·) ++ [("limit", _), ("offset", _)]).map Prod.fst
    at member
  rw [List.map_append, List.mem_append] at member
  rcases member with own | page
  · exact own_id_unreserved query.id name own
  · simp only [List.map_cons, List.map_nil, List.mem_cons, List.not_mem_nil, or_false] at page
    rcases page with rfl | rfl <;> decide

variable (bound : query.bindings predicates = .ok bindings)

include bound

/-- The values of a read in the order in which they are bound. -/
theorem exists_bound : ∃ first second third,
    Bindings.bindOptional .empty "id" query.id = .ok first ∧
    first.bindPredicates predicates = .ok second ∧
    second.bind "limit" (.int64 query.page.meantLimit) = .ok third ∧
    third.bind "offset" (.int64 query.page.meantOffset) = .ok bindings := by
  obtain ⟨first, ownBound, rest⟩ := bind_eq_ok.mp bound
  obtain ⟨second, filtered, rest⟩ := bind_eq_ok.mp rest
  obtain ⟨third, limited, rest⟩ := bind_eq_ok.mp rest
  rw [query.page.effectiveLimit_eq] at limited
  rw [query.page.effectiveOffset_eq] at rest
  exact ⟨first, second, third, ownBound, filtered, limited, rest⟩

/-- What a read binds: its identifier, its predicates, its page. -/
theorem get?_bindings (name : String) : bindings.get? name =
    (((query.id.toList.map ("id", ·)).lookup name).or ((boundValues predicates).lookup name)).or
      (query.restriction.page.lookup name) := by
  obtain ⟨first, second, third, ownBound, filtered, limited, rest⟩ := exists_bound bound
  have page : query.restriction.page.lookup name =
      ([("limit", .int64 query.page.meantLimit)].lookup name).or
        ([("offset", .int64 query.page.meantOffset)].lookup name) := by
    change ([("limit", _)] ++ [("offset", _)]).lookup name = _
    exact List.lookup_append
  rw [Bindings.get?_bind rest, Bindings.get?_bind limited, Bindings.get?_bindPredicates filtered,
    Bindings.get?_bindOptional ownBound, page, Option.or_assoc]
  rfl

/-- No predicate takes a name of the query for another value. -/
theorem get?_own {name : String} {v : Value}
    (own : query.restriction.own.lookup name = some v) : bindings.get? name = some v := by
  obtain ⟨first, second, third, ownBound, filtered, limited, rest⟩ := exists_bound bound
  unfold Restriction.own at own
  rw [List.lookup_append, Option.or_eq_some_iff] at own
  rcases own with onId | ⟨_, page⟩
  · have found : (query.id.toList.map ("id", ·)).lookup name = some v := onId
    rw [get?_bindings bound, found]
    rfl
  rcases lookup_page page with ⟨rfl, rfl⟩ | ⟨rfl, rfl⟩
  · rw [Bindings.get?_bind rest, Bindings.get?_bind_int64 limited]
    rfl
  · exact Bindings.get?_bind_int64 rest

theorem valued (made : query.predicates = .ok predicates) :
    query.restriction.Valued predicates bindings.valueOf := by
  apply Restriction.valued_of_get? query.restriction query.allowed made
  · exact own_unreserved query
  · intro name v own
    exact get?_own bound own
  · intro name _ unowned
    unfold Restriction.own at unowned
    rw [List.lookup_append, Option.or_eq_none_iff] at unowned
    have unidentified : (query.id.toList.map ("id", ·)).lookup name = none := unowned.1
    rw [get?_bindings bound, unidentified, unowned.2, Option.none_or, Option.or_none]

end GetQuery

theorem PostQuery.valueOf_column {query : PostQuery} {named : String × String × Value}
    (member : named ∈ query.columns) :
    Bindings.valueOf (.ofList (namedValues query.columns)) named.2.1 = named.2.2 := by
  apply Bindings.valueOf_some
  rw [PostQuery.columns, Keyed.get?_ofList (nodup_withNames _ _)]
  exact lookup_withNames member

namespace LastUpdateQuery

theorem get?_bindings {query : LastUpdateQuery} {bindings : Bindings}
    (bound : query.bindings = .ok bindings) (name : String) :
    bindings.get? name = ((query.id.toList.map ("id", ·)).lookup name).or
      ((namedValues query.equations).lookup name) := by
  obtain ⟨first, ownBound, rest⟩ := bind_eq_ok.mp bound
  rw [Bindings.get?_bindAll rest, Bindings.get?_bindOptional ownBound]
  rfl

theorem valueOf_id {query : LastUpdateQuery} {bindings : Bindings}
    (bound : query.bindings = .ok bindings) {v : Value} (own : query.id = some v) :
    bindings.valueOf "id" = v := by
  apply Bindings.valueOf_some
  rw [get?_bindings bound, own]
  rfl

theorem valueOf_equation {query : LastUpdateQuery} {bindings : Bindings}
    (bound : query.bindings = .ok bindings) {named : String × String × Value}
    (member : named ∈ query.equations) : bindings.valueOf named.2.1 = named.2.2 := by
  apply Bindings.valueOf_some
  have found := lookup_withNames member
  rw [get?_bindings bound]
  cases own : (query.id.toList.map ("id", ·)).lookup named.2.1 with
  | none => exact found
  | some other =>
      rw [(lookup_own_id own).1,
        lookup_withNames_of_ne _ fun place => ne_generatedName (by decide) _ place] at found
      cases found

end LastUpdateQuery

end RelationQuery

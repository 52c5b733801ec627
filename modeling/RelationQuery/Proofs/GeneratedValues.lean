import RelationQuery.Proofs.NamedValues

/-!
# The values of generated names

The values of filter entries and search terms are numbered in the order in which they come, and the
values that an update writes are numbered by themselves. What a query binds beside its own names and
those of the caller is this list, and a name that is not in it is bound by nobody.
-/

namespace RelationQuery

/-! ## The list, from the query alone -/

def FilterValue.bound? : FilterValue → Option Value
  | .null => none
  | .notNull => none
  | .scalar value => some value
  | .list items => some (.array items)

def Search.Content.bound? : Search.Content → Option Value
  | .isNull => none
  | .equals value _ => some value

/-- Values under the names of a family that follow the first `given`. -/
def numbered (family : NameFamily) (given : Nat) (values : List Value) : List (String × Value) :=
  (values.zipIdx given).map fun (value, place) => (generatedName family (place + 1), value)

def FilterSet.values (filters : FilterSet) : List Value :=
  filters.entries.entries.filterMap (·.2.bound?) ++ filters.terms.filterMap (·.content.bound?)

def Query.generated : Query → List (String × Value)
  | .get query => numbered .filter 0 query.filters.values
  | .patch query =>
      numbered .set 0 (query.writable.map Prod.snd) ++ numbered .filter 0 query.filters.values
  | .delete query => numbered .filter 0 query.filters.values
  | .post query => numbered .value 0 (query.values.entries.map Prod.snd)
  | .lastUpdate query => numbered .filter 0 (query.equals.entries.map Prod.snd)

/-! ## Numbering -/

theorem numbered_append (family : NameFamily) (given : Nat) (values more : List Value) :
    numbered family given (values ++ more) =
      numbered family given values ++ numbered family (given + values.length) more := by
  unfold numbered
  rw [List.zipIdx_append, List.map_append]

theorem isReserved_of_numbered {family : NameFamily} {given : Nat} {values : List Value}
    {name : String} {value : Value} (member : (name, value) ∈ numbered family given values) :
    isReserved name = true := by
  obtain ⟨⟨_, place⟩, _, same⟩ := List.mem_map.mp member
  have spelled : generatedName family (place + 1) = name := (Prod.ext_iff.mp same).1
  rw [← spelled]
  exact isReserved_generatedName family (place + 1)

theorem namedValues_withNames (family : NameFamily) (entries : List (String × Value)) :
    namedValues (withNames family entries) = numbered family 0 (entries.map Prod.snd) := by
  unfold namedValues withNames numbered
  rw [List.zipIdx_map, List.map_map, List.map_map]
  rfl

section Making

variable {α : Type} {make : NameCounts → String → α → Predicate × NameCounts}
  {bound? : α → Option Value} {mapping : Option KeyMapping} {allowed : Option (List String)}

def Binds (make : NameCounts → String → α → Predicate × NameCounts)
    (bound? : α → Option Value) : Prop :=
  ∀ counts column item,
    (make counts column item).1.values.entries =
      numbered .filter counts.filter (bound? item).toList ∧
    (make counts column item).2.filter = counts.filter + (bound? item).toList.length

theorem boundValues_predicatesOf (binds : Binds make bound?) {counts last : NameCounts}
    {items : List (String × α)} {predicates : List Predicate}
    (made : predicatesOf make mapping allowed counts items = .ok (predicates, last)) :
    boundValues predicates =
        numbered .filter counts.filter (items.filterMap fun item => bound? item.2) ∧
      last.filter = counts.filter + (items.filterMap fun item => bound? item.2).length := by
  induction items generalizing counts predicates with
  | nil =>
      cases made
      exact ⟨rfl, rfl⟩
  | cons entry rest ih =>
      obtain ⟨later, rfl, _, made⟩ := predicatesOf_cons made
      obtain ⟨here, counted⟩ := binds counts (mapKey mapping entry.1) entry.2
      obtain ⟨behind, total⟩ := ih made
      have split : (entry :: rest).filterMap (fun item => bound? item.2) =
          (bound? entry.2).toList ++ rest.filterMap fun item => bound? item.2 := by
        rw [List.filterMap_cons]
        cases bound? entry.2 with
        | none => rfl
        | some value => rfl
      rw [split, numbered_append, List.length_append, ← Nat.add_assoc, ← counted]
      refine ⟨?_, total⟩
      change (make counts _ entry.2).1.values.entries ++ boundValues later = _
      rw [here, behind]

end Making

theorem binds_entryPredicate : Binds entryPredicate FilterValue.bound? := by
  intro counts column item
  cases item with
  | null | notNull | scalar value | list items => exact ⟨rfl, rfl⟩

theorem binds_termPredicate : Binds termPredicate Search.Content.bound? := by
  intro counts column item
  cases item with
  | isNull | equals value orNull => exact ⟨rfl, rfl⟩

/-- The predicates of entries and terms bind the values of the filter, in order. -/
theorem FilterSet.Made.boundValues {filters : FilterSet} {mapping : Option KeyMapping}
    {allowed : Option (List String)} {ofEntries ofTerms : List Predicate}
    (made : filters.Made mapping allowed ofEntries ofTerms) :
    boundValues (ofEntries ++ ofTerms) = numbered .filter 0 filters.values := by
  obtain ⟨middle, last, first, second⟩ := made.inTurn
  obtain ⟨early, counted⟩ := boundValues_predicatesOf binds_entryPredicate first
  obtain ⟨late, _⟩ := boundValues_predicatesOf binds_termPredicate second
  have terms : filters.keyedTerms.filterMap (fun item => item.2.bound?) =
      filters.terms.filterMap (·.content.bound?) := by
    unfold FilterSet.keyedTerms
    rw [List.filterMap_map]
    rfl
  rw [boundValues_append, early, late, terms, counted]
  exact (numbered_append .filter 0 _ _).symm

/-! ## What a name is bound to -/

def ownNames : List String := ["id", "limit", "offset"]

def Query.callerNames (query : Query) : List String :=
  query.restriction?.elim [] fun restriction => boundNames restriction.filters.explicit

theorem lookup_id_of_free {name : String} (free : name ∉ ownNames) (id : Option Value) :
    (id.toList.map (("id", ·) : Value → String × Value)).lookup name = none := by
  cases found : (id.toList.map (("id", ·) : Value → String × Value)).lookup name with
  | none => rfl
  | some value =>
      rw [(lookup_own_id found).1] at free
      exact absurd (by decide) free

/-- Predicates bind nothing for a name but what was generated, if the caller has not bound it. -/
theorem lookup_of_unbound {filters : FilterSet} {mapping : Option KeyMapping}
    {allowed : Option (List String)} {predicates : List Predicate}
    (made : (filters.predicates mapping allowed {}).map Prod.fst = .ok predicates)
    {name : String} (unbound : name ∉ boundNames filters.explicit) :
    (boundValues predicates).lookup name = (numbered .filter 0 filters.values).lookup name := by
  obtain ⟨ofEntries, ofTerms, rfl, shape⟩ := FilterSet.exists_made made
  rw [boundNames_eq] at unbound
  rw [boundValues_append, List.lookup_append, lookup_of_not_mem unbound, Option.none_or,
    shape.boundValues]

/-- A name of neither the query nor a predicate of its caller has the value that was generated under
it, and is null when none was. -/
theorem Query.Built.valueOf_unbound {query : Query} {bindings : Bindings}
    {statement : Sql.Statement} (built : query.Built bindings statement) {name : String}
    (free : name ∉ ownNames) (unbound : name ∉ query.callerNames) :
    bindings.valueOf name = (query.generated.lookup name).getD .null := by
  apply Bindings.valueOf_eq
  cases built with
  | @get query predicates bindings made bound =>
      have unpaged : query.restriction.page.lookup name = none := by
        cases found : query.restriction.page.lookup name with
        | none => rfl
        | some value =>
            rcases GetQuery.lookup_page found with ⟨rfl, _⟩ | ⟨rfl, _⟩
            · exact absurd (by decide) free
            · exact absurd (by decide) free
      rw [GetQuery.get?_bindings bound, lookup_id_of_free free, unpaged, Option.none_or,
        Option.or_none]
      exact lookup_of_unbound made unbound
  | @patch query predicates bindings writes made restricted bound =>
      rw [PatchQuery.get?_bindings bound, lookup_id_of_free free, Option.none_or,
        lookup_of_unbound made unbound, PatchQuery.assignments, namedValues_withNames,
        ← List.lookup_append]
      rfl
  | @delete query predicates bindings made restricted bound =>
      obtain ⟨first, ownBound, rest⟩ := bind_eq_ok.mp bound
      have empty : Keyed.get? (.empty : Bindings) name = none := rfl
      rw [Bindings.get?_bindPredicates rest, Bindings.get?_bindOptional ownBound,
        lookup_id_of_free free, empty, Option.none_or, Option.none_or]
      exact lookup_of_unbound made unbound
  | @post query =>
      rw [PostQuery.columns, Keyed.get?_ofList (nodup_withNames _ _), namedValues_withNames]
      rfl
  | @lastUpdate query bindings bound =>
      rw [LastUpdateQuery.get?_bindings bound, lookup_id_of_free free, Option.none_or,
        LastUpdateQuery.equations, namedValues_withNames]
      rfl

/-- Generated names are reserved. -/
theorem Query.lookup_generated_of_free (query : Query) {name : String}
    (free : isReserved name = false) : query.generated.lookup name = none := by
  apply lookup_of_not_mem
  intro member
  obtain ⟨⟨other, value⟩, isGenerated, same⟩ := List.mem_map.mp member
  have same : other = name := same
  subst same
  have reserved : isReserved other = true := by
    cases query with
    | get query => exact isReserved_of_numbered isGenerated
    | patch query =>
        rcases List.mem_append.mp isGenerated with written | filtered
        · exact isReserved_of_numbered written
        · exact isReserved_of_numbered filtered
    | delete query => exact isReserved_of_numbered isGenerated
    | post query => exact isReserved_of_numbered isGenerated
    | lastUpdate query => exact isReserved_of_numbered isGenerated
  rw [free] at reserved
  cases reserved

end RelationQuery

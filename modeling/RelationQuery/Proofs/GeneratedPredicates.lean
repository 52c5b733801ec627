import Mathlib.Data.List.Forall2
import Mathlib.Data.List.Nodup
import RelationQuery.Proofs.BoundValues
import RelationQuery.Proofs.Targets

/-!
# Predicates of a filter

The predicates of filter entries and search terms are made one by one, each with the counts that the
one before has left. Their placeholders are the generated names in order, so no two are alike and
none is a name that a caller may bind.
-/

namespace RelationQuery

/-! ## Generated names -/

theorem toList_generatedName (family : NameFamily) (place : Nat) :
    (generatedName family place).toList =
      generatedPrefix.toList ++ (family.letter.toList ++ Nat.toDigits 10 place) := by
  change (generatedPrefix ++ family.letter ++ toString place).toList = _
  rw [String.toList_append, String.toList_append, Nat.toString_eq_repr, Nat.toList_repr,
    List.append_assoc]

theorem isReserved_generatedName (family : NameFamily) (place : Nat) :
    isReserved (generatedName family place) = true := by
  unfold isReserved
  rw [toList_generatedName]
  exact List.isPrefixOf_iff_prefix.mpr (List.prefix_append _ _)

theorem generatedName_inj {family other : NameFamily} {place place' : Nat}
    (same : generatedName family place = generatedName other place') :
    family = other ∧ place = place' := by
  have texts := congrArg String.toList same
  rw [toList_generatedName, toList_generatedName] at texts
  have tails := List.append_cancel_left texts
  have families : family = other := by
    cases family <;> cases other <;> simp_all [NameFamily.letter]
  subst families
  have digits := congrArg (fun text => Nat.ofDigitChars 10 text 0) (List.append_cancel_left tails)
  exact ⟨rfl, by simpa [Nat.ofDigitChars_ten_toDigits] using digits⟩

theorem isIdentifier_generatedName (family : NameFamily) (place : Nat) :
    Sql.isIdentifier (generatedName family place) = true := by
  have spelled := toList_generatedName family place
  have letters : Sql.MadeOf Sql.Template.isNameChar family.letter.toList := by
    cases family <;> decide
  have digits : Sql.MadeOf Sql.Template.isNameChar (Nat.toDigits 10 place) := by
    intro c member
    have digit := Nat.isDigit_of_mem_toDigits (by decide) (by decide) member
    exact Sql.nameChar_of_digit digit
  unfold Sql.isIdentifier
  rw [spelled]
  change (Sql.Template.isNameStart '_' && List.all (['s', 'i', 'f', 't', '_'] ++ _) _) = true
  rw [List.all_append, List.all_append, List.all_eq_true.mpr letters, List.all_eq_true.mpr digits]
  rfl

theorem nodup_generatedNames (family : NameFamily) (first count : Nat) :
    ((List.range' first count).map (generatedName family)).Nodup :=
  List.Nodup.map (fun _ _ same => (generatedName_inj same).2) List.nodup_range'

/-! ## Making predicates -/

section Making

variable {α : Type} {make : NameCounts → String → α → Predicate × NameCounts}
  {mapping : Option KeyMapping} {allowed : Option (List String)}

theorem predicatesOf_cons {counts last : NameCounts} {entry : String × α}
    {rest : List (String × α)} {predicates : List Predicate}
    (made : predicatesOf make mapping allowed counts (entry :: rest) = .ok (predicates, last)) :
    ∃ later, predicates = (make counts (mapKey mapping entry.1) entry.2).1 :: later ∧
      checkAllowed allowed entry.1 = .ok () ∧
      predicatesOf make mapping allowed (make counts (mapKey mapping entry.1) entry.2).2 rest =
        .ok (later, last) := by
  obtain ⟨key, item⟩ := entry
  obtain ⟨_, permitted, made⟩ := bind_eq_ok.mp made
  obtain ⟨⟨later, counts'⟩, made, same⟩ := bind_eq_ok.mp made
  cases same
  exact ⟨later, rfl, permitted, made⟩

theorem exists_of_forall₂_right {β : Type} {Pair : α → β → Prop} {items : List α}
    {others : List β} (paired : List.Forall₂ Pair items others) {b : β} (member : b ∈ others) :
    ∃ a ∈ items, Pair a b := by
  induction paired with
  | nil => contradiction
  | cons first rest ih =>
      rcases List.mem_cons.mp member with rfl | later
      · exact ⟨_, List.mem_cons_self, first⟩
      · obtain ⟨a, isItem, pair⟩ := ih later
        exact ⟨a, List.mem_cons_of_mem _ isItem, pair⟩

/-- Each predicate is made from its item, with some counts. -/
theorem forall₂_predicatesOf {counts last : NameCounts} {items : List (String × α)}
    {predicates : List Predicate}
    (made : predicatesOf make mapping allowed counts items = .ok (predicates, last)) :
    List.Forall₂ (fun entry predicate =>
      ∃ counts, predicate = (make counts (mapKey mapping entry.1) entry.2).1) items predicates := by
  induction items generalizing counts predicates with
  | nil =>
      cases made
      exact .nil
  | cons entry rest ih =>
      obtain ⟨later, rfl, _, made⟩ := predicatesOf_cons made
      exact .cons ⟨counts, rfl⟩ (ih made)

def Numbers (make : NameCounts → String → α → Predicate × NameCounts) : Prop :=
  ∀ counts column item, ∃ taken,
    (make counts column item).2.filter = counts.filter + taken ∧
    (make counts column item).1.values.keys =
      (List.range' (counts.filter + 1) taken).map (generatedName .filter)

/-- The names of a list of predicates are those behind the names given before. -/
theorem boundNames_predicatesOf (numbers : Numbers make) {counts last : NameCounts}
    {items : List (String × α)} {predicates : List Predicate}
    (made : predicatesOf make mapping allowed counts items = .ok (predicates, last)) :
    ∃ taken, last.filter = counts.filter + taken ∧ boundNames predicates =
      (List.range' (counts.filter + 1) taken).map (generatedName .filter) := by
  induction items generalizing counts predicates with
  | nil =>
      cases made
      exact ⟨0, rfl, rfl⟩
  | cons entry rest ih =>
      obtain ⟨later, rfl, _, made⟩ := predicatesOf_cons made
      obtain ⟨here, counted, names⟩ := numbers counts (mapKey mapping entry.1) entry.2
      obtain ⟨behind, total, others⟩ := ih made
      refine ⟨here + behind, by omega, ?_⟩
      change (make counts _ entry.2).1.values.keys ++ boundNames later = _
      rw [names, others, counted, ← List.map_append, ← List.range'_append_1,
        show counts.filter + here + 1 = counts.filter + 1 + here by omega]

end Making

theorem numbers_entryPredicate : Numbers entryPredicate := by
  intro counts column item
  cases item with
  | null => exact ⟨0, rfl, rfl⟩
  | notNull => exact ⟨0, rfl, rfl⟩
  | scalar value => exact ⟨1, rfl, rfl⟩
  | list items => exact ⟨1, rfl, rfl⟩

theorem numbers_termPredicate : Numbers termPredicate := by
  intro counts column item
  cases item with
  | isNull => exact ⟨0, rfl, rfl⟩
  | equals value orNull => exact ⟨1, rfl, rfl⟩

/-! ## All the predicates of a filter -/

theorem boundNames_eq (predicates : List Predicate) :
    boundNames predicates = (boundValues predicates).map Prod.fst :=
  (List.map_flatMap ..).symm

@[simp] theorem boundValues_append (front back : List Predicate) :
    boundValues (front ++ back) = boundValues front ++ boundValues back :=
  List.flatMap_append

@[simp] theorem boundNames_append (front back : List Predicate) :
    boundNames (front ++ back) = boundNames front ++ boundNames back :=
  List.flatMap_append

/-- The key and the content of every term, as the predicates of terms take them. -/
def FilterSet.keyedTerms (filters : FilterSet) : List (String × Search.Content) :=
  filters.terms.map fun term => (term.key, term.content)

/-- Which predicates are those of the entries and of the terms of a filter. -/
structure FilterSet.Made (filters : FilterSet) (mapping : Option KeyMapping)
    (allowed : Option (List String)) (ofEntries ofTerms : List Predicate) : Prop where
  unreserved : ∀ name ∈ boundNames filters.explicit, isReserved name = false
  /-- The terms go on where the entries have stopped counting. -/
  inTurn : ∃ middle last,
    predicatesOf entryPredicate mapping allowed {} filters.entries.entries =
      .ok (ofEntries, middle) ∧
    predicatesOf termPredicate mapping allowed middle filters.keyedTerms = .ok (ofTerms, last)

/-- The predicates of a filter are those of the caller, of the entries and of the terms. -/
theorem FilterSet.exists_made {filters : FilterSet} {mapping : Option KeyMapping}
    {allowed : Option (List String)} {predicates : List Predicate}
    (made : (filters.predicates mapping allowed {}).map Prod.fst = .ok predicates) :
    ∃ ofEntries ofTerms, predicates = filters.explicit ++ (ofEntries ++ ofTerms) ∧
      filters.Made mapping allowed ofEntries ofTerms := by
  unfold FilterSet.predicates at made
  cases found : (boundNames filters.explicit).find? isReserved with
  | some name =>
      rw [found] at made
      cases made
  | none =>
      rw [found] at made
      have unreserved : ∀ name ∈ boundNames filters.explicit, isReserved name = false := by
        simpa using found
      cases result : predicatesOf entryPredicate mapping allowed {} filters.entries.entries with
      | error cause =>
          rw [result] at made
          cases made
      | ok first =>
          obtain ⟨ofEntries, middle⟩ := first
          rw [result] at made
          change (Except.map Prod.fst (do
            let second ← predicatesOf termPredicate mapping allowed middle filters.keyedTerms
            .ok (filters.explicit ++ ofEntries ++ second.1, second.2))) = _ at made
          cases next : predicatesOf termPredicate mapping allowed middle filters.keyedTerms with
          | error cause =>
              rw [next] at made
              cases made
          | ok second =>
              obtain ⟨ofTerms, last⟩ := second
              rw [next] at made
              have whole : filters.explicit ++ ofEntries ++ ofTerms = predicates :=
                Except.ok.inj made
              exact ⟨ofEntries, ofTerms, by rw [← whole, List.append_assoc],
                ⟨unreserved, middle, last, result, next⟩⟩

namespace FilterSet.Made

variable {filters : FilterSet} {mapping : Option KeyMapping} {allowed : Option (List String)}
  {ofEntries ofTerms : List Predicate}

theorem entries (made : filters.Made mapping allowed ofEntries ofTerms) :
    List.Forall₂ (fun entry predicate =>
      ∃ counts, predicate = (entryPredicate counts (mapKey mapping entry.1) entry.2).1)
      filters.entries.entries ofEntries := by
  obtain ⟨middle, last, first, _⟩ := made.inTurn
  exact forall₂_predicatesOf first

theorem terms (made : filters.Made mapping allowed ofEntries ofTerms) :
    List.Forall₂ (fun term predicate =>
      ∃ counts, predicate = (termPredicate counts (mapKey mapping term.1) term.2).1)
      filters.keyedTerms ofTerms := by
  obtain ⟨middle, last, _, second⟩ := made.inTurn
  exact forall₂_predicatesOf second

/-- The generated placeholders are the first names of their family. -/
theorem names (made : filters.Made mapping allowed ofEntries ofTerms) :
    ∃ count, boundNames (ofEntries ++ ofTerms) =
      (List.range' 1 count).map (generatedName .filter) := by
  obtain ⟨middle, last, first, second⟩ := made.inTurn
  obtain ⟨few, counted, early⟩ := boundNames_predicatesOf numbers_entryPredicate first
  obtain ⟨more, _, late⟩ := boundNames_predicatesOf numbers_termPredicate second
  have start : middle.filter = few := by simpa using counted
  refine ⟨few + more, ?_⟩
  rw [boundNames_append, early, late, start, ← List.map_append, ← List.range'_append_1]
  rw [Nat.add_comm 1 few]

theorem reserved (made : filters.Made mapping allowed ofEntries ofTerms) {name : String}
    (member : name ∈ boundNames (ofEntries ++ ofTerms)) : isReserved name = true := by
  obtain ⟨count, names⟩ := made.names
  rw [names] at member
  obtain ⟨place, _, rfl⟩ := List.mem_map.mp member
  exact isReserved_generatedName .filter place

/-- A generated placeholder has the value that its own predicate binds. -/
theorem lookup_generated (made : filters.Made mapping allowed ofEntries ofTerms)
    {predicate : Predicate} (member : predicate ∈ ofEntries ++ ofTerms) {name : String}
    {value : Value} (bound : (name, value) ∈ predicate.values.entries) :
    (boundValues (filters.explicit ++ (ofEntries ++ ofTerms))).lookup name = some value := by
  have here : (name, value) ∈ boundValues (ofEntries ++ ofTerms) :=
    List.mem_flatMap.mpr ⟨predicate, member, bound⟩
  have known : name ∈ boundNames (ofEntries ++ ofTerms) := by
    rw [boundNames_eq]
    exact List.mem_map_of_mem here
  have unmet : name ∉ (boundValues filters.explicit).map Prod.fst := by
    rw [← boundNames_eq]
    intro early
    exact absurd ((made.reserved known).symm.trans (made.unreserved name early))
      (fun same => nomatch same)
  have distinct : ((boundValues (ofEntries ++ ofTerms)).map Prod.fst).Nodup := by
    obtain ⟨count, names⟩ := made.names
    rw [← boundNames_eq, names]
    exact nodup_generatedNames .filter 1 count
  rw [boundValues_append, List.lookup_append, lookup_of_not_mem unmet,
    lookup_of_mem distinct here]
  rfl

/-- A name of the caller has the value that the first predicate of the caller binds. -/
theorem lookup_unreserved (made : filters.Made mapping allowed ofEntries ofTerms) {name : String}
    (free : isReserved name = false) :
    (boundValues (filters.explicit ++ (ofEntries ++ ofTerms))).lookup name =
      (boundValues filters.explicit).lookup name := by
  have unmet : name ∉ (boundValues (ofEntries ++ ofTerms)).map Prod.fst := by
    rw [← boundNames_eq]
    intro member
    exact absurd ((made.reserved member).symm.trans free) (fun same => nomatch same)
  rw [boundValues_append, List.lookup_append, lookup_of_not_mem unmet, Option.or_none]

end FilterSet.Made

end RelationQuery

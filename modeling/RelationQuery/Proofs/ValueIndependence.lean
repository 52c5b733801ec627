import RelationQuery.Proofs.Compilation
import RelationQuery.Proofs.GeneratedPredicates
import RelationQuery.Proofs.NamedValues

/-!
# No value reaches the text

Two queries that differ in nothing but their values are compiled step by step to the same templates
under the same names. Their statements are one statement, so whatever a value is, it can neither
change the text nor the number of placeholders.
-/

namespace RelationQuery

/-! ## Alike but for values -/

inductive FilterValue.Alike : FilterValue → FilterValue → Prop where
  | null : Alike .null .null
  | notNull : Alike .notNull .notNull
  | scalar (v w : Value) : Alike (.scalar v) (.scalar w)
  | list (items others : List Value) : Alike (.list items) (.list others)

/-- Contents of one kind, which accept null both or neither. -/
inductive Search.Content.Alike : Search.Content → Search.Content → Prop where
  | isNull : Alike .isNull .isNull
  | equals (v w : Value) (orNull : Bool) : Alike (.equals v orNull) (.equals w orNull)

def KeyedAlike {α : Type} (Pair : α → α → Prop) (a b : String × α) : Prop :=
  a.1 = b.1 ∧ Pair a.2 b.2

structure FilterSet.Alike (a b : FilterSet) : Prop where
  explicit : a.explicit.map Predicate.template = b.explicit.map Predicate.template
  entries : List.Forall₂ (KeyedAlike FilterValue.Alike) a.entries.entries b.entries.entries
  terms : List.Forall₂
    (fun term other => term.key = other.key ∧ term.content.Alike other.content) a.terms b.terms

/-- Queries of one kind that agree in everything but the values that they carry. -/
inductive Query.Alike : Query → Query → Prop where
  | get {a b : GetQuery} (relation : a.relation = b.relation)
      (id : a.id.isSome = b.id.isSome) (keys : a.keys = b.keys)
      (filters : a.filters.Alike b.filters) (order : a.order = b.order)
      (group : a.group = b.group) (joins : a.joins = b.joins) (mapping : a.mapping = b.mapping) :
      Alike (.get a) (.get b)
  | patch {a b : PatchQuery} (relation : a.relation = b.relation)
      (id : a.id.isSome = b.id.isSome) (data : a.data.keys = b.data.keys)
      (filters : a.filters.Alike b.filters) (mapping : a.mapping = b.mapping)
      (returning : a.returning = b.returning) : Alike (.patch a) (.patch b)
  | delete {a b : DeleteQuery} (relation : a.relation = b.relation)
      (id : a.id.isSome = b.id.isSome) (filters : a.filters.Alike b.filters)
      (mapping : a.mapping = b.mapping) : Alike (.delete a) (.delete b)
  | post {a b : PostQuery} (relation : a.relation = b.relation)
      (values : a.values.keys = b.values.keys) (returning : a.returning = b.returning) :
      Alike (.post a) (.post b)
  | lastUpdate {a b : LastUpdateQuery} (relation : a.relation = b.relation)
      (id : a.id.isSome = b.id.isSome) (equals : a.equals.keys = b.equals.keys) :
      Alike (.lastUpdate a) (.lastUpdate b)

/-! ## The same templates -/

/-- Items of one kind become one template and take the same number of names. -/
def Uniform {α : Type} (make : NameCounts → String → α → Predicate × NameCounts)
    (Pair : α → α → Prop) : Prop :=
  ∀ counts column a b, Pair a b →
    (make counts column a).1.template = (make counts column b).1.template ∧
      (make counts column a).2 = (make counts column b).2

theorem uniform_entryPredicate : Uniform entryPredicate FilterValue.Alike := by
  intro counts column a b alike
  cases alike with
  | null => exact ⟨rfl, rfl⟩
  | notNull => exact ⟨rfl, rfl⟩
  | scalar v w => exact ⟨rfl, rfl⟩
  | list items others => exact ⟨rfl, rfl⟩

theorem uniform_termPredicate : Uniform termPredicate Search.Content.Alike := by
  intro counts column a b alike
  cases alike with
  | isNull => exact ⟨rfl, rfl⟩
  | equals v w orNull => exact ⟨rfl, rfl⟩

/-- Two runs over items that are alike go through the same counts. -/
theorem templates_predicatesOf {α : Type}
    {make : NameCounts → String → α → Predicate × NameCounts} {Pair : α → α → Prop}
    (uniform : Uniform make Pair) {mapping : Option KeyMapping}
    {allowed allowed' : Option (List String)} {counts last last' : NameCounts}
    {items others : List (String × α)} (paired : List.Forall₂ (KeyedAlike Pair) items others)
    {predicates predicates' : List Predicate}
    (made : predicatesOf make mapping allowed counts items = .ok (predicates, last))
    (made' : predicatesOf make mapping allowed' counts others = .ok (predicates', last')) :
    predicates.map Predicate.template = predicates'.map Predicate.template ∧ last = last' := by
  induction paired generalizing counts predicates predicates' with
  | nil =>
      cases made
      cases made'
      exact ⟨rfl, rfl⟩
  | @cons entry other _ _ alike rest ih =>
      obtain ⟨later, rfl, _, made⟩ := predicatesOf_cons made
      obtain ⟨later', rfl, _, made'⟩ := predicatesOf_cons made'
      obtain ⟨key, item⟩ := alike
      obtain ⟨template, step⟩ := uniform counts (mapKey mapping entry.1) entry.2 other.2 item
      rw [← key, ← step] at made'
      obtain ⟨templates, lasts⟩ := ih made made'
      refine ⟨?_, lasts⟩
      rw [List.map_cons, List.map_cons, templates, template, key]

theorem FilterSet.Alike.templates {a b : FilterSet} (alike : a.Alike b)
    {mapping : Option KeyMapping} {allowed allowed' : Option (List String)}
    {predicates predicates' : List Predicate}
    (made : (a.predicates mapping allowed {}).map Prod.fst = .ok predicates)
    (made' : (b.predicates mapping allowed' {}).map Prod.fst = .ok predicates') :
    predicates.map Predicate.template = predicates'.map Predicate.template := by
  obtain ⟨ofEntries, ofTerms, rfl, shape⟩ := FilterSet.exists_made made
  obtain ⟨ofEntries', ofTerms', rfl, shape'⟩ := FilterSet.exists_made made'
  obtain ⟨middle, last, first, second⟩ := shape.inTurn
  obtain ⟨middle', last', first', second'⟩ := shape'.inTurn
  obtain ⟨entries, middles⟩ :=
    templates_predicatesOf uniform_entryPredicate alike.entries first first'
  rw [← middles] at second'
  have paired : List.Forall₂ (KeyedAlike Search.Content.Alike) a.keyedTerms b.keyedTerms := by
    unfold keyedTerms
    rw [List.forall₂_map_left_iff, List.forall₂_map_right_iff]
    exact alike.terms
  obtain ⟨terms, _⟩ := templates_predicatesOf uniform_termPredicate paired second second'
  rw [List.map_append, List.map_append, List.map_append, List.map_append, alike.explicit, entries,
    terms]

/-! ## The same statement -/

theorem map_condition (predicates : List Predicate) : predicates.map Predicate.condition =
    (predicates.map Predicate.template).map fun template => .nested (.fragment template) := by
  rw [List.map_map]
  rfl

theorem idConditions_of_isSome {relation : Sql.Relation} {id other : Option Value}
    (same : id.isSome = other.isSome) : idConditions relation id = idConditions relation other := by
  unfold idConditions
  rw [same]

/-- What is written of columns and the names of their values depends on the columns alone. -/
theorem map_withNames {β : Type} (family : NameFamily) {entries others : List (String × Value)}
    (columns : entries.map Prod.fst = others.map Prod.fst) (write : String × String × Value → β)
    (blind : ∀ column name v, write (column, name, v) = write (column, name, .null)) :
    (withNames family entries).map write = (withNames family others).map write := by
  have byColumn (entries : List (String × Value)) :
      (withNames family entries).map write = (entries.map Prod.fst).zipIdx.map
        fun (column, place) => write (column, generatedName family (place + 1), .null) := by
    unfold withNames
    rw [List.zipIdx_map, List.map_map, List.map_map]
    apply List.map_congr_left
    intro entry _
    exact blind _ _ _
  rw [byColumn, byColumn, columns]

theorem PatchQuery.columns_writable (query : PatchQuery) : query.writable.map Prod.fst =
    query.data.keys.filter fun column => !protectedColumns.contains column := by
  unfold writable Keyed.keys
  rw [List.filter_map]
  rfl

theorem Query.Alike.statement {a b : Query} (alike : a.Alike b) {bindings bindings' : Bindings}
    {statement statement' : Sql.Statement} (built : a.Built bindings statement)
    (built' : b.Built bindings' statement') : statement = statement' := by
  cases alike with
  | @get a b relation id keys filters order group joins mapping =>
      cases built with
      | get made _ =>
      cases built' with
      | get made' _ =>
      unfold GetQuery.predicates at made made'
      rw [← mapping] at made'
      have templates := filters.templates made made'
      unfold GetQuery.statement GetQuery.orderTerms
      rw [relation, keys, order, group, joins, mapping, idConditions_of_isSome id, map_condition,
        templates, ← map_condition]
  | @patch a b relation id data filters mapping returning =>
      cases built with
      | patch _ made _ _ =>
      cases built' with
      | patch _ made' _ _ =>
      unfold PatchQuery.predicates at made made'
      rw [← mapping] at made'
      have templates := filters.templates made made'
      have columns : a.writable.map Prod.fst = b.writable.map Prod.fst := by
        rw [PatchQuery.columns_writable, PatchQuery.columns_writable, data]
      unfold PatchQuery.statement PatchQuery.assignments
      rw [relation, returning, idConditions_of_isSome id, map_condition, templates,
        ← map_condition, map_withNames .set columns _ fun _ _ _ => rfl]
  | delete relation id filters mapping =>
      cases built with
      | delete made _ _ =>
      cases built' with
      | delete made' _ _ =>
      unfold DeleteQuery.predicates at made made'
      rw [← mapping] at made'
      have templates := filters.templates made made'
      unfold DeleteQuery.statement
      rw [relation, idConditions_of_isSome id, map_condition, templates, ← map_condition]
  | @post a b relation values returning =>
      cases built
      cases built'
      have columns : a.values.entries.map Prod.fst = b.values.entries.map Prod.fst := values
      unfold PostQuery.statement PostQuery.columns
      rw [relation, returning, map_withNames .value columns _ fun _ _ _ => rfl]
  | @lastUpdate a b relation id equals =>
      cases built
      cases built'
      have columns : a.equals.entries.map Prod.fst = b.equals.entries.map Prod.fst := equals
      unfold LastUpdateQuery.statement LastUpdateQuery.equations
      rw [relation, idConditions_of_isSome id, map_withNames .filter columns _ fun _ _ _ => rfl]

/-- Whenever two queries that agree but for their values are both compiled, their texts are equal
and they have the same number of values. -/
theorem values_stay_out_of_text {a b : Query} (alike : a.Alike b) {first second : Compiled}
    (made : a.compile = .ok (some first)) (made' : b.compile = .ok (some second)) :
    first.sql = second.sql ∧ first.params.length = second.params.length := by
  obtain ⟨bindings, statement, built, rfl⟩ := Query.built_of_compile made
  obtain ⟨bindings', statement', built', rfl⟩ := Query.built_of_compile made'
  cases alike.statement built built'
  refine ⟨rfl, ?_⟩
  change (statement.render.params.map _).length = (statement.render.params.map _).length
  rw [List.length_map, List.length_map]

def handOver (id owner : Value) : PatchQuery where
  relation := ⟨"app", "rows"⟩
  id := some id
  data := .ofList [("owner", owner)]

theorem values_stay_out_of_handOver : ∃ first second : Compiled,
    (Query.patch (handOver (.int64 1) .null)).compile = .ok (some first) ∧
    (Query.patch (handOver (.text "1 OR TRUE") (.text "ann"))).compile = .ok (some second) ∧
    first.sql = second.sql ∧ first.params.length = second.params.length := by
  have alike : (Query.patch (handOver (.int64 1) .null)).Alike
      (Query.patch (handOver (.text "1 OR TRUE") (.text "ann"))) :=
    .patch rfl rfl rfl ⟨rfl, .nil, .nil⟩ rfl rfl
  exact ⟨_, _, rfl, rfl, values_stay_out_of_text alike rfl rfl⟩

end RelationQuery

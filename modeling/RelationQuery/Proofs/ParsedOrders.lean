import RelationQuery.Proofs.ReadDocuments
import RelationQuery.Request

/-!
# Orders as texts and as objects

The order of a request comes as text or as an object. Of one JSON text both carry the same columns
with the same directions, and of the rest of the request nothing depends on it. But an object has
its members in the order of their keys, so the columns keep the places that the text gives them only
if it lists them so.
-/

namespace RelationQuery

theorem Keyed.eq_of_entries {α : Type} {keyed other : Keyed α}
    (same : keyed.entries = other.entries) : keyed = other := by
  cases keyed
  cases other
  cases same
  rfl

/-! ## The columns of a document -/

namespace Order

theorem directionOf_reread (json : Json) : directionOf json.reread = directionOf json := by
  cases json <;> rfl

theorem map_directionOf_rereadMembers (members : List (String × Json)) :
    (Json.rereadMembers members).map (fun member => (member.1, directionOf member.2)) =
      members.map fun member => (member.1, directionOf member.2) := by
  induction members with
  | nil => rfl
  | cons member rest ih =>
      rw [Json.rereadMembers, List.map_cons, List.map_cons, ih, directionOf_reread]

def ofMembers (members : Keyed Json) : Order := ⟨members.mapValues directionOf⟩

theorem keys_ofMembers (members : Keyed Json) : (ofMembers members).columns.keys = members.keys :=
  List.map_map

theorem read_of_readKeyed? {text : String} {members : Keyed Json}
    (read : Json.readKeyed? text.toList = some members) :
    Order.read text = ofMembers members := by
  unfold Order.read ofObjectText?
  rw [read]
  rfl

/-- The text of an object names the columns in the order of the object. -/
theorem ofObjectText?_compact (members : Keyed Json)
    (legible : Json.Legible Json.depthMax (.object members.entries)) :
    ofObjectText? (Json.object members.entries).compact = some (ofMembers members) := by
  unfold ofObjectText? Json.compact
  rw [String.toList_ofList, legible.readKeyed?_text]
  have distinct : ((Json.rereadMembers members.entries).map Prod.fst).Nodup := by
    rw [Json.keys_rereadMembers]
    exact members.distinct
  refine congrArg some (congrArg Order.mk (Keyed.eq_of_entries ?_))
  change (Keyed.ofList (Json.rereadMembers members.entries)).entries.map _ = members.entries.map _
  rw [Keyed.entries_ofList distinct]
  exact map_directionOf_rereadMembers members.entries

/-- Of two orders that name the same columns, one has the order of the keys. -/
theorem ofMembers_eq_iff {members sorted : Keyed Json} (ascending : Ascending sorted.entries)
    (same : sorted.entries.Perm members.entries) :
    ofMembers sorted = ofMembers members ↔ Ascending members.entries := by
  constructor
  · intro equal
    have keys := congrArg (fun order => order.columns.keys) equal
    rw [keys_ofMembers, keys_ofMembers] at keys
    unfold Ascending at ascending ⊢
    rwa [← Keyed.keys, ← keys]
  · intro order
    rw [Keyed.eq_of_entries (ascending.eq_of_perm order same)]

end Order

namespace Request

/-! ## The rest of a request -/

def orderNames : List String := ["order_by", "orderBy"]

def withoutOrder (query : Keyed Json) : Keyed Json :=
  query.filter fun name _ => !orderNames.contains name

structure AgreeBesideOrder (query other : Keyed Json) : Prop where
  get? : ∀ name, orderNames.contains name = false → query.get? name = other.get? name
  additional : query.filter (fun name _ => !reservedNames.contains name) =
    other.filter fun name _ => !reservedNames.contains name

theorem agree_insert (query : Keyed Json) (parameter : Json) :
    AgreeBesideOrder (query.insert "order_by" parameter) (withoutOrder query) where
  get? name other := by
    have differs : name ≠ "order_by" := by
      rintro rfl
      cases other
    rw [query.get?_insert_of_ne differs]
    exact (lookup_filter (fun name => !orderNames.contains name) (by rw [other]; rfl) _).symm
  additional := by
    have kept : ∀ name, reservedNames.contains name = false → orderNames.contains name = false := by
      intro name free
      simp only [reservedNames, orderNames, List.contains_cons, List.contains_nil,
        Bool.or_eq_false_iff] at free ⊢
      exact ⟨free.2.2.2.2.1, free.2.2.2.2.2⟩
    apply Keyed.eq_of_entries
    change (placeEntry "order_by" parameter query.entries).filter
      (fun entry => !reservedNames.contains entry.1) =
        (query.entries.filter fun entry => !orderNames.contains entry.1).filter
          fun entry => !reservedNames.contains entry.1
    rw [filter_placeEntry (fun name => !reservedNames.contains name) (by decide),
      List.filter_filter]
    apply List.filter_congr
    intro entry _
    cases free : reservedNames.contains entry.1 with
    | true => rfl
    | false => rw [kept _ free]; rfl

/-- An order of plain keys is all that its parameter adds to a request. -/
theorem ofQuery_of_readOrder? {query other : Keyed Json} {order : Order}
    (agree : AgreeBesideOrder query other) (given : readOrder? query = some order)
    (unordered : readOrder? other = none)
    (plain : ∀ key ∈ order.columns.keys, isRequestKey key = true) :
    ofQuery query = (ofQuery other).map fun request => { request with order := some order } := by
  have search := agree.get? "search" (by decide)
  have filter := agree.get? "filter" (by decide)
  have limit := agree.get? "limit" (by decide)
  have offset := agree.get? "offset" (by decide)
  have filters : readFilter query = readFilter other := by
    rw [readFilter, readFilter, searchFilter?, searchFilter?, search, filter]
  have text : searchText? query = searchText? other := by
    rw [searchText?, searchText?, search]
  have passes : order.columns.keys.find? (fun key => !isRequestKey key) = none :=
    List.find?_eq_none.mpr fun key member => by simp [plain key member]
  rw [ofQuery, ofQuery, filters, text, limit, offset, agree.additional, given, unordered]
  cases readFilter other with
  | error cause => rfl
  | ok filter =>
      have keys : (columnKeys filter (some order)).find? (fun key => !isRequestKey key) =
          (columnKeys filter none).find? fun key => !isRequestKey key := by
        unfold columnKeys
        rw [List.find?_append, List.find?_append]
        exact congrArg _ passes
      dsimp only [bind, Except.bind]
      rw [keys]
      cases (columnKeys filter none).find? fun key => !isRequestKey key with
      | none => rfl
      | some key => rfl

theorem readOrder?_withoutOrder (query : Keyed Json) : readOrder? (withoutOrder query) = none := by
  have dropped : ∀ name ∈ orderNames, (withoutOrder query).get? name = none := by
    intro name member
    have listed : orderNames.contains name = true := List.elem_eq_true_of_mem member
    exact lookup_filter_of_dropped (fun name => !orderNames.contains name)
      (by rw [listed]; rfl) _
  have first := dropped "order_by" (by decide)
  have second := dropped "orderBy" (by decide)
  simp [readOrder?, first, second]

/-- An order under its first name is the order of the request. -/
theorem ofQuery_insert {parameter : Json} {order : Order} (carried : orderOf? parameter = some order)
    (plain : ∀ key ∈ order.columns.keys, isRequestKey key = true) (query : Keyed Json) :
    ofQuery (query.insert "order_by" parameter) =
      (ofQuery (withoutOrder query)).map fun request => { request with order := some order } := by
  have given : readOrder? (query.insert "order_by" parameter) = some order := by
    rw [readOrder?, List.findSome?_cons, Keyed.get?_insert_self, Option.bind_some, carried]
  exact ofQuery_of_readOrder? (agree_insert query parameter) given (readOrder?_withoutOrder query)
    plain

/-! ## Both ways -/

/-- The text of a JSON object, read as text and as the object that it is: either way the order is
all that it adds to a request, with the same columns and directions. -/
structure OrdersBothWays (text : String) (members sorted : Keyed Json) : Prop where
  document : Json.read? text.toList = some (.object sorted.entries)
  ascending : Ascending sorted.entries
  same : sorted.entries.Perm members.entries
  /-- As text, the columns have the places that the text gives them. -/
  asText : ∀ query : Keyed Json, ofQuery (query.insert "order_by" (.string text)) =
    (ofQuery (withoutOrder query)).map fun request =>
      { request with order := some (.ofMembers members) }
  /-- As an object, they have those of its keys. -/
  asObject : ∀ query : Keyed Json, ofQuery (query.insert "order_by" (.object sorted.entries)) =
    (ofQuery (withoutOrder query)).map fun request =>
      { request with order := some (.ofMembers sorted) }
  agree : Order.ofMembers sorted = Order.ofMembers members ↔ Ascending members.entries

/-- A text of an object and the object itself give the same order if, and only if, the text lists
its keys in their own order. -/
theorem orders_of_text_and_object {text : String} {members : Keyed Json}
    (read : Json.readKeyed? text.toList = some members)
    (plain : ∀ key ∈ members.keys, isRequestKey key = true) :
    ∃ sorted, OrdersBothWays text members sorted := by
  obtain ⟨entries, document, legible, ascending, same⟩ := Json.exists_of_readKeyed? read
  have plain' : ∀ key ∈ entries.map Prod.fst, isRequestKey key = true :=
    fun key member => plain key ((same.map Prod.fst).mem_iff.mp member)
  refine ⟨⟨entries, ascending.nodup⟩, document, ascending, same, ?_, ?_,
    Order.ofMembers_eq_iff ascending same⟩
  · have carried : orderOf? (.string text) = some (.ofMembers members) :=
      congrArg some (Order.read_of_readKeyed? read)
    exact ofQuery_insert carried (by rwa [Order.keys_ofMembers])
  · have carried : orderOf? (.object entries) = some (.ofMembers ⟨entries, ascending.nodup⟩) :=
      Order.ofObjectText?_compact ⟨entries, ascending.nodup⟩ legible
    exact ofQuery_insert carried (by rwa [Order.keys_ofMembers])

/-- An order by `b`, and by `a` among rows that are alike in it. -/
def tieBreakText : String := "\x7b\"b\":\"DESC\",\"a\":\"ASC\"\x7d"

def tieBreakMembers : Keyed Json := ⟨[("b", .string "DESC"), ("a", .string "ASC")], by decide⟩

theorem orders_of_tieBreak :
    Json.readKeyed? tieBreakText.toList = some tieBreakMembers ∧
      (∀ key ∈ tieBreakMembers.keys, isRequestKey key = true) ∧
      ∃ sorted, OrdersBothWays tieBreakText tieBreakMembers sorted :=
  ⟨rfl, by decide, orders_of_text_and_object rfl (by decide)⟩

/-- As an object the same text orders by `a` first. -/
theorem tieBreak_turns :
    (ofQuery (Keyed.ofList [("order_by", .string tieBreakText)])).toOption.bind Request.order =
        some ⟨⟨[("b", .descending), ("a", .ascending)], by decide⟩⟩ ∧
      ((Json.read? tieBreakText.toList).bind fun document =>
        (ofQuery (Keyed.ofList [("order_by", document)])).toOption.bind Request.order) =
          some ⟨⟨[("a", .ascending), ("b", .descending)], by decide⟩⟩ :=
  ⟨by decide +kernel, by decide +kernel⟩

end Request

end RelationQuery

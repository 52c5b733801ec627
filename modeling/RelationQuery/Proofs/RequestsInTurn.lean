import RelationQuery.Proofs.ObjectMembers
import RelationQuery.Proofs.RequestProvenance

/-!
# Requests applied in turn

Requests fill in, one after the other, what a read leaves open. What the caller has set stays, and
of several requests the first that gives something is the one that counts. What each request adds is
told here from the requests alone, so the final read needs no account of the reads between.
-/

namespace RelationQuery

/-! ## Entries -/

theorem Keyed.isSome_get? {α : Type} (keyed : Keyed α) (key : String) :
    (keyed.get? key).isSome = keyed.contains key := by
  obtain ⟨entries, distinct⟩ := keyed
  change (entries.lookup key).isSome = (entries.map Prod.fst).contains key
  clear distinct
  induction entries with
  | nil => rfl
  | cons entry rest ih =>
      rw [List.lookup_cons, List.map_cons, List.contains_cons, ← ih]
      cases key == entry.1 <;> rfl

/-! ## What requests give -/

namespace Request

def filterEntries (request : Request) : List (String × FilterValue) :=
  request.filter.elim [] Keyed.entries

def filterValue? (request : Request) (key : String) : Option FilterValue :=
  request.filter.bind (·.get? key)

def orderColumns (request : Request) : List String :=
  request.order.elim [] fun order => order.columns.keys

theorem lookup_filterEntries (request : Request) (key : String) :
    request.filterEntries.lookup key = request.filterValue? key := by
  unfold filterEntries filterValue?
  cases request.filter <;> rfl

theorem isSome_filterValue? (request : Request) (key : String) :
    (request.filterValue? key).isSome = request.filterKeys.contains key := by
  unfold filterValue? filterKeys
  cases request.filter with
  | none => rfl
  | some entries => exact entries.isSome_get? key

theorem nodup_filterKeys (request : Request) : request.filterKeys.Nodup := by
  unfold filterKeys
  cases request.filter with
  | none => exact List.nodup_nil
  | some entries => exact entries.nodup_keys

end Request

/-- Requests with those that come before each, where some have come before all of them. -/
def turnsAfter (before : List Request) : List Request → List (List Request × Request)
  | [] => []
  | request :: later => (before, request) :: turnsAfter (before ++ [request]) later

def turns (requests : List Request) : List (List Request × Request) := turnsAfter [] requests

theorem turnsAfter_concat (before requests : List Request) (last : Request) :
    turnsAfter before (requests ++ [last]) =
      turnsAfter before requests ++ [(before ++ requests, last)] := by
  induction requests generalizing before with
  | nil => simp [turnsAfter]
  | cons request later ih => simp [turnsAfter, ih]

theorem turns_concat (requests : List Request) (last : Request) :
    turns (requests ++ [last]) = turns requests ++ [(requests, last)] :=
  turnsAfter_concat [] requests last

/-- The entries that a request adds: those whose keys neither the read nor an earlier request
has. -/
def newEntries (own : FilterEntries) (earlier : List Request) (request : Request) :
    List (String × FilterValue) :=
  request.filterEntries.filter fun entry =>
    !(own.contains entry.1 || earlier.any fun other => other.filterKeys.contains entry.1)

/-- The columns by which a request orders a read, if neither the read nor an earlier request has an
order. -/
def newColumns (own : Option Order) (earlier : List Request) (request : Request) : List String :=
  if own.isSome || earlier.any (·.order.isSome) then [] else request.orderColumns

def spaced : List String → Option String
  | [] => none
  | first :: rest => some (rest.foldl (fun text more => text ++ " " ++ more) first)

theorem spaced_concat (texts : List String) (last : String) :
    spaced (texts ++ [last]) = joinSearch (spaced texts) (some last) := by
  cases texts with
  | nil => rfl
  | cons first rest => simp [spaced, joinSearch, List.foldl_append]

/-- A read as requests have filled it in, one after the other. -/
structure FilledIn (query : GetQuery) (requests : List Request) (filled : GetQuery) : Prop where
  /-- The caller's entries stand first; each request has added its new ones behind. -/
  entries : filled.filters.entries.entries = query.filters.entries.entries ++
    (turns requests).flatMap fun turn => newEntries query.filters.entries turn.1 turn.2
  /-- The caller's value of a key, or else that of the earliest request that has the key. -/
  value : ∀ key, filled.filters.entries.get? key =
    (query.filters.entries.get? key).or (requests.findSome? (·.filterValue? key))
  limit : filled.page.limit = query.page.limit.or (requests.findSome? Request.limit)
  offset : filled.page.offset = query.page.offset.or (requests.findSome? Request.offset)
  order : filled.order = query.order.or (requests.findSome? Request.order)
  /-- What has been taken is remembered in the order of taking, and nothing else. -/
  requestKeys : filled.requestKeys = query.requestKeys ++ (turns requests).flatMap fun turn =>
    (newEntries query.filters.entries turn.1 turn.2).map Prod.fst ++
      newColumns query.order turn.1 turn.2
  search : filled.filters.search =
    spaced (query.filters.search.toList ++ requests.filterMap Request.search)
  relation : filled.relation = query.relation
  id : filled.id = query.id
  keys : filled.keys = query.keys
  explicit : filled.filters.explicit = query.filters.explicit
  group : filled.group = query.group
  joins : filled.joins = query.joins
  forceAsList : filled.forceAsList = query.forceAsList
  mapping : filled.mapping = query.mapping
  allowed : filled.allowed = query.allowed

/-! ## One request more -/

namespace FilledIn

variable {query filled : GetQuery} {requests : List Request}

/-- Without requests the read is as it was. -/
theorem start (query : GetQuery) : FilledIn query [] query where
  entries := (List.append_nil _).symm
  value _ := Option.or_none.symm
  limit := Option.or_none.symm
  offset := Option.or_none.symm
  order := Option.or_none.symm
  requestKeys := (List.append_nil _).symm
  search := by cases known : query.filters.search <;> rfl
  relation := rfl
  id := rfl
  keys := rfl
  explicit := rfl
  group := rfl
  joins := rfl
  forceAsList := rfl
  mapping := rfl
  allowed := rfl

section

variable (before : FilledIn query requests filled)

include before

theorem contains (key : String) : filled.filters.entries.contains key =
    (query.filters.entries.contains key ||
      requests.any fun request => request.filterKeys.contains key) := by
  rw [← Keyed.isSome_get?, before.value, Option.isSome_or, Keyed.isSome_get?, List.isSome_findSome?]
  simp only [Request.isSome_filterValue?]

/-- What is new to the read is what neither the caller nor an earlier request has. -/
theorem freshEntries (request : Request) :
    filled.freshEntries request = newEntries query.filters.entries requests request := by
  unfold GetQuery.freshEntries newEntries Request.filterEntries
  cases request.filter with
  | none => rfl
  | some entries =>
      apply List.filter_congr
      intro entry _
      rw [before.contains]

theorem freshOrder (request : Request) :
    (filled.freshOrder request).elim [] (fun order => order.columns.keys) =
      newColumns query.order requests request := by
  have ordered : filled.order.isSome = (query.order.isSome || requests.any (·.order.isSome)) := by
    rw [before.order, Option.isSome_or, List.isSome_findSome?]
  unfold GetQuery.freshOrder newColumns
  rw [← ordered]
  cases filled.order <;> rfl

end

theorem nodup_freshKeys (query : GetQuery) (request : Request) :
    ((query.freshEntries request).map Prod.fst).Nodup := by
  rw [GetQuery.map_fst_freshEntries]
  exact request.nodup_filterKeys.filter _

theorem fresh_of_mem {query : GetQuery} {request : Request} :
    ∀ entry ∈ query.freshEntries request, entry.1 ∉ query.filters.entries.keys :=
  fun _ member => (query.mem_freshKeys.mp (List.mem_map_of_mem member)).2

/-- A request gives the value of a key that is still open. -/
theorem get?_applyRequest (query : GetQuery) (request : Request) (key : String) :
    (query.applyRequest request).filters.entries.get? key =
      (query.filters.entries.get? key).or (request.filterValue? key) := by
  change (query.filters.entries.extend (query.freshEntries request)).get? key = _
  rw [Keyed.get?_extend _ (nodup_freshKeys query request) fresh_of_mem]
  cases held : query.filters.entries.get? key with
  | some value => rfl
  | none =>
      have absent : query.filters.entries.contains key = false := by
        rw [← Keyed.isSome_get?, held]
        rfl
      rw [Option.none_or, Option.none_or, ← request.lookup_filterEntries]
      unfold GetQuery.freshEntries Request.filterEntries
      cases request.filter with
      | none => rfl
      | some entries =>
          exact lookup_filter (fun key => !query.filters.entries.contains key)
            (by rw [absent]; rfl) entries.entries

/-- One request more fills in what is still open. -/
theorem step (before : FilledIn query requests filled) (request : Request) :
    FilledIn query (requests ++ [request]) (filled.applyRequest request) where
  entries := by
    change (filled.filters.entries.extend (filled.freshEntries request)).entries = _
    rw [Keyed.entries_extend _ (nodup_freshKeys filled request) fresh_of_mem, before.entries,
      before.freshEntries, turns_concat, List.flatMap_append, List.flatMap_singleton,
      List.append_assoc]
  value key := by
    rw [get?_applyRequest, before.value, List.findSome?_append,
      List.findSome?_singleton, Option.or_assoc]
  limit := by
    change filled.page.limit.orElse (fun _ => request.limit) = _
    rw [Option.orElse_eq_or, before.limit, List.findSome?_append,
      List.findSome?_singleton, Option.or_assoc]
  offset := by
    change filled.page.offset.orElse (fun _ => request.offset) = _
    rw [Option.orElse_eq_or, before.offset, List.findSome?_append,
      List.findSome?_singleton, Option.or_assoc]
  order := by
    have given : (filled.applyRequest request).order = filled.order.or request.order := by
      change (filled.order <|> filled.freshOrder request) = _
      unfold GetQuery.freshOrder
      cases filled.order <;> rfl
    rw [given, before.order, List.findSome?_append,
      List.findSome?_singleton, Option.or_assoc]
  requestKeys := by
    change filled.requestKeys ++ (filled.freshEntries request).map Prod.fst ++ _ = _
    rw [before.freshOrder, before.freshEntries, before.requestKeys, turns_concat,
      List.flatMap_append, List.flatMap_singleton, List.append_assoc, List.append_assoc]
  search := by
    change joinSearch filled.filters.search request.search = _
    rw [before.search, List.filterMap_append, ← List.append_assoc]
    cases given : request.search with
    | none =>
        have none : [request].filterMap Request.search = [] := by simp [given]
        rw [none, List.append_nil]
        cases spaced _ <;> rfl
    | some text =>
        have one : [request].filterMap Request.search = [text] := by simp [given]
        rw [one, spaced_concat]
  relation := before.relation
  id := before.id
  keys := before.keys
  explicit := before.explicit
  group := before.group
  joins := before.joins
  forceAsList := before.forceAsList
  mapping := before.mapping
  allowed := before.allowed

end FilledIn

/-- Whatever requests are applied to a read, they leave what the caller has set, and the first of
them that gives something is the one that counts. -/
theorem requests_fill_in (query : GetQuery) (requests : List Request) :
    FilledIn query requests (requests.foldl GetQuery.applyRequest query) := by
  -- From the end: the read before the last request tells what is still open to it.
  induction requests using List.reverseRecOn with
  | nil => exact .start query
  | append_singleton earlier last ih =>
      rw [List.foldl_append]
      exact ih.step last

end RelationQuery

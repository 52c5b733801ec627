import RelationQuery.Proofs.Compilation
import RelationQuery.Proofs.GeneratedPredicates

/-!
# Where the keys of a read come from

A read takes its parts call by call, some of them from the caller and some from requests. The keys
that requests have put there are remembered through all later calls and checked when the read is
compiled; an allow-list holds for every key, whoever has supplied it.
-/

namespace RelationQuery

open Sql (Relation)

/-! ## Origins -/

namespace GetQuery

def calls (query : GetQuery) (calls : List GetCall) : GetQuery := calls.foldl GetQuery.call query

def ofCalls (relation : Relation) (calls : List GetCall) : GetQuery :=
  GetQuery.calls { relation } calls

theorem ofCalls_append (relation : Relation) (front behind : List GetCall) :
    ofCalls relation (front ++ behind) = (ofCalls relation front).calls behind :=
  List.foldl_append

end GetQuery

def Request.filterKeys (request : Request) : List String := request.filter.elim [] Keyed.keys

def GetCall.entryKeys : GetCall → List String
  | .entry key _ => [key]
  | .entries added => added.keys
  | _ => []

def KeepsOrder (calls : List GetCall) : Prop := ∀ order, .orderBy order ∉ calls

section Origins

variable (relation : Relation) (calls : List GetCall)

/-- A request has put the key among the entries, where it was not yet. -/
def EntryFromRequest (key : String) : Prop :=
  ∃ before request after, calls = before ++ .request request :: after ∧
    key ∈ request.filterKeys ∧ key ∉ (GetQuery.ofCalls relation before).filters.entries.keys

def EntryFromCaller (key : String) : Prop := ∃ call ∈ calls, key ∈ call.entryKeys

/-- A request has given the order, where there was none, and the caller has not replaced it. -/
def OrderFromRequest (order : Order) : Prop :=
  ∃ before request after, calls = before ++ .request request :: after ∧
    (GetQuery.ofCalls relation before).order = none ∧ request.order = some order ∧ KeepsOrder after

def OrderFromCaller (order : Order) : Prop :=
  ∃ before after, calls = before ++ .orderBy order :: after ∧ KeepsOrder after

end Origins

namespace GetQuery

/-! ## One call -/

section OneCall

variable (query : GetQuery)

theorem map_fst_freshEntries (request : Request) :
    (query.freshEntries request).map Prod.fst =
      request.filterKeys.filter fun key => !query.filters.entries.contains key := by
  unfold freshEntries Request.filterKeys
  cases request.filter with
  | none => rfl
  | some entries =>
      change _ = (entries.entries.map Prod.fst).filter _
      rw [List.filter_map]
      rfl

theorem mem_freshKeys {request : Request} {key : String} :
    key ∈ (query.freshEntries request).map Prod.fst ↔
      key ∈ request.filterKeys ∧ key ∉ query.filters.entries.keys := by
  rw [map_fst_freshEntries]
  simp [Keyed.contains]

/-- The keys that requests have put there are remembered through every call. -/
theorem requestKeys_call (call : GetCall) :
    ∀ key ∈ query.requestKeys, key ∈ (query.call call).requestKeys := by
  intro key member
  cases call with
  | request request => exact List.mem_append_left _ (List.mem_append_left _ member)
  | _ => exact member

theorem requestKeys_of_entry {request : Request} {key : String}
    (asked : key ∈ request.filterKeys) (fresh : key ∉ query.filters.entries.keys) :
    key ∈ (query.call (.request request)).requestKeys :=
  List.mem_append_left _ (List.mem_append_right _ (query.mem_freshKeys.mpr ⟨asked, fresh⟩))

theorem requestKeys_of_order {request : Request} {order : Order} (unordered : query.order = none)
    (asked : request.order = some order) {key : String} (member : key ∈ order.columns.keys) :
    key ∈ (query.call (.request request)).requestKeys := by
  have fresh : query.freshOrder request = some order := by
    unfold freshOrder
    rw [unordered]
    exact asked
  refine List.mem_append_right _ ?_
  rw [fresh]
  exact member

/-- Entries come from the caller or from a request, and none goes away. -/
theorem mem_entries_call {call : GetCall} {key : String} :
    key ∈ (query.call call).filters.entries.keys ↔
      key ∈ query.filters.entries.keys ∨ key ∈ call.entryKeys ∨
        ∃ request, call = .request request ∧ key ∈ request.filterKeys := by
  cases call with
  | entry own value =>
      change key ∈ (query.filters.entries.extend [(own, .ofValue value)]).keys ↔ _
      rw [Keyed.mem_keys_extend]
      simp [GetCall.entryKeys]
  | entries entries =>
      change key ∈ (query.filters.entries.extend entries.entries).keys ↔ _
      rw [Keyed.mem_keys_extend]
      simp [GetCall.entryKeys, Keyed.keys]
  | request request =>
      change key ∈ (query.filters.entries.extend (query.freshEntries request)).keys ↔ _
      rw [Keyed.mem_keys_extend, mem_freshKeys]
      by_cases held : key ∈ query.filters.entries.keys <;> simp [held, GetCall.entryKeys]
  | _ => simp [call, FilterSet.addPredicate, GetCall.entryKeys]

/-- The order comes from the last call of the caller that gives one, or else from the first request
that does. -/
theorem order_call_cases {call : GetCall} {order : Order}
    (ordered : (query.call call).order = some order) :
    call = .orderBy order ∨ KeepsOrder [call] ∧ (query.order = some order ∨
      ∃ request, call = .request request ∧ query.order = none ∧ request.order = some order) := by
  cases call with
  | orderBy own =>
      cases ordered
      exact .inl rfl
  | request request =>
      refine .inr ⟨by simp [KeepsOrder], ?_⟩
      change (query.order <|> query.freshOrder request) = some order at ordered
      unfold freshOrder at ordered
      cases held : query.order with
      | none =>
          rw [held] at ordered
          exact .inr ⟨request, rfl, rfl, ordered⟩
      | some own =>
          rw [held] at ordered
          exact .inl ordered
  | _ => exact .inr ⟨by simp [KeepsOrder], .inl ordered⟩

end OneCall

/-! ## All calls -/

theorem requestKeys_calls (query : GetQuery) (calls : List GetCall) :
    ∀ key ∈ query.requestKeys, key ∈ (query.calls calls).requestKeys := by
  induction calls generalizing query with
  | nil => exact fun _ member => member
  | cons call rest ih =>
      exact fun key member => ih (query.call call) key (query.requestKeys_call call key member)

end GetQuery

section AllCalls

variable {relation : Relation} {calls : List GetCall}

/-- A key that a request has put among the entries is remembered to the end. -/
theorem EntryFromRequest.remembered {key : String}
    (origin : EntryFromRequest relation calls key) :
    key ∈ (GetQuery.ofCalls relation calls).requestKeys := by
  obtain ⟨before, request, after, rfl, asked, fresh⟩ := origin
  rw [GetQuery.ofCalls_append]
  exact GetQuery.requestKeys_calls _ after key
    (GetQuery.requestKeys_of_entry _ asked fresh)

/-- So are the columns of an order that a request has given. -/
theorem OrderFromRequest.remembered {order : Order}
    (origin : OrderFromRequest relation calls order) {key : String}
    (member : key ∈ order.columns.keys) :
    key ∈ (GetQuery.ofCalls relation calls).requestKeys := by
  obtain ⟨before, request, after, rfl, unordered, asked, _⟩ := origin
  rw [GetQuery.ofCalls_append]
  exact GetQuery.requestKeys_calls _ after key
    (GetQuery.requestKeys_of_order _ unordered asked member)

/-- Every entry has been put there by the caller or by a request. -/
theorem entry_origin {key : String}
    (member : key ∈ (GetQuery.ofCalls relation calls).filters.entries.keys) :
    EntryFromCaller calls key ∨ EntryFromRequest relation calls key := by
  induction calls using List.reverseRecOn with
  | nil => cases member
  | append_singleton calls call ih =>
      by_cases held : key ∈ (GetQuery.ofCalls relation calls).filters.entries.keys
      · rcases ih held with ⟨own, isCall, given⟩ | ⟨before, request, after, rfl, asked, fresh⟩
        · exact .inl ⟨own, List.mem_append_left _ isCall, given⟩
        · exact .inr ⟨before, request, after ++ [call], by simp, asked, fresh⟩
      · rw [GetQuery.ofCalls_append] at member
        rcases (GetQuery.mem_entries_call _).mp member with old | given | ⟨request, rfl, asked⟩
        · exact absurd old held
        · exact .inl ⟨call, by simp, given⟩
        · exact .inr ⟨calls, request, [], rfl, asked, held⟩

theorem KeepsOrder.append {front behind : List GetCall} (early : KeepsOrder front)
    (late : KeepsOrder behind) : KeepsOrder (front ++ behind) := by
  intro order member
  rcases List.mem_append.mp member with given | given
  · exact early order given
  · exact late order given

/-- The order has been given by the caller or by a request. -/
theorem order_origin {order : Order}
    (ordered : (GetQuery.ofCalls relation calls).order = some order) :
    OrderFromCaller calls order ∨ OrderFromRequest relation calls order := by
  induction calls using List.reverseRecOn with
  | nil => cases ordered
  | append_singleton calls call ih =>
      rw [GetQuery.ofCalls_append] at ordered
      rcases GetQuery.order_call_cases _ ordered with
        rfl | ⟨kept, old | ⟨request, rfl, none, asked⟩⟩
      · exact .inl ⟨calls, [], rfl, by simp [KeepsOrder]⟩
      · rcases ih old with
          ⟨before, after, rfl, later⟩ | ⟨before, request, after, rfl, unordered, asked, later⟩
        · exact .inl ⟨before, after ++ [call], by simp, later.append kept⟩
        · exact .inr ⟨before, request, after ++ [call], by simp, unordered, asked,
            later.append kept⟩
      · exact .inr ⟨calls, request, [], rfl, none, asked, by simp [KeepsOrder]⟩

end AllCalls

/-! ## The checks -/

def Listed (allowed : Option (List String)) (key : String) : Prop :=
  ∀ list, allowed = some list → key ∈ list

/-- A key that a request may use: an identifier that may have hyphens, on the allow-list. -/
structure PassesRequest (allowed : Option (List String)) (key : String) : Prop where
  nonempty : key ≠ ""
  plain : ∀ c ∈ key.toList, c.isAlphanum = true ∨ c = '_' ∨ c = '-'
  listed : Listed allowed key

theorem checkAllowed_eq_ok {allowed : Option (List String)} {key : String} :
    checkAllowed allowed key = .ok () ↔ Listed allowed key := by
  unfold checkAllowed Listed
  cases allowed with
  | none => simp
  | some list => by_cases member : key ∈ list <;> simp [member]

theorem passesRequest_of_check {query : GetQuery} {key : String}
    (passed : query.checkRequestKey key = .ok ()) : PassesRequest query.allowed key := by
  unfold GetQuery.checkRequestKey at passed
  split at passed
  · rename_i plain
    simp only [isRequestKey, Bool.and_eq_true, Bool.not_eq_true', List.all_eq_true,
      Bool.or_eq_true, beq_iff_eq, or_assoc] at plain
    refine ⟨?_, plain.2, checkAllowed_eq_ok.mp passed⟩
    rintro rfl
    cases plain.1
  · cases passed

theorem forM_eq_ok {α : Type} {check : α → Except Cause Unit} {items : List α}
    (passed : items.forM check = .ok ()) : ∀ item ∈ items, check item = .ok () := by
  induction items with
  | nil => exact fun _ member => nomatch member
  | cons item rest ih =>
      obtain ⟨_, here, later⟩ := bind_eq_ok.mp passed
      exact List.forall_mem_cons.mpr ⟨here, ih later⟩

theorem listed_of_predicatesOf {α : Type} {make : NameCounts → String → α → Predicate × NameCounts}
    {mapping : Option KeyMapping} {allowed : Option (List String)} {counts last : NameCounts}
    {items : List (String × α)} {predicates : List Predicate}
    (made : predicatesOf make mapping allowed counts items = .ok (predicates, last)) :
    ∀ item ∈ items, Listed allowed item.1 := by
  induction items generalizing counts predicates with
  | nil => exact fun _ member => nomatch member
  | cons item rest ih =>
      obtain ⟨_, _, permitted, later⟩ := predicatesOf_cons made
      exact List.forall_mem_cons.mpr ⟨checkAllowed_eq_ok.mp permitted, ih later⟩

namespace GetQuery

variable {query : GetQuery} {compiled : Compiled}

theorem passesRequest_of_compile (made : query.compile = .ok compiled) :
    ∀ key ∈ query.requestKeys, PassesRequest query.allowed key := by
  obtain ⟨_, passed, _⟩ := bind_eq_ok.mp made
  exact fun key member => passesRequest_of_check (forM_eq_ok passed key member)

/-- Entries and search terms of a read that compiles are on the allow-list, whoever has supplied
them. -/
theorem listed_of_compile (made : query.compile = .ok compiled) :
    (∀ key ∈ query.filters.entries.keys, Listed query.allowed key) ∧
      ∀ term ∈ query.filters.terms, Listed query.allowed term.key := by
  obtain ⟨_, _, known, _⟩ := compile_eq_ok made
  obtain ⟨_, _, _, _, _, _, first, second⟩ := FilterSet.exists_made known
  constructor
  · intro key member
    obtain ⟨entry, isEntry, rfl⟩ := List.mem_map.mp member
    exact listed_of_predicatesOf first entry isEntry
  · intro term member
    exact listed_of_predicatesOf second _ (List.mem_map_of_mem member)

end GetQuery

/-- What is known of the keys of a read that has taken calls and compiles. -/
structure KeysChecked (relation : Relation) (calls : List GetCall) (query : GetQuery) : Prop where
  requestEntries : ∀ key ∈ query.filters.entries.keys, EntryFromRequest relation calls key →
    PassesRequest query.allowed key
  requestOrder : ∀ order, query.order = some order → OrderFromRequest relation calls order →
    ∀ key ∈ order.columns.keys, PassesRequest query.allowed key
  entriesListed : ∀ key ∈ query.filters.entries.keys, Listed query.allowed key
  termsListed : ∀ term ∈ query.filters.terms, Listed query.allowed term.key
  /-- Nothing comes from elsewhere. -/
  entryOrigin : ∀ key ∈ query.filters.entries.keys,
    EntryFromCaller calls key ∨ EntryFromRequest relation calls key
  orderOrigin : ∀ order, query.order = some order →
    OrderFromCaller calls order ∨ OrderFromRequest relation calls order

/-- No sequence of calls gets a key past the checks. -/
theorem keys_checked (relation : Relation) (calls : List GetCall) {compiled : Compiled}
    (made : (GetQuery.ofCalls relation calls).compile = .ok compiled) :
    KeysChecked relation calls (GetQuery.ofCalls relation calls) where
  requestEntries key _ origin := GetQuery.passesRequest_of_compile made key origin.remembered
  requestOrder _ _ origin key member :=
    GetQuery.passesRequest_of_compile made key (origin.remembered member)
  entriesListed := (GetQuery.listed_of_compile made).1
  termsListed := (GetQuery.listed_of_compile made).2
  entryOrigin _ := entry_origin
  orderOrigin _ := order_origin

def taskRequest : Request where
  filter := some (.ofList [("owner", .scalar (.int64 9)), ("state", .scalar (.text "open"))])
  search := some "rank:1"
  limit := none
  offset := none
  order := some (.ofText "due-date DESC")
  additional := .empty

/-- The request stands between the calls of the caller, and the allow-list comes last. -/
def taskCalls : List GetCall :=
  [.entry "owner" (.int64 7), .request taskRequest,
    .allowedKeys ["owner", "state", "rank", "due-date"]]

/-- The state comes from the request, and is on the list that the caller gives later. -/
theorem keys_checked_taskCalls :
    (∃ compiled, (GetQuery.ofCalls ⟨"app", "tasks"⟩ taskCalls).compile = .ok compiled) ∧
    KeysChecked ⟨"app", "tasks"⟩ taskCalls (GetQuery.ofCalls ⟨"app", "tasks"⟩ taskCalls) ∧
    EntryFromRequest ⟨"app", "tasks"⟩ taskCalls "state" ∧
    PassesRequest (some ["owner", "state", "rank", "due-date"]) "state" := by
  have compiles : ((GetQuery.ofCalls ⟨"app", "tasks"⟩ taskCalls).compile).toOption.isSome = true :=
    by decide +kernel
  obtain ⟨compiled, known⟩ := Option.isSome_iff_exists.mp compiles
  have made := eq_ok_of_toOption known
  have origin : EntryFromRequest ⟨"app", "tasks"⟩ taskCalls "state" :=
    ⟨[_], taskRequest, [_], rfl, by decide, by decide⟩
  have checked := keys_checked ⟨"app", "tasks"⟩ taskCalls made
  exact ⟨⟨compiled, made⟩, checked, origin, checked.requestEntries "state" (by decide) origin⟩

end RelationQuery

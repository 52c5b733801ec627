import RelationQuery.Proofs.CompileOutcome
import RelationQuery.Proofs.RequestHyphens
import RelationQuery.Proofs.RequestsInTurn

/-!
# Directives that the caller has set

Where the caller sets the order, the limit and the offset of a read, a request that gives them too
has no say in them, wherever it stands among the calls. What is left of it are the columns of an
order that came before the caller's: they are remembered as keys of a request, and are checked with
the others although the order itself is gone.
-/

namespace RelationQuery

open Sql (Relation)

/-! ## Requests without directives -/

def Request.undirected (request : Request) : Request :=
  { request with limit := none, offset := none, order := none }

namespace GetCall

def undirected : GetCall → GetCall
  | .request asked => .request asked.undirected
  | call => call

def request? : GetCall → Option Request
  | .request asked => some asked
  | _ => none

def order? : GetCall → Option Order
  | .orderBy order => some order
  | _ => none

def limit? : GetCall → Option Int64
  | .limit n => some n
  | _ => none

def offset? : GetCall → Option Int64
  | .offset n => some n
  | _ => none

end GetCall

/-- The caller gives an order, a limit and an offset, each at any place. -/
structure SetsDirectives (calls : List GetCall) : Prop where
  order : ∃ order, .orderBy order ∈ calls
  limit : ∃ n, .limit n ∈ calls
  offset : ∃ n, .offset n ∈ calls

/-- The requests before the first order of the caller. -/
def openRequests : List GetCall → List Request
  | [] => []
  | .orderBy _ :: _ => []
  | .request request :: rest => request :: openRequests rest
  | _ :: rest => openRequests rest

def strayColumns (calls : List GetCall) : List String :=
  ((openRequests calls).findSome? Request.order).elim [] fun order => order.columns.keys

/-! ## What the caller sets last stays -/

/-- A part of a read that the caller sets by a call, and that a request fills in while it is
unset. -/
structure Directive (α : Type) where
  read : GetQuery → Option α
  given : GetCall → Option α
  asked : GetCall → Option α
  read_call : ∀ (query : GetQuery) call,
    read (query.call call) = (given call).or ((read query).or (asked call))
  given_undirected : ∀ call, given call.undirected = given call

namespace Directive

def order : Directive Order where
  read := GetQuery.order
  given := GetCall.order?
  asked call := call.request?.bind Request.order
  read_call query call := by
    cases call with
    | orderBy order => rfl
    | request request =>
        change (query.order <|> query.freshOrder request) = query.order.or request.order
        unfold GetQuery.freshOrder
        cases query.order <;> rfl
    | _ => exact Option.or_none.symm
  given_undirected call := by cases call <;> rfl

def limit : Directive Int64 where
  read query := query.page.limit
  given := GetCall.limit?
  asked call := call.request?.bind Request.limit
  read_call query call := by
    cases call with
    | limit n => rfl
    | request request => exact Option.orElse_eq_or
    | _ => exact Option.or_none.symm
  given_undirected call := by cases call <;> rfl

def offset : Directive Int64 where
  read query := query.page.offset
  given := GetCall.offset?
  asked call := call.request?.bind Request.offset
  read_call query call := by
    cases call with
    | offset n => rfl
    | request request => exact Option.orElse_eq_or
    | _ => exact Option.or_none.symm
  given_undirected call := by cases call <;> rfl

variable {α : Type} (directive : Directive α)

/-- What is there stays, unless the caller sets it anew. -/
theorem read_call_of_some {query : GetQuery} {value : α} (there : directive.read query = some value)
    (call : GetCall) :
    directive.read (query.call call) = some ((directive.given call).getD value) := by
  rw [directive.read_call, there]
  cases directive.given call <;> rfl

/-- What the caller has set at any place, the caller has set last. -/
theorem read_calls (query : GetQuery) {calls : List GetCall}
    (set : calls.filterMap directive.given ≠ []) :
    directive.read (query.calls calls) = (calls.filterMap directive.given).getLast? := by
  induction calls using List.reverseRecOn with
  | nil => exact absurd rfl set
  | append_singleton calls call ih =>
      have last : query.calls (calls ++ [call]) = (query.calls calls).call call :=
        List.foldl_append
      rw [last, List.filterMap_append]
      cases known : directive.given call with
      | some value =>
          have one : [call].filterMap directive.given = [value] := by simp [known]
          rw [directive.read_call, known, one, List.getLast?_concat]
          rfl
      | none =>
          have nothing : [call].filterMap directive.given = [] := by simp [known]
          rw [List.filterMap_append, nothing, List.append_nil] at set
          have there := (ih set).trans (List.getLast?_eq_some_getLast set)
          rw [directive.read_call_of_some there, known, nothing, List.append_nil,
            List.getLast?_eq_some_getLast set]
          rfl

theorem filterMap_undirected (calls : List GetCall) :
    (calls.map GetCall.undirected).filterMap directive.given = calls.filterMap directive.given := by
  rw [List.filterMap_map]
  exact List.filterMap_congr fun call _ => directive.given_undirected call

/-- Requests have no say in a directive that the caller sets. -/
theorem read_undirected (query : GetQuery) {calls : List GetCall} {call : GetCall} {value : α}
    (member : call ∈ calls) (known : directive.given call = some value) :
    directive.read (query.calls calls) =
      directive.read (query.calls (calls.map GetCall.undirected)) := by
  have set : calls.filterMap directive.given ≠ [] :=
    List.ne_nil_of_mem (List.mem_filterMap.mpr ⟨call, member, known⟩)
  rw [directive.read_calls query set, directive.read_calls query, directive.filterMap_undirected]
  rwa [directive.filterMap_undirected]

end Directive

/-! ## Reads that differ in directives -/

namespace GetQuery

def undirected (query : GetQuery) : GetQuery :=
  { query with order := none, page := {}, requestKeys := [] }

def unchecked (query : GetQuery) : GetQuery := { query with requestKeys := [] }

theorem unchecked_eq {query other : GetQuery} (same : query.undirected = other.undirected)
    (order : query.order = other.order) (limit : query.page.limit = other.page.limit)
    (offset : query.page.offset = other.page.offset) : query.unchecked = other.unchecked := by
  have page : query.page = other.page :=
    calc query.page = ⟨query.page.limit, query.page.offset⟩ := rfl
      _ = ⟨other.page.limit, other.page.offset⟩ := by rw [limit, offset]
      _ = other.page := rfl
  cases query
  cases other
  simp only [undirected, mk.injEq, and_true, true_and] at same
  obtain ⟨rfl, rfl, rfl, rfl, rfl, rfl, rfl, rfl, rfl⟩ := same
  cases order
  cases page
  rfl

theorem undirected_call {query other : GetQuery} (same : query.undirected = other.undirected)
    (call : GetCall) : (query.call call).undirected = (other.call call.undirected).undirected := by
  cases query
  cases other
  simp only [undirected, mk.injEq, and_true, true_and] at same
  obtain ⟨rfl, rfl, rfl, rfl, rfl, rfl, rfl, rfl, rfl⟩ := same
  cases call <;> rfl

theorem freshEntries_undirected {query other : GetQuery}
    (same : query.undirected = other.undirected) (request : Request) :
    other.freshEntries request.undirected = query.freshEntries request := by
  have filters : query.undirected.filters = other.undirected.filters := by rw [same]
  change query.filters = other.filters at filters
  unfold freshEntries
  rw [filters]
  rfl

theorem freshOrder_undirected (query : GetQuery) (request : Request) :
    query.freshOrder request.undirected = none := by
  unfold freshOrder
  cases query.order <;> rfl

theorem freshOrder_of_ordered {query : GetQuery} {own : Order} (ordered : query.order = some own)
    (request : Request) : query.freshOrder request = none := by
  unfold freshOrder
  rw [ordered]

theorem freshOrder_of_unordered {query : GetQuery} (unordered : query.order = none)
    (request : Request) : query.freshOrder request = request.order := by
  unfold freshOrder
  rw [unordered]

/-- The keys of requests are checked before anything else. -/
theorem compile_eq (query : GetQuery) : query.compile =
    query.requestKeys.forM query.checkRequestKey >>= fun _ => query.unchecked.compile := rfl

end GetQuery

/-- A read that has taken requests, and one that has taken them without directives: they agree but
for directives, and for columns among the keys that are checked. -/
structure Shadows (query shadow : GetQuery) (stray : List String) : Prop where
  same : query.undirected = shadow.undirected
  keys : ∃ front behind, query.requestKeys = front ++ stray ++ behind ∧
    shadow.requestKeys = front ++ behind

namespace Shadows

variable {query shadow : GetQuery} {stray : List String}

theorem start (query : GetQuery) : Shadows query query [] := ⟨rfl, [], query.requestKeys, rfl, rfl⟩

/-- A call that gives the read no order of a request. -/
theorem call (shadows : Shadows query shadow stray) (call : GetCall)
    (orderless : ∀ request, call = .request request → query.freshOrder request = none) :
    Shadows (query.call call) (shadow.call call.undirected) stray := by
  refine ⟨GetQuery.undirected_call shadows.same call, ?_⟩
  obtain ⟨front, behind, keys, others⟩ := shadows.keys
  cases call with
  | request request =>
      refine ⟨front, behind ++ (query.freshEntries request).map Prod.fst, ?_, ?_⟩
      · change query.requestKeys ++ _ ++ (query.freshOrder request).elim [] _ = _
        rw [orderless request rfl, keys]
        simp
      · change shadow.requestKeys ++ _ ++ (shadow.freshOrder request.undirected).elim [] _ = _
        rw [shadow.freshOrder_undirected, others, GetQuery.freshEntries_undirected shadows.same]
        simp
  | _ => exact ⟨front, behind, keys, others⟩

/-- The first order of a request leaves its columns. -/
theorem callRequest (shadows : Shadows query shadow []) {request : Request} {order : Order}
    (unordered : query.order = none) (asked : request.order = some order) :
    Shadows (query.call (.request request)) (shadow.call (.request request.undirected))
      order.columns.keys := by
  refine ⟨GetQuery.undirected_call shadows.same (.request request), ?_⟩
  obtain ⟨front, behind, keys, others⟩ := shadows.keys
  refine ⟨front ++ behind ++ (query.freshEntries request).map Prod.fst, [], ?_, ?_⟩
  · change query.requestKeys ++ _ ++ (query.freshOrder request).elim [] _ = _
    rw [GetQuery.freshOrder_of_unordered unordered, asked, keys]
    simp
  · change shadow.requestKeys ++ _ ++ (shadow.freshOrder request.undirected).elim [] _ = _
    rw [shadow.freshOrder_undirected, others, GetQuery.freshEntries_undirected shadows.same]
    simp

/-- Once there is an order, no column comes in anymore. -/
theorem callsOrdered (shadows : Shadows query shadow stray) (ordered : query.order.isSome = true)
    (calls : List GetCall) :
    Shadows (query.calls calls) (shadow.calls (calls.map GetCall.undirected)) stray := by
  induction calls generalizing query shadow with
  | nil => exact shadows
  | cons call rest ih =>
      obtain ⟨own, held⟩ := Option.isSome_iff_exists.mp ordered
      have kept : (query.call call).order = _ := Directive.order.read_call_of_some held call
      refine ih (shadows.call call fun request _ => GetQuery.freshOrder_of_ordered held request) ?_
      rw [kept]
      rfl

/-- Up to the first order, that of a request leaves its columns. -/
theorem callsOpen (shadows : Shadows query shadow []) (unordered : query.order = none)
    (calls : List GetCall) :
    Shadows (query.calls calls) (shadow.calls (calls.map GetCall.undirected))
      (strayColumns calls) := by
  -- The first order ends the open part: behind it, the read is ordered and takes no column.
  induction calls generalizing query shadow with
  | nil => exact shadows
  | cons call rest ih =>
      cases call with
      | orderBy order =>
          exact (shadows.call (.orderBy order) fun _ same => (nomatch same)).callsOrdered rfl rest
      | request request =>
          cases asked : request.order with
          | some order =>
              have stray : strayColumns (.request request :: rest) = order.columns.keys := by
                unfold strayColumns
                rw [openRequests, List.findSome?_cons, asked]
                rfl
              rw [stray]
              refine (shadows.callRequest unordered asked).callsOrdered ?_ rest
              change (query.order <|> query.freshOrder request).isSome = true
              rw [GetQuery.freshOrder_of_unordered unordered, unordered, asked]
              rfl
          | none =>
              have stray : strayColumns (.request request :: rest) = strayColumns rest := by
                unfold strayColumns
                rw [openRequests, List.findSome?_cons, asked]
              have orderless : query.freshOrder request = none :=
                (GetQuery.freshOrder_of_unordered unordered request).trans asked
              rw [stray]
              refine ih (shadows.call (.request request) fun _ same => ?_) ?_
              · cases same
                exact orderless
              · change (query.order <|> query.freshOrder request) = none
                rw [unordered, orderless]
                rfl
      | _ => exact ih (shadows.call _ fun _ same => (nomatch same)) unordered

/-- The checks find what the shadow's checks find, or a column that has come in. -/
theorem compile (shadows : Shadows query shadow stray)
    (unchecked : query.unchecked = shadow.unchecked) :
    AllPass (PassesRequest query.allowed) stray ∧ query.compile = shadow.compile ∨
      ∃ column ∈ stray, ¬ PassesRequest query.allowed column ∧
        (query.compile = .error (requestFault column) ∨
          ∃ cause, query.compile = .error cause ∧ shadow.compile = .error cause) := by
  obtain ⟨front, behind, keys, others⟩ := shadows.keys
  have allowed : query.unchecked.allowed = shadow.unchecked.allowed := by rw [unchecked]
  have check : shadow.checkRequestKey = query.checkRequestKey := by
    funext key
    change query.allowed = shadow.allowed at allowed
    unfold GetQuery.checkRequestKey
    rw [allowed]
  have inTurn (items more : List String) : (items ++ more).forM query.checkRequestKey =
      items.forM query.checkRequestKey >>= fun _ => more.forM query.checkRequestKey :=
    List.forM_append
  have ofQuery : query.compile = front.forM query.checkRequestKey >>= fun _ =>
      stray.forM query.checkRequestKey >>= fun _ =>
        behind.forM query.checkRequestKey >>= fun _ => query.unchecked.compile := by
    rw [GetQuery.compile_eq, keys]
    simp only [inTurn, bind_assoc]
  have ofShadow : shadow.compile = front.forM query.checkRequestKey >>= fun _ =>
      behind.forM query.checkRequestKey >>= fun _ => query.unchecked.compile := by
    rw [GetQuery.compile_eq, others, check, unchecked]
    simp only [inTurn, bind_assoc]
  -- Both check the keys in front and behind alike; only the stray columns stand between.
  have settles := settles_forM query.checks_requestKey stray
  cases checked : stray.forM query.checkRequestKey with
  | ok passed =>
      refine .inl ⟨settles.ok_iff.mp ⟨passed, checked⟩, ?_⟩
      rw [ofQuery, ofShadow, checked]
      rfl
  | error cause =>
      obtain ⟨column, breaks, rfl⟩ := (settles.error_iff cause).mp checked
      obtain ⟨member, fails⟩ := breaks.fails
      refine .inr ⟨column, member, fails, ?_⟩
      rw [ofQuery, ofShadow, checked]
      cases front.forM query.checkRequestKey with
      | ok => exact .inl rfl
      | error earlier => exact .inr ⟨earlier, rfl, rfl⟩

end Shadows

/-! ## Requests that differ in directives only -/

section Runs

variable (relation : Relation) {calls calls' : List GetCall}

theorem shadows_ofCalls (calls : List GetCall) : Shadows (GetQuery.ofCalls relation calls)
    (GetQuery.ofCalls relation (calls.map GetCall.undirected)) (strayColumns calls) :=
  (Shadows.start { relation }).callsOpen rfl calls

/-- What the caller sets leaves nothing to the directives of requests. -/
theorem unchecked_undirected (set : SetsDirectives calls) :
    (GetQuery.ofCalls relation calls).unchecked =
      (GetQuery.ofCalls relation (calls.map GetCall.undirected)).unchecked := by
  obtain ⟨order, ordered⟩ := set.order
  obtain ⟨most, limited⟩ := set.limit
  obtain ⟨first, placed⟩ := set.offset
  exact GetQuery.unchecked_eq (shadows_ofCalls relation calls).same
    (Directive.order.read_undirected { relation } ordered rfl)
    (Directive.limit.read_undirected { relation } limited rfl)
    (Directive.offset.read_undirected { relation } placed rfl)

/-- A call without a request stands in all lists that differ in the directives of requests. -/
theorem mem_of_alike (alike : calls.map GetCall.undirected = calls'.map GetCall.undirected)
    {call : GetCall} (plain : ∀ request, call ≠ .request request) (member : call ∈ calls) :
    call ∈ calls' := by
  have same {other : GetCall} (known : other.undirected = call) : other = call := by
    cases other with
    | request request => exact absurd known.symm (plain _)
    | _ => exact known
  have kept : call.undirected = call := by
    cases call with
    | request request => exact absurd rfl (plain request)
    | _ => rfl
  have shown := List.mem_map_of_mem member (f := GetCall.undirected)
  rw [kept, alike] at shown
  obtain ⟨other, isCall, known⟩ := List.mem_map.mp shown
  exact same known ▸ isCall

theorem SetsDirectives.alike (set : SetsDirectives calls)
    (alike : calls.map GetCall.undirected = calls'.map GetCall.undirected) :
    SetsDirectives calls' := by
  obtain ⟨⟨order, ordered⟩, ⟨most, limited⟩, ⟨first, placed⟩⟩ := set
  exact ⟨⟨order, mem_of_alike alike (fun _ same => (nomatch same)) ordered⟩,
    ⟨most, mem_of_alike alike (fun _ same => (nomatch same)) limited⟩,
    ⟨first, mem_of_alike alike (fun _ same => (nomatch same)) placed⟩⟩

theorem openRequests_undirected (calls : List GetCall) :
    openRequests (calls.map GetCall.undirected) = (openRequests calls).map Request.undirected := by
  induction calls with
  | nil => rfl
  | cons call rest ih =>
      cases call with
      | orderBy order => rfl
      | request request => exact congrArg (request.undirected :: ·) ih
      | _ => exact ih

def AcceptedRequests (calls : List GetCall) : Prop :=
  ∀ request, .request request ∈ calls → ∃ parameters, Request.ofQuery parameters = .ok request

theorem mem_of_openRequests {request : Request} (member : request ∈ openRequests calls) :
    .request request ∈ calls := by
  induction calls with
  | nil => exact absurd member List.not_mem_nil
  | cons call rest ih =>
      cases call with
      | orderBy order => exact absurd member List.not_mem_nil
      | request own =>
          rcases List.mem_cons.mp member with rfl | later
          · exact List.mem_cons_self
          · exact List.mem_cons_of_mem _ (ih later)
      | _ => exact List.mem_cons_of_mem _ (ih member)

theorem AcceptedRequests.isRequestKey (accepted : AcceptedRequests calls) :
    ∀ column ∈ strayColumns calls, isRequestKey column = true := by
  intro column member
  unfold strayColumns at member
  cases found : (openRequests calls).findSome? Request.order with
  | none =>
      rw [found] at member
      exact absurd member List.not_mem_nil
  | some order =>
      rw [found] at member
      obtain ⟨request, isOpen, asked⟩ := List.exists_of_findSome?_eq_some found
      obtain ⟨parameters, known⟩ := accepted request (mem_of_openRequests isOpen)
      refine Request.isRequestKey_of_ofQuery known column (List.mem_append_right _ ?_)
      rw [asked]
      exact member

/-- A column is refused that a request wanted to order by, although the order is another. -/
def RefusedForStray (relation : Relation) (calls : List GetCall) : Prop :=
  ∃ column ∈ strayColumns calls,
    ¬ PassesRequest (GetQuery.ofCalls relation calls).allowed column ∧
    (GetQuery.ofCalls relation calls).compile = .error (requestFault column)

structure DirectivesOverridden (relation : Relation) (calls calls' : List GetCall) : Prop where
  reads : (GetQuery.ofCalls relation calls).unchecked = (GetQuery.ofCalls relation calls').unchecked
  compile : (GetQuery.ofCalls relation calls).compile = (GetQuery.ofCalls relation calls').compile ∨
    RefusedForStray relation calls ∨ RefusedForStray relation calls'
  /-- A column that fails its check is refused, unless something else is before it. -/
  refused : ∀ column ∈ strayColumns calls,
    ¬ PassesRequest (GetQuery.ofCalls relation calls).allowed column →
      ∃ cause, (GetQuery.ofCalls relation calls).compile = .error cause
  /-- Behind the order of the caller, requests leave no column. -/
  ordered : openRequests calls = [] →
    (GetQuery.ofCalls relation calls).compile = (GetQuery.ofCalls relation calls').compile
  /-- Without an allow-list, all columns of requests pass. -/
  unlisted : (GetQuery.ofCalls relation calls).allowed = none →
    AcceptedRequests calls → AcceptedRequests calls' →
      (GetQuery.ofCalls relation calls).compile = (GetQuery.ofCalls relation calls').compile

end Runs

section Overridden

variable {relation : Relation} {calls calls' : List GetCall}
  (alike : calls.map GetCall.undirected = calls'.map GetCall.undirected)
  (set : SetsDirectives calls)

include alike set

theorem unchecked_alike : (GetQuery.ofCalls relation calls).unchecked =
    (GetQuery.ofCalls relation calls').unchecked := by
  have settled' := unchecked_undirected relation (set.alike alike)
  rw [← alike] at settled'
  exact (unchecked_undirected relation set).trans settled'.symm

/-- Both reads are told apart from the same read without directives by their stray columns alone. -/
theorem compile_or_stray :
    (GetQuery.ofCalls relation calls).compile = (GetQuery.ofCalls relation calls').compile ∨
      RefusedForStray relation calls ∨ RefusedForStray relation calls' := by
  have first := (shadows_ofCalls relation calls).compile (unchecked_undirected relation set)
  have second := (shadows_ofCalls relation calls').compile
    (unchecked_undirected relation (set.alike alike))
  rw [← alike] at second
  rcases first with ⟨_, same⟩ | ⟨column, member, fails, here | ⟨cause, failed, shadow⟩⟩
  · rcases second with ⟨_, same'⟩ | ⟨column, member, fails, here | ⟨cause, failed, shadow⟩⟩
    · exact .inl (same.trans same'.symm)
    · exact .inr (.inr ⟨column, member, fails, here⟩)
    · exact .inl (same.trans (shadow.trans failed.symm))
  · exact .inr (.inl ⟨column, member, fails, here⟩)
  · rcases second with ⟨_, same'⟩ | ⟨column, member, fails, here | ⟨other, failed', shadow'⟩⟩
    · exact .inl ((failed.trans shadow.symm).trans same'.symm)
    · exact .inr (.inr ⟨column, member, fails, here⟩)
    · rw [shadow] at shadow'
      exact .inl (failed.trans (shadow'.trans failed'.symm))

/-- Stray columns that pass make no difference. -/
theorem compile_of_strays_pass
    (passed : AllPass (PassesRequest (GetQuery.ofCalls relation calls).allowed)
      (strayColumns calls))
    (passed' : AllPass (PassesRequest (GetQuery.ofCalls relation calls).allowed)
      (strayColumns calls')) :
    (GetQuery.ofCalls relation calls).compile = (GetQuery.ofCalls relation calls').compile := by
  have allowed : (GetQuery.ofCalls relation calls).unchecked.allowed =
      (GetQuery.ofCalls relation calls').unchecked.allowed := by rw [unchecked_alike alike set]
  change (GetQuery.ofCalls relation calls).allowed = _ at allowed
  rcases compile_or_stray alike set with
    same | ⟨column, member, fails, _⟩ | ⟨column, member, fails, _⟩
  · exact same
  · exact absurd (passed column member) fails
  · rw [allowed] at passed'
    exact absurd (passed' column member) fails

end Overridden

theorem strayColumns_of_ordered {calls : List GetCall} (ordered : openRequests calls = []) :
    strayColumns calls = [] := by
  unfold strayColumns
  rw [ordered]
  rfl

/-- Requests that differ in directives only make the same of a read whose directives the caller
sets, but for the columns of an order that the caller has replaced. -/
theorem directives_overridden (relation : Relation) {calls calls' : List GetCall}
    (alike : calls.map GetCall.undirected = calls'.map GetCall.undirected)
    (set : SetsDirectives calls) : DirectivesOverridden relation calls calls' where
  reads := unchecked_alike alike set
  compile := compile_or_stray alike set
  refused column member fails := by
    have outcome := (shadows_ofCalls relation calls).compile (unchecked_undirected relation set)
    rcases outcome with ⟨passed, _⟩ | ⟨other, _, _, here | ⟨cause, failed, _⟩⟩
    · exact absurd (passed column member) fails
    · exact ⟨_, here⟩
    · exact ⟨cause, failed⟩
  ordered first := by
    have first' : openRequests calls' = [] := by
      have same := congrArg openRequests alike
      rw [openRequests_undirected, openRequests_undirected, first] at same
      exact List.map_eq_nil_iff.mp same.symm
    apply compile_of_strays_pass alike set
    · rw [strayColumns_of_ordered first]
      exact fun _ member => (nomatch member)
    · rw [strayColumns_of_ordered first']
      exact fun _ member => (nomatch member)
  unlisted unlisted accepted accepted' := by
    have passes {key : String} (plain : isRequestKey key = true) : PassesRequest none key :=
      ⟨(isRequestKey_iff.mp plain).1, (isRequestKey_iff.mp plain).2, fun _ same => (nomatch same)⟩
    apply compile_of_strays_pass alike set
    · rw [unlisted]
      exact fun column member => passes (accepted.isRequestKey column member)
    · rw [unlisted]
      exact fun column member => passes (accepted'.isRequestKey column member)

/-! ## An order that comes too early -/

def orderParameters : Keyed Json := .ofList [("order_by", .string "b")]

def requestFor (order : Option Order) : Request where
  filter := none
  search := none
  limit := none
  offset := none
  order := order
  additional := .empty

theorem accepted_orderParameters :
    Request.ofQuery orderParameters = .ok (requestFor (some (.ofText "b"))) := rfl

theorem accepted_noParameters : Request.ofQuery .empty = .ok (requestFor none) := rfl

/-- The caller sets all directives, and the order behind the request. -/
def pagedCalls (request : Request) : List GetCall :=
  [.limit 1, .offset 0, .allowedKeys ["a"]] ++ .request request :: [.orderBy (.ofText "a")]

theorem setsDirectives_pagedCalls (request : Request) : SetsDirectives (pagedCalls request) where
  order := ⟨.ofText "a", by simp [pagedCalls]⟩
  limit := ⟨1, by simp [pagedCalls]⟩
  offset := ⟨0, by simp [pagedCalls]⟩

/-- The order of the request is refused, although the read is in the order of the caller. -/
theorem overridden_order_matters :
    ¬ ∀ (relation : Relation) (before after : List GetCall) (parameters parameters' : Keyed Json)
      (request request' : Request), Request.ofQuery parameters = .ok request →
        Request.ofQuery parameters' = .ok request' → request.undirected = request'.undirected →
        SetsDirectives (before ++ .request request :: after) →
          (GetQuery.ofCalls relation (before ++ .request request :: after)).compile =
            (GetQuery.ofCalls relation (before ++ .request request' :: after)).compile := by
  intro always
  have same : (GetQuery.ofCalls ⟨"app", "users"⟩
        (pagedCalls (requestFor (some (.ofText "b"))))).compile =
      (GetQuery.ofCalls ⟨"app", "users"⟩ (pagedCalls (requestFor none))).compile :=
    always _ _ _ _ _ _ _ accepted_orderParameters accepted_noParameters rfl
      (setsDirectives_pagedCalls _)
  have refused : (GetQuery.ofCalls ⟨"app", "users"⟩
      (pagedCalls (requestFor (some (.ofText "b"))))).compile.toOption.isSome = false := by
    decide +kernel
  have compiled : (GetQuery.ofCalls ⟨"app", "users"⟩
      (pagedCalls (requestFor none))).compile.toOption.isSome = true := by
    decide +kernel
  rw [same, compiled] at refused
  cases refused

/-- With or without the order of the request the read is the same, but for the key that is
checked. -/
theorem overridden_pagedCalls :
    SetsDirectives (pagedCalls (requestFor (some (.ofText "b")))) ∧
    strayColumns (pagedCalls (requestFor (some (.ofText "b")))) = ["b"] ∧
    DirectivesOverridden ⟨"app", "users"⟩ (pagedCalls (requestFor (some (.ofText "b"))))
      (pagedCalls (requestFor none)) :=
  ⟨setsDirectives_pagedCalls _, by decide, directives_overridden ⟨"app", "users"⟩ rfl
    (setsDirectives_pagedCalls _)⟩

end RelationQuery

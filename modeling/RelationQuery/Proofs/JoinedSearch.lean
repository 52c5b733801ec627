import RelationQuery.Proofs.SettledValues
import RelationQuery.Query.Basic

/-!
# What a request leaves of a search text

The search text of a request goes behind that of the query, on the same line. The terms of the query
whose values end by themselves are found again in the joined text, and in the same order. A bare
word or a quotation that only the end of the query's text ends takes the text of the request with
it.
-/

namespace RelationQuery.Search

open Text (isBlank trim)

/-! ## Settled terms -/

/-- The terms of the last grammar up to the first open value. -/
def settledWords (text : List Char) : List Term :=
  match _read : find? .string [] text with
  | none => []
  | some found =>
      if isOpen (found.after text) then [] else found.term :: settledWords found.remainder
termination_by text.length
decreasing_by exact Found.length_remainder_lt _read

def settledTerms (text : String) : List Term :=
  let compactly := exhaustAll compactGrammars (trim text.toList)
  compactly.1 ++ settledWords compactly.2

theorem Found.remainder_extend (more : List Char) (found : Found) :
    (found.extend more).remainder = trim (found.leftover ++ more) := by
  simp [Found.remainder, Found.extend, Reading.extend, Found.leftover]

/-- Settled words are found first, whatever follows behind a blank. -/
theorem prefix_settledWords {more : List Char} (apart : Apart more) (text : List Char) :
    settledWords text <+: (exhaust .string (text ++ more)).1 := by
  -- What follows stays apart from the remainder, since trimming takes only blanks between them.
  fun_induction settledWords text generalizing more with
  | case1 => exact List.nil_prefix
  | case2 => exact List.nil_prefix
  | case3 text found read settled ih =>
      have on := find?_string_settled apart read (by simpa using settled)
      rw [exhaust_of_find? on, Found.remainder_extend]
      refine List.cons_prefix_cons.mpr ⟨rfl, ?_⟩
      by_cases empty : trim found.leftover = []
      · have none : settledWords found.remainder = [] := by
          rw [show found.remainder = [] from empty]
          unfold settledWords
          rfl
        rw [none]
        exact List.nil_prefix
      · obtain ⟨later, apartLater, _, joined⟩ := exists_trim_append empty apart
        rw [joined]
        exact ih apartLater

/-! ## The parts of a joined text -/

theorem settledTerms_eq (text : String) :
    settledTerms text = (stripAll compactGrammars text.toList).1 ++
      settledWords (trim (stripAll compactGrammars text.toList).2) := by
  unfold settledTerms
  rw [exhaustAll_trim ne_string_of_compact]

/-- Settled terms are the first that a text has. -/
theorem prefix_settledTerms (text : String) : settledTerms text <+: (lex text).terms := by
  have words := prefix_settledWords apart_nil (trim (stripAll compactGrammars text.toList).2)
  rw [List.append_nil] at words
  rw [settledTerms_eq, lex_eq]
  exact (List.prefix_append_right_inj _).mpr words

theorem stripAll_sublist {grammars : List Grammar} (compact : ∀ g ∈ grammars, g ≠ .string)
    {b : Char} (blank : isBlank b = true) (front back : List Char) :
    (stripAll grammars front).1.Sublist (stripAll grammars (front ++ b :: back)).1 := by
  induction grammars generalizing front back with
  | nil => exact List.Sublist.refl []
  | cons grammar later ih =>
      have others : ∀ g ∈ later, g ≠ .string := fun g member =>
        compact g (List.mem_cons_of_mem _ member)
      simp only [stripAll, strip_joint (compact grammar List.mem_cons_self) blank]
      exact (List.sublist_append_left _ _).append (ih others _ _)

theorem toList_joined (own added : String) :
    (own ++ " " ++ added).toList = own.toList ++ ' ' :: added.toList := by
  rw [String.toList_append, String.toList_append, List.append_assoc]
  rfl

/-- The settled terms of a text are terms of every text that goes on behind a space. -/
theorem settledTerms_sublist (own added : String) :
    (settledTerms own).Sublist (lex (own ++ " " ++ added)).terms := by
  have words : settledWords (trim (stripAll compactGrammars own.toList).2) <+:
      (exhaust .string (trim ((stripAll compactGrammars own.toList).2 ++
        ' ' :: (stripAll compactGrammars added.toList).2))).1 := by
    by_cases empty : trim (stripAll compactGrammars own.toList).2 = []
    · rw [empty, settledWords]
      exact List.nil_prefix
    · obtain ⟨later, apart, _, joined⟩ := exists_trim_append empty
        (apart_cons (c := ' ') (by decide) (stripAll compactGrammars added.toList).2)
      rw [joined]
      exact prefix_settledWords apart _
  rw [settledTerms_eq, lex_eq, toList_joined,
    stripAll_joint ne_string_of_compact (by decide)]
  exact (stripAll_sublist ne_string_of_compact (by decide) _ _).append words.sublist

/-- Text that is all compact terms leaves the terms before it as they are. -/
theorem terms_sublist_of_compact {own added : String}
    (compact : (exhaustAll compactGrammars (trim added.toList)).2 = []) :
    (lex own).terms.Sublist (lex (own ++ " " ++ added)).terms := by
  have nothing : trim (stripAll compactGrammars added.toList).2 = [] := by
    rwa [exhaustAll_trim ne_string_of_compact] at compact
  obtain ⟨front, back, blankFront, blankBack, split⟩ :=
    Text.exists_trim (stripAll compactGrammars added.toList).2
  have blank : Sql.MadeOf isBlank (' ' :: (stripAll compactGrammars added.toList).2) := by
    rw [split, nothing]
    exact Sql.madeOf_cons (by decide) (Sql.madeOf_append blankFront blankBack)
  have same := Text.trim_before_blanks blank (stripAll compactGrammars own.toList).2
  rw [lex_eq own, lex_eq, toList_joined, stripAll_joint ne_string_of_compact (by decide)]
  rw [same]
  exact (stripAll_sublist ne_string_of_compact (by decide) _ _).append (List.Sublist.refl _)

/-! ## One word -/

def Found.word (key word : String) : Found :=
  ⟨[], key.toList, ⟨.equals (.text word) false, []⟩⟩

/-- A text without compact terms, of which the last grammar reads everything at once. -/
theorem terms_of_word {text key word : String} (trimmed : trim text.toList = text.toList)
    (wordy : compactGrammars.all (fun grammar => (find? grammar [] text.toList).isNone) = true)
    (read : find? .string [] text.toList = some (.word key word)) :
    (lex text).terms = [⟨key, .equals (.text word) false⟩] := by
  have nothing : exhaust .string (Found.word key word).remainder = ([], []) := exhaust_of_none rfl
  have compactly : exhaustAll compactGrammars text.toList = ([], text.toList) :=
    exhaustAll_of_none fun grammar member =>
      Option.isNone_iff_eq_none.mp (List.all_eq_true.mp wordy grammar member)
  unfold lex
  rw [trimmed, exhaustAll_all, compactly]
  change (exhaust .string text.toList).1 = _
  rw [exhaust_of_find? read, nothing, Found.term, Found.word, String.ofList_toList]

end RelationQuery.Search

namespace RelationQuery

open Search
open Text (trim)

def FilterSet.settledTerms (filters : FilterSet) : List Term :=
  filters.search.elim [] Search.settledTerms

/-- The search text of a request, if it has one, is all null tests, UUIDs, truth values and
ranges. -/
def Request.SearchesCompactly (request : Request) : Prop :=
  ∀ added ∈ request.search, (exhaustAll compactGrammars (trim added.toList)).2 = []

theorem FilterSet.terms_of_search {filters : FilterSet} {text : String}
    (search : filters.search = some text) : filters.terms = (lex text).terms := by
  unfold FilterSet.terms
  rw [search]

/-- The search text of a request goes on the line of the query's own. -/
theorem search_applyRequest (query : GetQuery) (request : Request) :
    (query.applyRequest request).filters.search =
      joinSearch query.filters.search request.search := rfl

/-- A request takes no settled term from a query, and no term at all when its own search text leaves
no word. -/
theorem request_keeps_settled_terms (query : GetQuery) (request : Request) :
    query.filters.settledTerms <+: query.filters.terms ∧
      query.filters.settledTerms.Sublist (query.applyRequest request).filters.terms ∧
      (request.SearchesCompactly →
        query.filters.terms.Sublist (query.applyRequest request).filters.terms) := by
  have joined := search_applyRequest query request
  cases own : query.filters.search with
  | none =>
      have none : query.filters.terms = [] := by
        unfold FilterSet.terms
        rw [own]
      have unsettled : query.filters.settledTerms = [] := by
        unfold FilterSet.settledTerms
        rw [own]
        rfl
      rw [none, unsettled]
      exact ⟨List.nil_prefix, List.nil_sublist _, fun _ => List.nil_sublist _⟩
  | some text =>
      have settled : query.filters.settledTerms = Search.settledTerms text := by
        unfold FilterSet.settledTerms
        rw [own]
        rfl
      rw [FilterSet.terms_of_search own, settled]
      refine ⟨prefix_settledTerms text, ?_⟩
      cases added : request.search with
      | none =>
          rw [own, added] at joined
          rw [FilterSet.terms_of_search joined]
          exact ⟨(prefix_settledTerms text).sublist, fun _ => List.Sublist.refl _⟩
      | some more =>
          rw [own, added] at joined
          rw [FilterSet.terms_of_search joined]
          exact ⟨settledTerms_sublist text more,
            fun compact => terms_sublist_of_compact (compact more added)⟩

def GetQuery.searching (relation : Sql.Relation) (text : String) : GetQuery :=
  { relation, filters := { search := some text } }

def Request.searching (text : String) : Request :=
  { filter := none, search := some text, limit := none, offset := none, order := none,
    additional := .empty }

/-- The truth value of a request leaves the open word before it. -/
theorem truth_value_keeps_bare_word :
    (exhaustAll compactGrammars (trim "active:true".toList)).2 = [] ∧
      (lex "city:rome").terms = [⟨"city", .equals (.text "rome") false⟩] ∧
      ((GetQuery.searching ⟨"app", "users"⟩ "city:rome").filters.terms).Sublist
        ((GetQuery.searching ⟨"app", "users"⟩ "city:rome").applyRequest
          (.searching "active:true")).filters.terms := by
  have compact : (exhaustAll compactGrammars (trim "active:true".toList)).2 = [] := by
    have nothing (grammar : Grammar) : exhaust grammar [] = ([], []) := exhaust_of_none rfl
    have null : exhaust .null "active:true".toList = ([], "active:true".toList) :=
      exhaust_of_none rfl
    have uuid : exhaust .uuid "active:true".toList = ([], "active:true".toList) :=
      exhaust_of_none rfl
    have bool : (exhaust .bool "active:true".toList).2 = [] := by
      rw [exhaust_of_find? rfl]
      exact congrArg Prod.snd (nothing .bool)
    change (exhaustAll compactGrammars "active:true".toList).2 = []
    simp only [compactGrammars, exhaustAll, null, uuid, bool, nothing]
  have keeps := request_keeps_settled_terms (.searching ⟨"app", "users"⟩ "city:rome")
    (.searching "active:true")
  refine ⟨compact, terms_of_word rfl rfl rfl, keeps.2.2 ?_⟩
  rintro added same
  rwa [← Option.some.inj (Option.mem_def.mp same)]

/-- Two bare words on one line are one, so a request can change what a query searches for. -/
theorem request_joins_bare_word :
    ¬ ∀ (query : GetQuery) (parameters : Keyed Json) (request : Request),
      Request.ofQuery parameters = .ok request →
        ∀ term ∈ query.filters.terms, term ∈ (query.applyRequest request).filters.terms := by
  intro kept
  have accepted : Request.ofQuery (.ofList [("search", .string "city:rome")]) =
      .ok (.searching "city:rome") := rfl
  have joined := search_applyRequest (.searching ⟨"app", "users"⟩ "name:bob")
    (.searching "city:rome")
  have before : (lex "name:bob").terms = [⟨"name", .equals (.text "bob") false⟩] :=
    terms_of_word rfl rfl rfl
  have after : (lex ("name:bob" ++ " " ++ "city:rome")).terms =
      [⟨"name", .equals (.text "bob city:rome") false⟩] :=
    terms_of_word rfl rfl rfl
  have member := kept (.searching ⟨"app", "users"⟩ "name:bob") _ _ accepted
    ⟨"name", .equals (.text "bob") false⟩ (by
      rw [FilterSet.terms_of_search rfl, before]
      exact List.mem_singleton_self _)
  rw [FilterSet.terms_of_search joined, after] at member
  simp only [List.mem_singleton, Term.mk.injEq, Content.equals.injEq, Value.text.injEq] at member
  exact absurd member.2.1 (by decide)

end RelationQuery

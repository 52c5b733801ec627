import RelationQuery.Proofs.QuerySense
import RelationQuery.Proofs.StatementFooting

/-!
# Positional parameters mean what the named ones meant

Values pass through three kinds of names: those of the caller, the generated ones, and the numbers
in the text. Read back from its text alone, a compiled statement says in every place what its query
means there.
-/

namespace RelationQuery

open Sql (Piece Token Tame tokens places slotNames textOf)

/-- A token stands for what is meant, when the placeholder `$k` has the value at place `k`. -/
inductive Meant.ReadAs (params : List Value) : Meant → Token → Prop where
  | char (c : Char) : ReadAs params (.char c) (.char c)
  | value {v : Value} {place : Nat} (held : params[place]? = some v) :
      ReadAs params (.value v) (.place (place + 1))
  | unsaid (place : Nat) : ReadAs params .unsaid (.place (place + 1))

/-- The text of a compiled statement and its values, in terms of its pieces. -/
theorem Bindings.sql_compile (bindings : Bindings) (statement : Sql.Statement) :
    (bindings.compile statement).sql.toList =
      textOf (slotNames (statement.pieces statement.relation?))
        (statement.pieces statement.relation?) := by
  rw [← Sql.Statement.params_render]
  exact Sql.Statement.sql_render statement

theorem Bindings.params_compile (bindings : Bindings) (statement : Sql.Statement) :
    (bindings.compile statement).params =
      (slotNames (statement.pieces statement.relation?)).map bindings.valueOf := by
  rw [← Sql.Statement.params_render]
  rfl

/-- What is said by a piece is read from its token. -/
theorem Meant.Said.readAs {valueOf : String → Value} {meant : Meant} {piece : Piece}
    (said : meant.Said valueOf piece) {pieces : List Piece} (member : piece ∈ pieces) :
    meant.ReadAs ((slotNames pieces).map valueOf) (piece.token (slotNames pieces)) := by
  cases said with
  | char c => exact .char c
  | value name =>
      have known : name ∈ slotNames pieces := Sql.slot_mem_slotNames member
      apply ReadAs.value
      rw [List.getElem?_map, List.getElem?_idxOf known]
      rfl
  | unsaid name => exact .unsaid _

theorem Says.readAs {valueOf : String → Value} {meant : List Meant} {pieces : List Piece}
    (said : Says valueOf meant pieces) :
    List.Forall₂ (Meant.ReadAs ((slotNames pieces).map valueOf)) meant
      (pieces.map (Piece.token (slotNames pieces))) := by
  rw [List.forall₂_map_right_iff]
  exact forall₂_imp_of_mem said fun _ _ _ member here => here.readAs member

/-- Read as a server reads it, the text of every query that compiles has at each place what is meant
there, and its placeholders are those from one up to the number of values, in the order in which
they are first met. -/
theorem positional_parameters_mean {query : Query} {compiled : Compiled} (plain : query.Plain)
    (columns : ∀ column ∈ query.givenColumns, Sql.isIdentifier column = true)
    (tame : ∀ text ∈ query.fragments, Tame text)
    (made : query.compile = .ok (some compiled)) :
    List.Forall₂ (Meant.ReadAs compiled.params) query.meant (tokens compiled.sql) ∧
      (places (tokens compiled.sql)).eraseDups = List.range' 1 compiled.params.length := by
  obtain ⟨bindings, statement, built, rfl⟩ := Query.built_of_compile made
  have sql := bindings.sql_compile statement
  have params := bindings.params_compile statement
  rw [built.relation] at sql params
  have settled := built.settled plain columns tame
  have read := Sql.tokens_textOf sql settled.ne_lost
  rw [read, params]
  constructor
  · exact Says.readAs (built.says_meant plain)
  · rw [List.length_map]
    exact Sql.eraseDups_places _

/-- A deletion by identifier, by a predicate of the caller and by a filter entry. -/
def ownedRows : DeleteQuery where
  relation := ⟨"app", "rows"⟩
  id := some (.int64 7)
  filters :=
    { explicit := [.binding "note = ':)' OR (owner = :owner AND :id = 7)" "owner" (.text "ann")]
      entries := .ofList [("is-open", .scalar (.bool true))] }

theorem plain_ownedRows : (Query.delete ownedRows).Plain := by
  refine ⟨⟨by decide, by decide⟩, ?_⟩
  rintro _ ⟨⟩
  exact ⟨by decide, fun _ member => nomatch member⟩

theorem positional_parameters_of_ownedRows : ∃ compiled,
    (Query.delete ownedRows).compile = .ok (some compiled) ∧
      List.Forall₂ (Meant.ReadAs compiled.params) (Query.delete ownedRows).meant
        (tokens compiled.sql) ∧
      (places (tokens compiled.sql)).eraseDups = List.range' 1 compiled.params.length := by
  have tame : ∀ text ∈ (Query.delete ownedRows).fragments, Tame text := by
    intro text member
    rw [List.mem_singleton.mp member]
    exact Sql.tame_of_not_mem (by decide) (by decide)
  refine ⟨_, rfl, ?_⟩
  exact positional_parameters_mean plain_ownedRows (fun _ member => nomatch member) tame rfl

end RelationQuery

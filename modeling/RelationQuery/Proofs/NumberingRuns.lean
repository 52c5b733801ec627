import RelationQuery.Proofs.LegibleStatements

/-!
# Numbering undone

Statements written one behind the other share one numbering. Each of them goes on where the one
before it ended, no number is ever given anew, and putting the names back in the place of their
numbers gives the text in which no value has been numbered.
-/

namespace RelationQuery.Sql

/-- The text of a token once its number is undone: the name at its place, if there is one. -/
def Token.restored (names : List String) : Token → List Char
  | .char c => [c]
  | .place 0 => placeholder 0
  | .place (k + 1) =>
      match names[k]? with
      | some name => ':' :: name.toList
      | none => placeholder (k + 1)

theorem restored_token (names : List String) {name : String} (known : name ∈ names) :
    (Piece.token names (.slot name)).restored names = ':' :: name.toList := by
  change (match names[names.idxOf name]? with
    | some name => ':' :: name.toList
    | none => placeholder (names.idxOf name + 1)) = _
  rw [List.getElem?_idxOf known]

/-- The tokens of pieces whose names are known, with the numbers undone. -/
theorem restored_tokens {names : List String} {pieces : List Piece}
    (known : ∀ name, .slot name ∈ pieces → name ∈ names) :
    (pieces.map (Piece.token names)).flatMap (Token.restored names) = named pieces := by
  induction pieces with
  | nil => rfl
  | cons piece rest ih =>
      have later := ih fun name member => known name (List.mem_cons_of_mem piece member)
      rw [List.map_cons, List.flatMap_cons, later]
      cases piece with
      | char c => rfl
      | slot name => rw [restored_token names (known name List.mem_cons_self)]; rfl

/-! ## Footing of runs -/

/-- Pieces that begin with no digit keep their footing behind a placeholder if they do elsewhere. -/
theorem Settled.steady {pieces : List Piece} (settled : Settled pieces)
    (start : ∀ c ∈ (named pieces).head?, c.isDigit = false) : Steady pieces := by
  rintro footing (rfl | rfl)
  · exact settled
  · cases pieces with
    | nil => exact .inr rfl
    | cons piece rest =>
        cases piece with
        | slot name => exact settled
        | char c =>
            change ((Footing.loose.step (.char c)).run rest).Outside
            rw [Footing.step_of_outside (.inr rfl) fun _ => start c rfl]
            exact settled

def targetOf (statements : List Statement) : Option Relation :=
  (Rendering.ofStatements statements).target

/-- Statements that can be told apart from their placeholders one behind the other: each is legible
under its target, and none but the first begins with a digit. -/
structure LegibleRun (statements : List Statement) : Prop where
  legible : ∀ front statement back, statements = front ++ statement :: back →
    statement.Legible (targetOf (front ++ [statement]))
  undigited : ∀ front statement back, statements = front ++ statement :: back → front ≠ [] →
    ∀ c ∈ (statement.spelled (targetOf (front ++ [statement]))).head?, c.isDigit = false

theorem ofStatements_concat (front : List Statement) (statement : Statement) :
    Rendering.ofStatements (front ++ [statement]) =
      (Rendering.ofStatements front).write statement := by
  simp [Rendering.ofStatements, List.foldl_append]

theorem targetOf_concat (front : List Statement) (statement : Statement) :
    targetOf (front ++ [statement]) = (targetOf front <|> statement.relation?) := by
  unfold targetOf
  rw [ofStatements_concat]
  rfl

theorem pieces_concat (front : List Statement) (statement : Statement) :
    (Rendering.ofStatements (front ++ [statement])).pieces =
      (Rendering.ofStatements front).pieces ++
        statement.pieces (targetOf (front ++ [statement])) := by
  rw [targetOf_concat, ofStatements_concat]
  rfl

namespace LegibleRun

theorem front {front back : List Statement} (run : LegibleRun (front ++ back)) :
    LegibleRun front := by
  constructor
  · rintro earlier statement later rfl
    exact run.legible earlier statement (later ++ back) (by simp)
  · rintro earlier statement later rfl
    exact run.undigited earlier statement (later ++ back) (by simp)

theorem unquotedTarget {statements : List Statement} (run : LegibleRun statements) :
    UnquotedTarget (targetOf statements) := by
  induction statements using List.reverseRecOn with
  | nil => exact fun relation member => nomatch member
  | append_singleton front last ih =>
      have before := ih run.front
      rw [targetOf_concat]
      cases known : targetOf front with
      | some relation =>
          rw [known] at before
          exact before
      | none =>
          intro relation member
          obtain ⟨scheme, table⟩ := (run.legible front last [] rfl).relation member
          exact ⟨unquoted_of_calm scheme, unquoted_of_calm table⟩

/-- Every step of a legible run leaves a reader outside quotes, so a whole run does. -/
theorem settled {statements : List Statement} (run : LegibleRun statements) :
    Settled (Rendering.ofStatements statements).pieces := by
  induction statements using List.reverseRecOn with
  | nil => exact settled_nil
  | append_singleton front last ih =>
      have here := (run.legible front last [] rfl).settled run.unquotedTarget
      rw [pieces_concat]
      cases front with
      | nil => exact here
      | cons first rest =>
          have start := run.undigited (first :: rest) last [] rfl (List.cons_ne_nil _ _)
          rw [← Statement.named_pieces] at start
          exact (ih run.front).append (here.steady start)

end LegibleRun

/-! ## Runs -/

theorem exists_pieces (front back : List Statement) :
    ∃ more, (Rendering.ofStatements (front ++ back)).pieces =
      (Rendering.ofStatements front).pieces ++ more := by
  induction back using List.reverseRecOn with
  | nil => exact ⟨[], by simp⟩
  | append_singleton back last ih =>
      obtain ⟨more, split⟩ := ih
      rw [← List.append_assoc, pieces_concat, split, List.append_assoc]
      exact ⟨_, rfl⟩

theorem sql_rendered (rendering : Rendering) :
    rendering.rendered.sql.toList = (number [] rendering.pieces).2 := String.toList_ofList

theorem params_rendered (rendering : Rendering) :
    rendering.rendered.params = (number [] rendering.pieces).1 := rfl

/-- Writing more statements keeps the text and the names there are. -/
theorem prefix_rendered (front back : List Statement) :
    (Rendering.ofStatements front).rendered.sql.toList <+:
        (Rendering.ofStatements (front ++ back)).rendered.sql.toList ∧
      (Rendering.ofStatements front).rendered.params <+:
        (Rendering.ofStatements (front ++ back)).rendered.params := by
  obtain ⟨more, split⟩ := exists_pieces front back
  rw [sql_rendered, sql_rendered, params_rendered, params_rendered, split, number_append]
  exact ⟨List.prefix_append _ _, prefix_number _ more⟩

/-- The parameters of a run of statements are distinct, the number of each placeholder is the place
of its name among them, no later statement changes the text, the parameters or a place that there
are, and with the names put back in the place of their numbers the text is the one before
numbering. -/
theorem numbering_inverts {statements : List Statement} (run : LegibleRun statements) :
    let rendered := (Rendering.ofStatements statements).rendered
    rendered.params.Nodup ∧
      places (tokens rendered.sql) =
        (slots (Rendering.ofStatements statements).pieces).map
          (fun name => rendered.params.idxOf name + 1) ∧
      (∀ front back, statements = front ++ back →
        let earlier := (Rendering.ofStatements front).rendered
        earlier.sql.toList <+: rendered.sql.toList ∧ earlier.params <+: rendered.params ∧
          ∀ name ∈ earlier.params, rendered.params.idxOf name = earlier.params.idxOf name) ∧
      (tokens rendered.sql).flatMap (Token.restored rendered.params) =
        spelledFrom none statements := by
  intro rendered
  have names : rendered.params = slotNames (Rendering.ofStatements statements).pieces :=
    fst_number _
  have text : rendered.sql.toList =
      textOf rendered.params (Rendering.ofStatements statements).pieces := by
    rw [sql_rendered, snd_number, fst_number, names]
  have read := tokens_textOf text run.settled.ne_lost
  refine ⟨?_, ?_, ?_, ?_⟩
  · rw [names]
    exact nodup_slotNames _
  · rw [read, places_map_token]
  · rintro front back rfl
    obtain ⟨extended, kept⟩ := prefix_rendered front back
    exact ⟨extended, kept, fun name known => idxOf_of_prefix kept known⟩
  · rw [read, restored_tokens, named_ofStatements]
    intro name member
    rw [names]
    exact slot_mem_slotNames member

/-- A deletion whose fragment has a number inside quotes, and a placeholder right behind it. -/
def notedRun : List Statement :=
  [.delete
    { relation := ⟨"app", "users"⟩
      conditions := [.fragment "$table.note <> ':no $1' AND x = :v"]
      returning := ["*"] },
    .bare (.param "v")]

theorem legible_notedRun : LegibleRun notedRun := by
  have readable : Readable (some ⟨"app", "users"⟩) "$table.note <> ':no $1' AND x = :v" :=
    ⟨by decide, by rfl⟩
  constructor
  · intro front statement back split
    match front with
    | [] =>
        obtain ⟨rfl, -⟩ := List.cons.inj split
        exact ⟨by decide, List.forall_mem_singleton.mpr readable⟩
    | [_] =>
        obtain ⟨-, rest⟩ := List.cons.inj split
        obtain ⟨rfl, -⟩ := List.cons.inj rest
        exact ⟨List.forall_mem_nil _, List.forall_mem_nil _⟩
    | _ :: _ :: _ =>
        have short := congrArg List.length split
        simp [notedRun] at short
  · intro front statement back split filled
    match front with
    | [] => exact absurd rfl filled
    | [_] =>
        obtain ⟨-, rest⟩ := List.cons.inj split
        obtain ⟨rfl, -⟩ := List.cons.inj rest
        rintro _ ⟨⟩
        rfl
    | _ :: _ :: _ =>
        have short := congrArg List.length split
        simp [notedRun] at short

theorem notedRun_restored :
    LegibleRun notedRun ∧
      (tokens (Rendering.ofStatements notedRun).rendered.sql).flatMap
          (Token.restored (Rendering.ofStatements notedRun).rendered.params) =
        spelledFrom none notedRun := by
  obtain ⟨-, -, -, restored⟩ := numbering_inverts legible_notedRun
  exact ⟨legible_notedRun, restored⟩

end RelationQuery.Sql

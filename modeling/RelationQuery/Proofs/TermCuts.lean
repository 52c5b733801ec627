import RelationQuery.Proofs.SearchKeys

/-!
# Where a term is cut out

A grammar reads from the front of a text and leaves an ending of it. So a term takes one piece out
of its text: a key, a colon, and what its grammar has read. The text is the front, this piece and
the rest, and nothing else of it is touched.
-/

namespace RelationQuery.Search

open Sql (MadeOf)

/-! ## What is read stands in front of what is left -/

theorem cutWord?_eq_some_iff {word text rest : List Char} :
    cutWord? word text = some rest ↔ text = word ++ rest := by
  unfold cutWord?
  constructor
  · intro cut
    split at cut
    · rename_i front
      obtain ⟨behind, rfl⟩ := List.isPrefixOf_iff_prefix.mp front
      rw [List.drop_left] at cut
      rw [Option.some.inj cut]
    · cases cut
  · rintro rfl
    rw [if_pos (List.isPrefixOf_iff_prefix.mpr (List.prefix_append word rest)), List.drop_left]

theorem cutNumber?_append {text : List Char} {found : List Char × List Char}
    (cut : cutNumber? text = some found) : found.1 ++ found.2 = text := by
  have whole : text.takeWhile Char.isDigit ++ text.dropWhile Char.isDigit = text :=
    List.takeWhile_append_dropWhile
  unfold cutNumber? at cut
  dsimp only at cut
  split at cut
  · cases cut
  · split at cut
    · rename_i tail point
      have fraction : tail.takeWhile Char.isDigit ++ tail.dropWhile Char.isDigit = tail :=
        List.takeWhile_append_dropWhile
      split at cut
      · cases cut
        exact whole
      · cases cut
        rw [List.append_assoc, List.cons_append, fraction, ← point, whole]
    · cases cut
      exact whole

theorem cutGroups?_append {lengths : List Nat} {text : List Char}
    {found : List Char × List Char} (cut : Uuid.cutGroups? lengths text = some found) :
    found.1 ++ found.2 = text := by
  fun_induction Uuid.cutGroups? lengths text generalizing found with
  | case1 text => cases cut; rfl
  | case2 => cases cut; exact List.take_append_drop _ _
  | case3 => cases cut
  | case4 length _ text =>
      rename_i behind dropped ih
      obtain ⟨inner, read, rfl⟩ := Option.map_eq_some_iff.mp cut
      dsimp only
      rw [List.append_assoc, List.cons_append, ih read, ← dropped, List.take_append_drop]
  | case5 => cases cut
  | case6 => cases cut

theorem cutQuoted?_append {escaped : Bool} {text : List Char} {found : List Char × List Char}
    (cut : cutQuoted? escaped text = some found) : found.1 ++ '"' :: found.2 = text := by
  fun_induction cutQuoted? escaped text generalizing found with
  | case1 => cases cut
  | case2 => cases cut
  | case3 escaped c rest _ mark =>
      cases cut
      obtain ⟨quote, _⟩ := (Bool.and_eq_true _ _).mp mark
      rw [beq_iff_eq.mp quote]
      rfl
  | case4 escaped c rest _ _ ih =>
      obtain ⟨inner, read, rfl⟩ := Option.map_eq_some_iff.mp cut
      exact congrArg (c :: ·) (ih read)

theorem cutBackslashes_append (word : List Char) :
    (cutBackslashes word).1 ++ (cutBackslashes word).2 = word := by
  have split := congrArg List.reverse
    (List.takeWhile_append_dropWhile (p := isBackslash) (l := word.reverse))
  have same : (word.reverse.takeWhile isBackslash).reverse =
      word.reverse.takeWhile isBackslash := by
    have slashes : word.reverse.takeWhile isBackslash =
        List.replicate (word.reverse.takeWhile isBackslash).length '\\' := by
      apply List.eq_replicate_of_mem
      intro c member
      exact beq_iff_eq.mp (List.all_eq_true.mp List.all_takeWhile c member)
    rw [slashes, List.reverse_replicate]
  rw [List.reverse_append, List.reverse_reverse, same] at split
  exact split

/-- The null ending is read or left, and nothing else. -/
theorem valueReading_rest (value : Value) (text : List Char) :
    (valueReading value text).rest <:+ text := by
  unfold valueReading
  split
  · rename_i behind cut
    rw [cutWord?_eq_some_iff.mp cut]
    exact List.suffix_append _ _
  · exact List.suffix_rfl

theorem readWord_rest (text : List Char) : (readWord text).rest <:+ text := by
  have whole := cutWord_append text
  unfold readWord
  dsimp only
  split
  · exact List.nil_suffix
  · split
    · exact (valueReading_rest _ _).trans ⟨_, whole⟩
    · refine ⟨(cutBackslashes (cutWord text).1).1, ?_⟩
      rw [← List.append_assoc, cutBackslashes_append, whole]

theorem readQuoted?_rest {text : List Char} {reading : Reading}
    (read : readQuoted? text = some reading) : reading.rest <:+ text := by
  unfold readQuoted? at read
  split at read
  · obtain ⟨inner, cut, rfl⟩ := Option.map_eq_some_iff.mp read
    refine (valueReading_rest _ _).trans ⟨'"' :: inner.1 ++ ['"'], ?_⟩
    rw [← cutQuoted?_append cut, List.append_assoc]
    rfl
  · cases read

/-- What a grammar leaves is an ending of its text. -/
theorem Grammar.rest_read? {grammar : Grammar} {text : List Char} {reading : Reading}
    (read : grammar.read? text = some reading) : reading.rest <:+ text := by
  cases grammar with
  | null =>
      obtain ⟨rest, cut, rfl⟩ := Option.map_eq_some_iff.mp read
      exact ⟨_, (cutWord?_eq_some_iff.mp cut).symm⟩
  | uuid =>
      obtain ⟨found, cut, rfl⟩ := Option.map_eq_some_iff.mp read
      exact (valueReading_rest _ _).trans ⟨_, cutGroups?_append cut⟩
  | bool =>
      simp only [read?, readBool?] at read
      split at read
      · rename_i rest cut
        cases read
        exact (valueReading_rest _ _).trans ⟨_, (cutWord?_eq_some_iff.mp cut).symm⟩
      · obtain ⟨rest, cut, rfl⟩ := Option.map_eq_some_iff.mp read
        exact (valueReading_rest _ _).trans ⟨_, (cutWord?_eq_some_iff.mp cut).symm⟩
  | range =>
      simp only [read?, readRange?] at read
      split at read
      · rename_i first behind cut
        obtain ⟨found, later, rfl⟩ := Option.map_eq_some_iff.mp read
        refine (valueReading_rest _ _).trans ⟨first ++ '-' :: found.1, ?_⟩
        rw [List.append_assoc, List.cons_append, cutNumber?_append later]
        exact cutNumber?_append cut
      · cases read
  | string =>
      cases read
      cases quoted : readQuoted? text with
      | none => exact readWord_rest text
      | some found => exact readQuoted?_rest quoted

/-! ## The piece that is cut out -/

/-- A term stands in a text where its key ends at a colon and its grammar reads what is behind. -/
structure Found.StandsIn (found : Found) (grammar : Grammar) (text behind : List Char) : Prop where
  split : text = found.front ++ found.key ++ ':' :: behind
  key : found.key ≠ []
  keyChars : MadeOf isKeyChar found.key
  /-- The key is as long as it can be. -/
  bounded : ∀ c ∈ found.front.getLast?, isKeyChar c = false
  read : grammar.read? behind = some found.reading

theorem Found.standsIn_of_termAt? {grammar : Grammar} {before behind : List Char} {found : Found}
    (read : termAt? grammar before behind = some found) :
    found.StandsIn grammar (before.reverse ++ ':' :: behind) behind := by
  unfold termAt? at read
  dsimp only at read
  split at read
  · cases read
  · rename_i key
    obtain ⟨reading, got, rfl⟩ := Option.map_eq_some_iff.mp read
    refine ⟨?_, ?_, ?_, ?_, got⟩
    · dsimp only
      rw [← List.reverse_append, List.takeWhile_append_dropWhile]
    · intro empty
      exact key (List.isEmpty_iff.mpr (List.reverse_eq_nil_iff.mp empty))
    · intro c member
      exact List.all_eq_true.mp List.all_takeWhile c (List.mem_reverse.mp member)
    · intro c last
      dsimp only at last
      rw [List.getLast?_reverse] at last
      have head := List.head?_dropWhile_not isKeyChar before
      rw [Option.mem_def.mp last] at head
      simpa using head

theorem exists_standsIn_behind {grammar : Grammar} {before text : List Char} {found : Found}
    (read : find? grammar before text = some found) :
    ∃ behind, found.StandsIn grammar (before.reverse ++ text) behind := by
  induction text generalizing before with
  | nil => cases read
  | cons c rest ih =>
      have onward (later : find? grammar (c :: before) rest = some found) :
          ∃ behind, found.StandsIn grammar (before.reverse ++ c :: rest) behind := by
        have inner := ih later
        rwa [List.reverse_cons, List.append_assoc] at inner
      unfold find? at read
      split at read
      · rename_i colon
        split at read
        · rename_i term here
          cases read
          subst colon
          exact ⟨rest, Found.standsIn_of_termAt? here⟩
        · exact onward read
      · exact onward read

theorem exists_standsIn_of_find? {grammar : Grammar} {text : List Char} {found : Found}
    (read : find? grammar [] text = some found) : ∃ behind, found.StandsIn grammar text behind :=
  exists_standsIn_behind read

namespace Found.StandsIn

variable {found : Found} {grammar : Grammar} {text behind : List Char}
  (stands : found.StandsIn grammar text behind)

include stands

theorem exists_taken : ∃ taken, behind = taken ++ found.reading.rest ∧
    text = found.front ++ (found.key ++ ':' :: taken) ++ found.reading.rest := by
  obtain ⟨taken, rfl⟩ := Grammar.rest_read? stands.read
  refine ⟨taken, rfl, ?_⟩
  rw [stands.split]
  simp only [List.append_assoc, List.cons_append]

/-- Without its term a text has kept its characters in their order. -/
theorem sublist_remainder : found.remainder.Sublist text := by
  obtain ⟨taken, _, split⟩ := stands.exists_taken
  rw [split, List.append_assoc]
  refine (Text.trim_sublist _).trans ?_
  exact (List.Sublist.refl _).append (List.sublist_append_right _ _)

/-- A term takes its colon with it. -/
theorem count_remainder_lt : found.remainder.count ':' < text.count ':' := by
  obtain ⟨taken, _, split⟩ := stands.exists_taken
  have kept := (Text.trim_sublist (found.front ++ found.reading.rest)).count_le ':'
  rw [split]
  simp only [List.count_append, List.count_cons_self] at kept ⊢
  unfold Found.remainder
  omega

end Found.StandsIn

end RelationQuery.Search

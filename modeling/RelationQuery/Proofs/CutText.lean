import RelationQuery.Proofs.CharRuns
import RelationQuery.Text.Words

/-!
# Text cut into pieces

A text is cut at every character that passes a test, and its words are what blanks cut it into, less
the empty pieces. No piece holds a character of a cut. Blanks make no word, and a run of other
characters is one word up to the next blank.
-/

namespace RelationQuery.Text

open Sql (MadeOf)

/-- A piece holds characters of the text that do not pass the test of the cut. -/
theorem mem_of_mem_splitOnP {test : Char → Bool} {text piece : List Char}
    (member : piece ∈ text.splitOnP test) {c : Char} (inside : c ∈ piece) :
    c ∈ text ∧ test c = false := by
  induction text generalizing piece with
  | nil =>
      obtain rfl := List.mem_singleton.mp member
      cases inside
  | cons d rest ih =>
      rw [List.splitOnP_cons_eq_if_modifyHead] at member
      split at member
      · rcases List.mem_cons.mp member with rfl | later
        · cases inside
        · exact (ih later inside).imp_left (List.mem_cons_of_mem d)
      · -- a character that is kept joins the first piece of the rest
        rename_i kept
        obtain ⟨first, others, cut⟩ := List.exists_cons_of_ne_nil (List.splitOnP_ne_nil test rest)
        rw [cut, List.modifyHead_cons] at member
        rw [cut] at ih
        rcases List.mem_cons.mp member with rfl | later
        · rcases List.mem_cons.mp inside with rfl | inFirst
          · exact ⟨List.mem_cons_self, (Bool.not_eq_true _).mp kept⟩
          · exact (ih List.mem_cons_self inFirst).imp_left (List.mem_cons_of_mem d)
        · exact (ih (List.mem_cons_of_mem first later) inside).imp_left (List.mem_cons_of_mem d)

/-! ## Words -/

/-- A word is not empty, and holds characters of the text that are not blank. -/
theorem of_mem_words {text word : List Char} (member : word ∈ words text) :
    word ≠ [] ∧ ∀ c ∈ word, c ∈ text ∧ isBlank c = false := by
  obtain ⟨piece, filled⟩ := List.mem_filter.mp member
  exact ⟨by simpa using filled, fun c inside => mem_of_mem_splitOnP piece inside⟩

theorem words_cons_blank {c : Char} (blank : isBlank c = true) (text : List Char) :
    words (c :: text) = words text := by
  unfold words
  rw [List.splitOnP_cons_eq_if_modifyHead, if_pos blank]
  rfl

theorem words_blanks {blanks : List Char} (blank : MadeOf isBlank blanks) (text : List Char) :
    words (blanks ++ text) = words text := by
  induction blanks with
  | nil => rfl
  | cons c rest ih =>
      obtain ⟨first, others⟩ := List.forall_mem_cons.mp blank
      rw [List.cons_append, words_cons_blank first, ih others]

theorem words_of_blank {text : List Char} (blank : MadeOf isBlank text) : words text = [] := by
  have none := words_blanks blank []
  rwa [List.append_nil] at none

theorem stops_of_blank {blanks : List Char} (blank : MadeOf isBlank blanks) :
    Stops (fun c => !isBlank c) blanks := by
  intro c member
  simpa using blank c (List.mem_of_head? member)

/-- The first word ends where the characters that are not blank stop. -/
theorem words_word {word rest : List Char} (filled : word ≠ [])
    (solid : MadeOf (fun c => !isBlank c) word) (stops : Stops (fun c => !isBlank c) rest) :
    words (word ++ rest) = word :: words rest := by
  have whole : ∀ c ∈ word, isBlank c = false := fun c member => by simpa using solid c member
  have kept (pieces : List (List Char)) : (word :: pieces).filter (fun piece => !piece.isEmpty) =
      word :: pieces.filter fun piece => !piece.isEmpty :=
    List.filter_cons_of_pos (by simpa using filled)
  unfold words
  cases rest with
  | nil =>
      rw [List.append_nil, List.splitOnP_eq_singleton whole]
      exact kept []
  | cons c others =>
      have blank : isBlank c = true := by simpa using stops c rfl
      rw [List.splitOnP_append_cons_of_forall_mem whole c blank, kept,
        List.splitOnP_cons_eq_if_modifyHead, if_pos blank]
      rfl

end RelationQuery.Text

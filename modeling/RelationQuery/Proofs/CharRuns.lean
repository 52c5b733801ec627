import RelationQuery.Proofs.Identifiers

/-!
# Runs of characters

The longest run of characters that pass a test, in front of a text at which such a run stops.
-/

namespace RelationQuery.Text

open Sql (MadeOf)

/-- A run of characters that pass a test does not reach into this text. -/
def Stops (test : Char → Bool) (text : List Char) : Prop := ∀ c ∈ text.head?, test c = false

theorem stops_nil {test : Char → Bool} : Stops test [] := fun _ member => nomatch member

theorem stops_cons {test : Char → Bool} {c : Char} (refused : test c = false) (rest : List Char) :
    Stops test (c :: rest) := by
  intro d member
  rwa [← Option.some.inj (Option.mem_def.mp member)]

section

variable {test : Char → Bool} {more : List Char} (stops : Stops test more)

include stops

theorem takeWhile_stop (text : List Char) :
    (text ++ more).takeWhile test = text.takeWhile test := by
  induction text with
  | nil =>
      cases more with
      | nil => rfl
      | cons c rest => exact List.takeWhile_cons_of_neg (by simp [stops c rfl])
  | cons c rest ih => simp only [List.cons_append, List.takeWhile_cons, ih]

theorem dropWhile_stop (text : List Char) :
    (text ++ more).dropWhile test = text.dropWhile test ++ more := by
  induction text with
  | nil =>
      cases more with
      | nil => rfl
      | cons c rest => exact List.dropWhile_cons_of_neg (by simp [stops c rfl])
  | cons c rest ih =>
      simp only [List.cons_append, List.dropWhile_cons, ih]
      split
      · rfl
      · rfl

theorem takeWhile_run {run : List Char} (made : MadeOf test run) :
    (run ++ more).takeWhile test = run := by
  have none : more.takeWhile test = [] := takeWhile_stop stops []
  rw [List.takeWhile_append_of_pos made, none, List.append_nil]

theorem dropWhile_run {run : List Char} (made : MadeOf test run) :
    (run ++ more).dropWhile test = more := by
  have all : more.dropWhile test = more := dropWhile_stop stops []
  rw [List.dropWhile_append_of_pos made, all]

end

theorem ne_of_digit {c d : Char} (digit : c.isDigit = true) (other : d.isDigit = false) :
    c ≠ d := by
  rintro rfl
  rw [digit] at other
  cases other

end RelationQuery.Text

import RelationQuery.Proofs.Identifiers
import RelationQuery.Text.Words

/-!
# Text between blanks

A text is what trimming leaves of it with blanks around. So trimming takes no more than once, takes
nothing from a text with other characters at its ends, and sees nothing of blanks put around a text.
-/

namespace RelationQuery.Text

open Sql (MadeOf)

/-- The visible characters of one byte are not blank. -/
theorem not_blank_of_bounds {c : Char} (bounds : 33 ≤ c.toNat ∧ c.toNat ≤ 126) :
    isBlank c = false := by
  simp only [isBlank, Bool.or_eq_false_iff, Bool.and_eq_false_iff, decide_eq_false_iff_not,
    beq_eq_false_iff_ne]
  omega

theorem not_blank_of_digit {c : Char} (digit : c.isDigit = true) : isBlank c = false := by
  apply not_blank_of_bounds
  have bounds := Sql.bounds_of_digit digit
  omega

theorem trimLeft_blanks {blanks : List Char} (blank : MadeOf isBlank blanks) (text : List Char) :
    trimLeft (blanks ++ text) = trimLeft text :=
  List.dropWhile_append_of_pos blank

theorem madeOf_reverse {test : Char → Bool} {text : List Char} (made : MadeOf test text) :
    MadeOf test text.reverse := fun c member => made c (List.mem_reverse.mp member)

theorem trimRight_blanks {blanks : List Char} (blank : MadeOf isBlank blanks) (text : List Char) :
    trimRight (text ++ blanks) = trimRight text := by
  unfold trimRight
  rw [List.reverse_append, List.dropWhile_append_of_pos (madeOf_reverse blank)]

theorem exists_trimLeft (text : List Char) :
    ∃ blanks, MadeOf isBlank blanks ∧ text = blanks ++ trimLeft text :=
  ⟨text.takeWhile isBlank, fun c member => List.all_eq_true.mp List.all_takeWhile c member,
    List.takeWhile_append_dropWhile.symm⟩

theorem exists_trimRight (text : List Char) :
    ∃ blanks, MadeOf isBlank blanks ∧ text = trimRight text ++ blanks := by
  obtain ⟨blanks, blank, split⟩ := exists_trimLeft text.reverse
  refine ⟨blanks.reverse, madeOf_reverse blank, ?_⟩
  have turned := congrArg List.reverse split
  rwa [List.reverse_reverse, List.reverse_append] at turned

/-- What trimming takes away stands at the ends and is blank. -/
theorem exists_trim (text : List Char) : ∃ front back, MadeOf isBlank front ∧
    MadeOf isBlank back ∧ text = front ++ (trim text ++ back) := by
  obtain ⟨front, blankFront, left⟩ := exists_trimLeft text
  obtain ⟨back, blankBack, right⟩ := exists_trimRight (trimLeft text)
  exact ⟨front, back, blankFront, blankBack, left.trans (congrArg (front ++ ·) right)⟩

theorem trimLeft_of_blank {text : List Char} (blank : MadeOf isBlank text) : trimLeft text = [] :=
  (trimLeft_eq_nil_iff text).mpr (List.all_eq_true.mpr blank)

theorem trim_eq_nil_iff (text : List Char) : trim text = [] ↔ isBlankText text = true := by
  constructor
  · intro empty
    obtain ⟨front, back, blankFront, blankBack, split⟩ := exists_trim text
    rw [empty, List.nil_append] at split
    rw [split]
    exact List.all_eq_true.mpr (List.forall_mem_append.mpr ⟨blankFront, blankBack⟩)
  · intro blank
    rw [trim, (trimLeft_eq_nil_iff text).mpr blank]
    rfl

/-- Blanks around a text make no difference. -/
theorem trim_blanks {front back : List Char} (blankFront : MadeOf isBlank front)
    (blankBack : MadeOf isBlank back) (text : List Char) :
    trim (front ++ (text ++ back)) = trim text := by
  unfold trim
  rw [trimLeft_blanks blankFront]
  unfold trimLeft
  rw [List.dropWhile_append]
  split
  · rename_i empty
    have left : trimLeft back = [] := trimLeft_of_blank blankBack
    rw [List.isEmpty_iff.mp empty]
    exact congrArg trimRight left
  · exact trimRight_blanks blankBack _

theorem trim_behind_blanks {blanks : List Char} (blank : MadeOf isBlank blanks)
    (text : List Char) : trim (blanks ++ text) = trim text :=
  congrArg trimRight (trimLeft_blanks blank text)

theorem trim_before_blanks {blanks : List Char} (blank : MadeOf isBlank blanks)
    (text : List Char) : trim (text ++ blanks) = trim text :=
  trim_blanks (List.forall_mem_nil _) blank text

theorem trim_trim (text : List Char) : trim (trim text) = trim text := by
  obtain ⟨front, back, blankFront, blankBack, split⟩ := exists_trim text
  have again := trim_blanks blankFront blankBack (trim text)
  rwa [← split, eq_comm] at again

/-! ## Texts that begin or end with another character -/

theorem trimLeft_cons {c : Char} (other : isBlank c = false) (rest : List Char) :
    trimLeft (c :: rest) = c :: rest :=
  List.dropWhile_cons_of_neg (by simp [other])

theorem trimRight_concat {c : Char} (other : isBlank c = false) (front : List Char) :
    trimRight (front ++ [c]) = front ++ [c] := by
  unfold trimRight
  rw [List.reverse_concat, List.dropWhile_cons_of_neg (by simp [other]), List.reverse_cons,
    List.reverse_reverse]

theorem trim_of_ends {first last : Char} {front rest text : List Char}
    (starts : text = first :: rest) (closes : text = front ++ [last])
    (otherFirst : isBlank first = false) (otherLast : isBlank last = false) :
    trim text = text := by
  have left : trimLeft text = text := by
    rw [starts]
    exact trimLeft_cons otherFirst rest
  unfold trim
  rw [left, closes]
  exact trimRight_concat otherLast front

/-- A text without blanks is trimmed. -/
theorem trim_of_solid {text : List Char} (solid : MadeOf (fun c => !isBlank c) text) :
    trim text = text := by
  cases text with
  | nil => rfl
  | cons first rest =>
      have closes := (List.dropLast_concat_getLast (List.cons_ne_nil first rest)).symm
      refine trim_of_ends rfl closes ?_ ?_
      · simpa using solid first List.mem_cons_self
      · simpa using solid _ (List.getLast_mem (List.cons_ne_nil first rest))

/-- Behind another character, trimming on the right sees only what follows it. -/
theorem trimRight_append {c : Char} (other : isBlank c = false) (front back : List Char) :
    trimRight (front ++ c :: back) = front ++ c :: trimRight back := by
  have turned : (front ++ c :: back).reverse = back.reverse ++ (front ++ [c]).reverse := by
    simp
  unfold trimRight
  rw [turned, List.dropWhile_append]
  split
  · rename_i empty
    have kept := trimRight_concat other front
    unfold trimRight at kept
    rw [kept, List.isEmpty_iff.mp empty]
    rfl
  · simp

theorem not_blank_head_trimLeft {c : Char} {text rest : List Char}
    (trimmed : trimLeft text = c :: rest) : isBlank c = false := by
  have head := List.head?_dropWhile_not isBlank text
  unfold trimLeft at trimmed
  rw [trimmed] at head
  simpa using head

theorem not_blank_last_trimRight {c : Char} {text front : List Char}
    (trimmed : trimRight text = front ++ [c]) : isBlank c = false := by
  have turned : trimLeft text.reverse = c :: front.reverse := by
    rw [← List.reverse_reverse (trimLeft text.reverse)]
    exact (congrArg List.reverse trimmed).trans (by simp)
  exact not_blank_head_trimLeft turned

theorem trim_trimRight (text : List Char) : trim (trimRight text) = trim text := by
  obtain ⟨blanks, blank, split⟩ := exists_trimRight text
  have behind := trim_before_blanks blank (trimRight text)
  rwa [← split, eq_comm] at behind

theorem not_blank_head_of_trimmed {c : Char} {rest : List Char}
    (trimmed : trim (c :: rest) = c :: rest) : isBlank c = false := by
  obtain ⟨blanks, _, right⟩ := exists_trimRight (trimLeft (c :: rest))
  have head : trimLeft (c :: rest) = c :: (rest ++ blanks) := by
    rw [right]
    exact congrArg (· ++ blanks) trimmed
  exact not_blank_head_trimLeft head

theorem not_blank_last_of_trimmed {c : Char} {front : List Char}
    (trimmed : trim (front ++ [c]) = front ++ [c]) : isBlank c = false :=
  not_blank_last_trimRight trimmed

/-- A trimmed text stays whole when text follows it. -/
theorem trim_append {text : List Char} (trimmed : trim text = text) (filled : text ≠ [])
    (more : List Char) : trim (text ++ more) = text ++ trimRight more := by
  obtain ⟨first, rest, begins⟩ := List.exists_cons_of_ne_nil filled
  have left : trimLeft (text ++ more) = text ++ more := by
    rw [begins] at trimmed ⊢
    exact trimLeft_cons (not_blank_head_of_trimmed trimmed) _
  have whole : text = text.dropLast ++ [text.getLast filled] :=
    (List.dropLast_concat_getLast filled).symm
  have solid : isBlank (text.getLast filled) = false :=
    not_blank_last_trimRight (trimmed.trans whole)
  unfold trim
  rw [left]
  calc trimRight (text ++ more)
      = trimRight (text.dropLast ++ text.getLast filled :: more) :=
        congrArg trimRight (by simpa using congrArg (· ++ more) whole)
    _ = text.dropLast ++ text.getLast filled :: trimRight more := trimRight_append solid _ _
    _ = text ++ trimRight more := by simpa using congrArg (· ++ trimRight more) whole.symm

end RelationQuery.Text

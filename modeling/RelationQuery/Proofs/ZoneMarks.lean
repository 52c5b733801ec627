import RelationQuery.Proofs.CharRuns
import RelationQuery.Proofs.DecimalText
import RelationQuery.Calendar.Read

/-!
# The mark of universal time

The readers of dates and times pass digits, blanks and marks, and leave the rest. None of them
passes the letter for universal time but as an offset of its own, so a text with this letter can only
be read in the internet form, and only if the letter ends it.
-/

namespace RelationQuery.Calendar

open Text
open Sql (MadeOf)

/-! ## What readers leave -/

/-- What a reader leaves, behind characters none of which says universal time. -/
def Passes (text rest : List Char) : Prop := ∃ front, text = front ++ rest ∧ 'Z' ∉ front

namespace Passes

variable {text rest more : List Char}

theorem refl (text : List Char) : Passes text text := ⟨[], rfl, List.not_mem_nil⟩

theorem trans (first : Passes text rest) (second : Passes rest more) : Passes text more := by
  obtain ⟨front, rfl, none⟩ := first
  obtain ⟨back, rfl, none'⟩ := second
  refine ⟨front ++ back, (List.append_assoc _ _ _).symm, fun member => ?_⟩
  rcases List.mem_append.mp member with early | late
  · exact none early
  · exact none' late

theorem mem_rest (passes : Passes text rest) (zone : 'Z' ∈ text) : 'Z' ∈ rest := by
  obtain ⟨front, rfl, none⟩ := passes
  exact (List.mem_append.mp zone).resolve_left none

theorem not_mem (passes : Passes text []) : 'Z' ∉ text :=
  fun zone => nomatch passes.mem_rest zone

theorem mem_text (passes : Passes text rest) {c : Char} (member : c ∈ rest) : c ∈ text := by
  obtain ⟨front, rfl, -⟩ := passes
  exact List.mem_append_right front member

theorem of_cons {c : Char} (other : c ≠ 'Z') (rest : List Char) : Passes (c :: rest) rest :=
  ⟨[c], rfl, by simpa using other.symm⟩

theorem of_run {test : Char → Bool} {run : List Char} (made : MadeOf test run)
    (other : test 'Z' = false) (rest : List Char) : Passes (run ++ rest) rest :=
  ⟨run, rfl, made.not_mem other⟩

theorem dropWhile {test : Char → Bool} (other : test 'Z' = false) (text : List Char) :
    Passes text (text.dropWhile test) := by
  have made : MadeOf test (text.takeWhile test) := fun c member =>
    List.all_eq_true.mp List.all_takeWhile c member
  have run := of_run made other (text.dropWhile test)
  rwa [List.takeWhile_append_dropWhile] at run

theorem trimLeft (text : List Char) : Passes text (Text.trimLeft text) :=
  dropWhile (by decide) text

theorem cutDigits (count : Nat) (text : List Char) : Passes text (Text.cutDigits count text).2 := by
  have run := of_run (isDigit_cutDigits count text) rfl (Text.cutDigits count text).2
  rwa [cutDigits_append] at run

theorem of_cutNumber? {count n : Nat} (cut : cutNumber? count text = some (n, rest)) :
    Passes text rest := by
  unfold cutNumber? at cut
  dsimp only at cut
  split at cut
  · cases cut
    exact cutDigits count text
  · cases cut

theorem of_cutChar? {c : Char} (other : c ≠ 'Z') (cut : cutChar? c text = some rest) :
    Passes text rest := by
  obtain rfl := cutChar?_eq_some_iff.mp cut
  exact of_cons other rest

theorem of_readField? {count n : Nat} (read : readField? count text = some (n, rest)) :
    Passes text rest := by
  unfold readField? at read
  dsimp only at read
  split at read
  · cases read
  · cases read
    exact (trimLeft text).trans (cutDigits count _)

theorem of_readSigned {n : Nat} (read : readYear?.readSigned text = some (n, rest)) :
    Passes text rest := by
  unfold readYear?.readSigned at read
  dsimp only at read
  split at read
  · cases read
  · cases read
    exact dropWhile rfl text

theorem of_readYear? {year : Int} (read : readYear? text = some (year, rest)) :
    Passes text rest := by
  refine (trimLeft text).trans ?_
  unfold readYear? at read
  split at read
  · rename_i digits begins
    obtain ⟨⟨n, found⟩, signed, same⟩ := Option.map_eq_some_iff.mp read
    cases same
    rw [begins]
    exact (of_cons (by decide) digits).trans (of_readSigned signed)
  · rename_i digits begins
    obtain ⟨⟨n, found⟩, signed, same⟩ := Option.map_eq_some_iff.mp read
    cases same
    rw [begins]
    exact (of_cons (by decide) digits).trans (of_readSigned signed)
  · obtain ⟨⟨n, found⟩, field, same⟩ := Option.map_eq_some_iff.mp read
    cases same
    exact of_readField? field

theorem of_readCivil? {civil : Civil} (read : readCivil? text = some (civil, rest)) :
    Passes text rest := by
  obtain ⟨⟨year, r₁⟩, years, read⟩ := Option.bind_eq_some_iff.mp read
  obtain ⟨r₂, front, read⟩ := Option.bind_eq_some_iff.mp read
  obtain ⟨⟨month, r₃⟩, months, read⟩ := Option.bind_eq_some_iff.mp read
  obtain ⟨r₄, back, read⟩ := Option.bind_eq_some_iff.mp read
  obtain ⟨⟨day, r₅⟩, days, same⟩ := Option.bind_eq_some_iff.mp read
  cases same
  exact (of_readYear? years).trans ((of_cutChar? (by decide) front).trans
    ((of_readField? months).trans ((of_cutChar? (by decide) back).trans (of_readField? days))))

theorem of_readFraction? {nanos : Nat} (read : readFraction? text = some (nanos, rest)) :
    Passes text rest := by
  unfold readFraction? at read
  split at read
  · rename_i digits
    dsimp only at read
    split at read
    · cases read
    · cases read
      exact (of_cons (by decide) digits).trans (dropWhile rfl digits)
  · cases read
    exact refl _

/-- A time has a colon. -/
theorem of_readTime? {time : TimeOfDay} (read : readTime? text = some (time, rest)) :
    Passes text rest ∧ ':' ∈ text := by
  obtain ⟨⟨hour, r₁⟩, hours, read⟩ := Option.bind_eq_some_iff.mp read
  obtain ⟨r₂, front, read⟩ := Option.bind_eq_some_iff.mp read
  obtain ⟨⟨minute, r₃⟩, minutes, read⟩ := Option.bind_eq_some_iff.mp read
  obtain ⟨r₄, back, read⟩ := Option.bind_eq_some_iff.mp read
  obtain ⟨⟨second, r₅⟩, seconds, read⟩ := Option.bind_eq_some_iff.mp read
  obtain ⟨⟨nanos, r₆⟩, fraction, same⟩ := Option.bind_eq_some_iff.mp read
  cases same
  constructor
  · exact (of_readField? hours).trans ((of_cutChar? (by decide) front).trans
      ((of_readField? minutes).trans ((of_cutChar? (by decide) back).trans
        ((of_readField? seconds).trans (of_readFraction? fraction)))))
  · refine (of_readField? hours).mem_text ?_
    rw [cutChar?_eq_some_iff.mp front]
    exact List.mem_cons_self

end Passes

/-- The free form of a moment has a colon, and does not say universal time. -/
theorem marks_of_readDateTime? {between : List Char → Option (List Char)}
    (passes : ∀ text rest, between text = some rest → Passes text rest) {text : List Char}
    {moment : Timestamp} (read : readDateTime? between text = some moment) :
    ':' ∈ text ∧ 'Z' ∉ text := by
  obtain ⟨⟨civil, r₁⟩, civils, read⟩ := Option.bind_eq_some_iff.mp read
  obtain ⟨r₂, gap, read⟩ := Option.bind_eq_some_iff.mp read
  obtain ⟨⟨time, r₃⟩, times, read⟩ := Option.bind_eq_some_iff.mp read
  have front := (Passes.of_readCivil? civils).trans (passes _ _ gap)
  obtain ⟨back, colon⟩ := Passes.of_readTime? times
  refine ⟨front.mem_text colon, ?_⟩
  dsimp only at read
  split at read
  · rename_i empty
    obtain rfl : r₃ = [] := List.isEmpty_iff.mp empty
    exact (front.trans back).not_mem
  · cases read

theorem zone_of_readDate? {text : List Char} {moment : Timestamp}
    (read : readDate? text = some moment) : 'Z' ∉ text := by
  obtain ⟨⟨civil, rest⟩, civils, read⟩ := Option.bind_eq_some_iff.mp read
  dsimp only at read
  split at read
  · rename_i empty
    obtain rfl : rest = [] := List.isEmpty_iff.mp empty
    exact (Passes.of_readCivil? civils).not_mem
  · cases read

theorem zone_of_readHours? {text : List Char} {size : Nat × List Char → Nat × List Char → Int}
    {offset : Int}
    (read : (do
      let hours ← cutNumber? 2 text
      let minutes ← cutNumber? 2 (← cutChar? ':' hours.2)
      if minutes.2.isEmpty && minutes.1 < 60 && hours.1 < 24 then some (size hours minutes)
      else none) = some offset) : 'Z' ∉ text := by
  obtain ⟨⟨hours, r₁⟩, cutHours, read⟩ := Option.bind_eq_some_iff.mp read
  obtain ⟨r₂, colon, read⟩ := Option.bind_eq_some_iff.mp read
  obtain ⟨⟨minutes, r₃⟩, cutMinutes, read⟩ := Option.bind_eq_some_iff.mp read
  split at read
  · rename_i ends
    rw [Bool.and_eq_true, Bool.and_eq_true] at ends
    obtain rfl : r₃ = [] := List.isEmpty_iff.mp ends.1.1
    exact ((Passes.of_cutNumber? cutHours).trans
      ((Passes.of_cutChar? (by decide) colon).trans (Passes.of_cutNumber? cutMinutes))).not_mem
  · cases read

/-- Of the offsets only the letter holds the letter. -/
theorem eq_zone_of_readOffset? {text : List Char} {offset : Int}
    (read : readOffset? text = some offset) (zone : 'Z' ∈ text) : text = ['Z'] := by
  unfold readOffset? at read
  split at read
  · rfl
  · exact absurd zone (by decide)
  · have late := List.mem_of_ne_of_mem (by rintro rfl; simp at read) zone
    dsimp only at read
    split at read
    · exact absurd late (zone_of_readHours? read)
    · split at read
      · exact absurd late (zone_of_readHours? read)
      · cases read
  · cases read

end RelationQuery.Calendar

import RelationQuery.Proofs.CharRuns
import RelationQuery.Text.Property
import RelationQuery.Text.Words

/-!
# Decimal digits among the characters

The digits of ASCII are decimal digits, and neither white space nor the marks of dates and times are.
Both are looked up in the table of general categories, which is read from the front for that: its
runs up to a place are settled by the text up to there.
-/

namespace RelationQuery.Text

open Sql (MadeOf)

/-! ## Tables read from the front -/

theorem exists_groupsFrom (starts : Char → Bool) (c : Char) (rest : List Char) :
    ∃ others groups, groupsFrom starts (c :: rest) = (c :: others) :: groups := by
  rw [groupsFrom]
  split
  · split
    · exact ⟨_, _, rfl⟩
    · exact ⟨_, _, rfl⟩
  · exact ⟨_, _, rfl⟩

/-- A group goes on up to where the next one starts. -/
theorem groupsFrom_cons {starts : Char → Bool} {run text : List Char}
    (inside : MadeOf (fun c => !starts c) run) (ends : Stops (fun c => !starts c) text)
    (letter : Char) :
    groupsFrom starts (letter :: (run ++ text)) = (letter :: run) :: groupsFrom starts text := by
  induction run generalizing letter with
  | nil =>
      cases text with
      | nil => rfl
      | cons c rest =>
          obtain ⟨others, groups, begins⟩ := exists_groupsFrom starts c rest
          have first : starts c = true := by simpa using ends c rfl
          rw [List.nil_append, groupsFrom, begins]
          simp only [first, if_true]
  | cons c run ih =>
      obtain ⟨first, later⟩ := List.forall_mem_cons.mp inside
      have within : ¬starts c = true := by simpa using first
      rw [List.cons_append, groupsFrom, ih later c]
      simp only [within]
      rfl

/-- The runs that a text of letters and lengths writes, behind a letter and its digits so far. -/
def runsFrom (letter : Char) (digits : List Char) : List Char → List (Char × Nat)
  | [] => [(letter, runLength digits)]
  | c :: rest =>
      if isHexDigit c then runsFrom letter (digits ++ [c]) rest
      else (letter, runLength digits) :: runsFrom c [] rest

theorem filterMap_groupsFrom {digits : List Char} (made : MadeOf isHexDigit digits) (letter : Char)
    (text : List Char) :
    (groupsFrom (fun c => !isHexDigit c) (letter :: (digits ++ text))).filterMap
        (fun group => match group with
          | letter :: digits => some (letter, runLength digits)
          | [] => none) =
      runsFrom letter digits text := by
  have inside : MadeOf (fun c => !!isHexDigit c) digits := by simpa [MadeOf] using made
  induction text generalizing letter digits with
  | nil =>
      rw [groupsFrom_cons inside stops_nil]
      rfl
  | cons c rest ih =>
      rw [runsFrom]
      split
      · rename_i digit
        have longer : MadeOf isHexDigit (digits ++ [c]) :=
          List.forall_mem_append.mpr ⟨made, List.forall_mem_singleton.mpr digit⟩
        rw [← ih longer letter (by simpa [MadeOf] using longer), List.append_assoc]
        rfl
      · rename_i other
        have ends : Stops (fun c => !!isHexDigit c) (c :: rest) :=
          stops_cons (by simpa using other) rest
        rw [groupsFrom_cons inside ends,
          ← ih (List.forall_mem_nil _) c (List.forall_mem_nil _)]
        rfl

theorem runs_ofLetters {lines : List String} {letter : Char}
    (first : (joined lines).head? = some letter) :
    (RunTable.ofLetters lines).runs = runsFrom letter [] (joined lines).tail := by
  obtain ⟨text, written⟩ := List.head?_eq_some_iff.mp first
  rw [← filterMap_groupsFrom (List.forall_mem_nil _), List.nil_append, written, List.tail_cons,
    ← written]
  rfl

theorem joined_cons (line : String) (lines : List String) :
    joined (line :: lines) = line.toList ++ joined lines := rfl

/-! ## Decimal digits -/

/-- White space, and the marks that stand between the parts of dates and times. -/
def separatorCodes : List Nat :=
  List.range' 9 5 ++ [0x20, 0x85, 0xA0, 0x1680] ++ List.range' 0x2000 11 ++
    [0x2028, 0x2029, 0x202F, 0x205F, 0x3000] ++ ['+', '-', ':'].map Char.toNat

theorem exists_table_lines :
    ∃ lines, Category.table = .ofLetters lines ∧ (joined lines).head? = some 'C' ∧
      (∀ code ∈ List.range' 48 10,
        RunTable.valueAt (runsFrom 'C' [] (joined lines).tail) code = some 'D') ∧
      ∀ code ∈ separatorCodes,
        RunTable.valueAt (runsFrom 'C' [] (joined lines).tail) code ≠ some 'D' := by
  refine ⟨_, rfl, ?_, ?_⟩
  · rw [joined_cons, String.toList_ofList]
    exact rfl
  · -- The first 44 lines reach beyond the last separator; the others stay closed strings.
    iterate 44 rw [joined_cons, String.toList_ofList]
    decide +kernel

/-- The part of the table that lists white space has the digits of ASCII as decimal digits, and no
separator. -/
theorem valueAt_table :
    (∀ code ∈ List.range' 48 10, RunTable.valueAt Category.table.runs code = some 'D') ∧
      ∀ code ∈ separatorCodes, RunTable.valueAt Category.table.runs code ≠ some 'D' := by
  obtain ⟨lines, same, first, settled⟩ := exists_table_lines
  rwa [same, runs_ofLetters first]

theorem Category.ofLetter_eq_decimalNumber {letter : Char} :
    Category.ofLetter letter = .decimalNumber ↔ letter = 'D' := by
  unfold Category.ofLetter
  split <;> simp_all

theorem category_eq_decimalNumber (c : Char) :
    category c = .decimalNumber ↔ RunTable.valueAt Category.table.runs c.toNat = some 'D' := by
  rw [category, RunTable.value?]
  generalize RunTable.valueAt Category.table.runs c.toNat = entry
  cases entry with
  | none => simp
  | some letter =>
      rw [Option.some.injEq, ← Category.ofLetter_eq_decimalNumber]
      rfl

theorem isDecimal_of_isDigit {c : Char} (digit : c.isDigit = true) : isDecimal c = true := by
  have bounds := Sql.bounds_of_digit digit
  refine beq_iff_eq.mpr ((category_eq_decimalNumber c).mpr (valueAt_table.1 c.toNat ?_))
  rw [List.mem_range'_1]
  omega

theorem not_isDecimal_of_separator {c : Char} (separates : c.toNat ∈ separatorCodes) :
    isDecimal c = false :=
  beq_false_of_ne fun decimal =>
    valueAt_table.2 c.toNat separates ((category_eq_decimalNumber c).mp decimal)

theorem mem_separatorCodes_of_isBlank {c : Char} (blank : isBlank c = true) :
    c.toNat ∈ separatorCodes := by
  simp only [isBlank, Bool.or_eq_true, Bool.and_eq_true, decide_eq_true_eq, beq_iff_eq] at blank
  simp only [separatorCodes, List.mem_append, List.mem_range'_1, List.mem_cons]
  omega

theorem not_blank_of_isDecimal {c : Char} (decimal : isDecimal c = true) : isBlank c = false := by
  refine Bool.eq_false_iff.mpr fun blank => ?_
  rw [not_isDecimal_of_separator (mem_separatorCodes_of_isBlank blank)] at decimal
  cases decimal

theorem solid_of_isDecimal {digits : List Char} (made : MadeOf isDecimal digits) :
    MadeOf (fun c => !isBlank c) digits := by
  intro c member
  simp [not_blank_of_isDecimal (made c member)]

/-- A decimal digit is none of the marks in dates and times. -/
theorem ne_of_isDecimal {c d : Char} (decimal : isDecimal c = true)
    (separates : d.toNat ∈ separatorCodes) : c ≠ d := by
  rintro rfl
  rw [not_isDecimal_of_separator separates] at decimal
  cases decimal

end RelationQuery.Text

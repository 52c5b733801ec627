import Mathlib.Data.List.Induction
import RelationQuery.Proofs.DecimalCharacters

/-!
# Membership in combined sets of characters

A combination of sets is kept as the merge of their changes. Its members are the combination of
theirs, whenever the changes of both stand in order; so a property that is put together from tables
can be looked up in the tables.
-/

namespace RelationQuery.Text

/-! ## Changes in order -/

theorem sorted_changeAt {before after : Bool} {place : Nat} {rest : List Nat}
    (sorted : rest.Pairwise (· ≤ ·)) (behind : ∀ change ∈ rest, place ≤ change) :
    (changeAt before after place rest).Pairwise (· ≤ ·) := by
  unfold changeAt
  split
  · exact sorted
  · exact List.pairwise_cons.mpr ⟨behind, sorted⟩

theorem forall_le_of_pairwise {place first : Nat} {rest : List Nat} (before : place ≤ first)
    (sorted : (first :: rest).Pairwise (· ≤ ·)) : ∀ change ∈ first :: rest, place ≤ change :=
  List.forall_mem_cons.mpr
    ⟨before, fun _ member => Nat.le_trans before (List.rel_of_pairwise_cons sorted member)⟩

/-- A merge stays in order behind a change that stands before what is merged. -/
theorem sorted_changeAt_mergeChanges {combine : Bool → Bool → Bool} {a b before after : Bool}
    {place : Nat} {xs ys : List Nat} (sorted : (mergeChanges combine a b xs ys).Pairwise (· ≤ ·))
    (behind_xs : ∀ x ∈ xs, place ≤ x) (behind_ys : ∀ y ∈ ys, place ≤ y) :
    (changeAt before after place (mergeChanges combine a b xs ys)).Pairwise (· ≤ ·) :=
  sorted_changeAt sorted fun change member =>
    (mem_mergeChanges member).elim (behind_xs change) (behind_ys change)

theorem sorted_mergeChanges (combine : Bool → Bool → Bool) {a b : Bool} {xs ys : List Nat}
    (sorted_xs : xs.Pairwise (· ≤ ·)) (sorted_ys : ys.Pairwise (· ≤ ·)) :
    (mergeChanges combine a b xs ys).Pairwise (· ≤ ·) := by
  fun_induction mergeChanges combine a b xs ys with
  | case1 => exact .nil
  | case2 a b x xs ih =>
      exact sorted_changeAt_mergeChanges (ih sorted_xs.of_cons sorted_ys)
        (fun _ => List.rel_of_pairwise_cons sorted_xs) (List.forall_mem_nil _)
  | case3 a b y ys ih =>
      exact sorted_changeAt_mergeChanges (ih sorted_xs sorted_ys.of_cons)
        (List.forall_mem_nil _) (fun _ => List.rel_of_pairwise_cons sorted_ys)
  | case4 a b x xs y ys less ih =>
      exact sorted_changeAt_mergeChanges (ih sorted_xs.of_cons sorted_ys)
        (fun _ => List.rel_of_pairwise_cons sorted_xs)
        (forall_le_of_pairwise (Nat.le_of_lt less) sorted_ys)
  | case5 a b x xs y ys _ less ih =>
      exact sorted_changeAt_mergeChanges (ih sorted_xs sorted_ys.of_cons)
        (forall_le_of_pairwise (Nat.le_of_lt less) sorted_xs)
        (fun _ => List.rel_of_pairwise_cons sorted_ys)
  | case6 a b x xs y ys notLess notMore ih =>
      obtain rfl : x = y := Nat.le_antisymm (Nat.le_of_not_lt notMore) (Nat.le_of_not_lt notLess)
      exact sorted_changeAt_mergeChanges (ih sorted_xs.of_cons sorted_ys.of_cons)
        (fun _ => List.rel_of_pairwise_cons sorted_xs)
        (fun _ => List.rel_of_pairwise_cons sorted_ys)

namespace CharSet

/-- The changes stand in order. Where two are the same, membership is back behind them. -/
def Sorted (set : CharSet) : Prop := set.changes.Pairwise (· ≤ ·)

variable {a b : CharSet}

theorem sorted_union (sortedA : a.Sorted) (sortedB : b.Sorted) : (a.union b).Sorted :=
  sorted_mergeChanges _ sortedA sortedB

theorem contains_union (sortedA : a.Sorted) (sortedB : b.Sorted) (c : Char) :
    (a.union b).contains c = (a.contains c || b.contains c) :=
  insideAt_mergeChanges (fun a b => a || b) (a := false) (b := false) sortedA sortedB c.toNat

theorem sorted_unionAll {sets : List CharSet} (sorted : ∀ set ∈ sets, set.Sorted) :
    (unionAll sets).Sorted := by
  induction sets using List.reverseRecOn with
  | nil => exact .nil
  | append_singleton front last ih =>
      have inner := ih fun set member => sorted set (List.mem_append_left _ member)
      unfold unionAll at inner ⊢
      rw [List.foldl_append]
      exact sorted_union inner (sorted last (by simp))

theorem contains_unionAll {sets : List CharSet} (sorted : ∀ set ∈ sets, set.Sorted) (c : Char) :
    (unionAll sets).contains c = sets.any (·.contains c) := by
  induction sets using List.reverseRecOn with
  | nil => rfl
  | append_singleton front last ih =>
      have front_sorted : ∀ set ∈ front, set.Sorted := fun set member =>
        sorted set (List.mem_append_left _ member)
      have inner := sorted_unionAll front_sorted
      have here := ih front_sorted
      unfold unionAll at inner here ⊢
      rw [List.foldl_append]
      refine (contains_union inner (sorted last (by simp)) c).trans ?_
      rw [here, List.any_append]
      simp

theorem contains_any (c : Char) : any.contains c = true := by
  have valid := c.valid
  simp only [UInt32.isValidChar, Nat.isValidChar] at valid
  change insideAt false [0, 0xD800, 0xE000, 0x110000] c.toNat = true
  have code : c.toNat = c.val.toNat := rfl
  simp only [insideAt]
  grind

/-- A table is cut to the characters there are, and all that it can be asked for are. -/
theorem contains_within {changes : List Nat} (sorted : changes.Pairwise (· ≤ ·)) (c : Char) :
    (intersection any ⟨changes⟩).contains c = insideAt false changes c.toNat := by
  have ordered : any.changes.Pairwise (· ≤ ·) := by decide
  have both := insideAt_mergeChanges (fun a b => a && b) (a := false) (b := false) ordered sorted
    c.toNat
  have whole : insideAt false any.changes c.toNat = true := contains_any c
  rw [whole, Bool.true_and] at both
  exact both

theorem sorted_within {changes : List Nat} (sorted : changes.Pairwise (· ≤ ·)) :
    (intersection any ⟨changes⟩).Sorted :=
  sorted_mergeChanges _ (by decide) sorted

end CharSet

/-! ## Sets read from tables -/

theorem le_of_mem_placesBehind {place change : Nat} {lengths : List Nat}
    (member : change ∈ placesBehind place lengths) : place ≤ change := by
  induction lengths generalizing place with
  | nil => cases member
  | cons length rest ih =>
      rcases List.mem_cons.mp member with rfl | later
      · exact Nat.le_add_right place length
      · exact Nat.le_trans (Nat.le_add_right place length) (ih later)

theorem sorted_placesBehind (place : Nat) (lengths : List Nat) :
    (placesBehind place lengths).Pairwise (· ≤ ·) := by
  induction lengths generalizing place with
  | nil => exact .nil
  | cons length rest ih =>
      exact List.pairwise_cons.mpr ⟨fun _ member => le_of_mem_placesBehind member, ih _⟩

theorem CharSet.sorted_ofRuns (lines : List String) : (CharSet.ofRuns lines).Sorted :=
  CharSet.sorted_within (sorted_placesBehind 0 _)

theorem CharSet.contains_ofRuns (lines : List String) (c : Char) :
    (CharSet.ofRuns lines).contains c =
      insideAt false (placesBehind 0 (pointedNumbers (joined lines))) c.toNat :=
  CharSet.contains_within (sorted_placesBehind 0 _) c

namespace RunTable

variable {α : Type} (wanted : α → Bool)

theorem le_of_mem_changesWhere {inside : Bool} {place change : Nat} {runs : List (α × Nat)}
    (member : change ∈ changesWhere wanted inside place runs) : place ≤ change := by
  induction runs generalizing inside place with
  | nil =>
      unfold changesWhere at member
      split at member
      · exact Nat.le_of_eq (List.mem_singleton.mp member).symm
      · cases member
  | cons run rest ih =>
      obtain ⟨value, length⟩ := run
      unfold changesWhere at member
      split at member
      · exact Nat.le_trans (Nat.le_add_right place length) (ih member)
      · rcases List.mem_cons.mp member with rfl | later
        · exact Nat.le_refl _
        · exact Nat.le_trans (Nat.le_add_right place length) (ih later)

theorem sorted_changesWhere (inside : Bool) (place : Nat) (runs : List (α × Nat)) :
    (changesWhere wanted inside place runs).Pairwise (· ≤ ·) := by
  induction runs generalizing inside place with
  | nil =>
      unfold changesWhere
      split <;> simp
  | cons run rest ih =>
      obtain ⟨value, length⟩ := run
      unfold changesWhere
      split
      · exact ih inside _
      · refine List.pairwise_cons.mpr ⟨fun change member => ?_, ih _ _⟩
        exact Nat.le_trans (Nat.le_add_right place length) (le_of_mem_changesWhere wanted member)

/-- Behind the changes of a table it holds what is wanted of the run there. -/
theorem insideAt_changesWhere (inside : Bool) (place : Nat) (runs : List (α × Nat)) (n : Nat) :
    insideAt inside (changesWhere wanted inside place runs) n =
      if n < place then inside else (valueAt runs (n - place)).any wanted := by
  induction runs generalizing inside place with
  | nil => cases inside <;> simp [changesWhere, insideAt, valueAt]
  | cons run rest ih =>
      obtain ⟨value, length⟩ := run
      have cut : n - (place + length) = n - place - length := Nat.sub_add_eq n place length
      unfold changesWhere valueAt
      split
      · rename_i same
        rw [ih, cut]
        grind
      · rename_i differs
        have flipped : (!inside) = wanted value := by
          cases inside <;> cases known : wanted value <;> simp_all
        rw [insideAt, ih, cut, flipped]
        grind

theorem sorted_set (table : RunTable α) : (table.set wanted).Sorted :=
  CharSet.sorted_within (sorted_changesWhere wanted false 0 _)

theorem contains_set (table : RunTable α) (c : Char) :
    (table.set wanted).contains c = (table.value? c).any wanted :=
  (CharSet.contains_within (sorted_changesWhere wanted false 0 _) c).trans
    (insideAt_changesWhere wanted false 0 table.runs c.toNat)

end RunTable

/-! ## Capitals and marks -/

open Category in
theorem isCased_of_capital {c : Char} (capital : table.value? c = some 'U') : isCased c = true := by
  have upperSorted : uppercase.Sorted :=
    CharSet.sorted_union (RunTable.sorted_set _ table) (CharSet.sorted_ofRuns _)
  have lowerSorted : lowercase.Sorted :=
    CharSet.sorted_union (RunTable.sorted_set _ table) (CharSet.sorted_ofRuns _)
  have upper : uppercase.contains c = true := by
    have sorted : otherUppercase.Sorted := CharSet.sorted_ofRuns _
    refine (CharSet.contains_union (RunTable.sorted_set _ table) sorted c).trans ?_
    rw [RunTable.contains_set, capital]
    rfl
  unfold isCased cased
  rw [CharSet.contains_unionAll, List.any_cons, List.any_cons, upper, Bool.true_or, Bool.or_true]
  simpa using ⟨lowerSorted, upperSorted, RunTable.sorted_set _ table⟩

open Category in
/-- What case ignores, by the category of a character and a list of others. -/
theorem isCaseIgnorable_eq (c : Char) :
    isCaseIgnorable c = (((table.value? c).any fun letter =>
      [nonspacingMark, enclosingMark, format, modifierLetter, modifierSymbol].contains
        (ofLetter letter)) || otherIgnorable.contains c) := by
  have sorted : otherIgnorable.Sorted := CharSet.sorted_ofRuns _
  refine (CharSet.contains_union (RunTable.sorted_set _ table) sorted c).trans ?_
  rw [RunTable.contains_set]

/-- Capitals that share their small letter with another capital, and these others. -/
def twinCodes : List Nat :=
  [0x49, 0x4B, 0xC5, 0x130, 0x398, 0x3A9, 0x3F4, 0x2126, 0x212A, 0x212B]

/-- The dot above, which the small letter of one capital keeps. -/
def dotAbove : Char := '\u0307'

theorem exists_capital_lines :
    ∃ lines, Category.table = .ofLetters lines ∧ (joined lines).head? = some 'C' ∧
      (∀ code ∈ twinCodes,
        RunTable.valueAt (runsFrom 'C' [] (joined lines).tail) code = some 'U') ∧
      RunTable.valueAt (runsFrom 'C' [] (joined lines).tail) dotAbove.toNat = some 'n' := by
  refine ⟨_, rfl, ?_, ?_⟩
  · rw [joined_cons, String.toList_ofList]
    exact rfl
  · -- The last of the capitals is among the first 38 lines; the others stay closed strings.
    iterate 38 rw [joined_cons, String.toList_ofList]
    decide +kernel

theorem exists_otherIgnorable_lines :
    ∃ lines, otherIgnorable = .ofRuns lines ∧ ∀ code ∈ twinCodes,
      insideAt false (placesBehind 0 (pointedNumbers (joined lines))) code = false := by
  refine ⟨_, rfl, ?_⟩
  rw [joined_cons, String.toList_ofList]
  decide +kernel

theorem cased_twin {c : Char} (twin : c.toNat ∈ twinCodes) :
    isCased c = true ∧ isCaseIgnorable c = false := by
  obtain ⟨lines, same, first, capitals, -⟩ := exists_capital_lines
  have capital : Category.table.value? c = some 'U' := by
    rw [same, RunTable.value?, runs_ofLetters first]
    exact capitals c.toNat twin
  have unlisted : otherIgnorable.contains c = false := by
    obtain ⟨lines, same, outside⟩ := exists_otherIgnorable_lines
    rw [same, CharSet.contains_ofRuns]
    exact outside c.toNat twin
  refine ⟨isCased_of_capital capital, ?_⟩
  rw [isCaseIgnorable_eq, capital, unlisted]
  rfl

theorem isCaseIgnorable_dotAbove : isCaseIgnorable dotAbove = true := by
  obtain ⟨lines, same, first, -, mark⟩ := exists_capital_lines
  have found : Category.table.value? dotAbove = some 'n' := by
    rw [same, RunTable.value?, runs_ofLetters first]
    exact mark
  rw [isCaseIgnorable_eq, found]
  rfl

end RelationQuery.Text

import Mathlib.Data.List.Nodup
import RelationQuery.Proofs.CharacterSets
import RelationQuery.Text.Case
import RelationQuery.Text.Digits

/-!
# The tables of letter case

What the tables for upper and lower case keep: every character has one entry at most, no character
that comes out goes in, and neither a blank nor a mark of dates and times is moved. A capital that
is its own upper case comes back from its small letter, but for the few that share it with another.
-/

namespace RelationQuery.Text

/-! ## Lists of code points as numbers -/

/-- The number whose bits stand at some code points. -/
def codeMask (codes : List Nat) : Nat := codes.foldr (fun code mask => mask ||| 1 <<< code) 0

theorem testBit_codeMask (codes : List Nat) (n : Nat) :
    (codeMask codes).testBit n = decide (n ∈ codes) := by
  induction codes with
  | nil => simp [codeMask]
  | cons code rest ih =>
      have bit : (1 <<< code).testBit n = decide (n = code) := by
        rw [Nat.one_shiftLeft, Nat.testBit_two_pow]
        exact decide_eq_decide.mpr eq_comm
      unfold codeMask at ih ⊢
      rw [List.foldr_cons, Nat.testBit_or, ih, bit, ← Bool.decide_or]
      exact decide_eq_decide.mpr (or_comm.trans List.mem_cons.symm)

theorem not_mem_of_codeMask {a b : List Nat} (apart : codeMask a &&& codeMask b = 0) {n : Nat}
    (member : n ∈ a) : n ∉ b := by
  intro other
  have both := congrArg (·.testBit n) apart
  simp [testBit_codeMask, member, other] at both

/-- Whether codes differ from each other and from those whose bits stand in a number. -/
def distinctFrom : Nat → List Nat → Bool
  | _, [] => true
  | seen, code :: rest => !seen.testBit code && distinctFrom (seen ||| 1 <<< code) rest

theorem nodup_of_distinctFrom {seen : Nat} {codes : List Nat}
    (distinct : distinctFrom seen codes = true) :
    codes.Nodup ∧ ∀ code ∈ codes, seen.testBit code = false := by
  induction codes generalizing seen with
  | nil => exact ⟨.nil, List.forall_mem_nil _⟩
  | cons code rest ih =>
      rw [distinctFrom, Bool.and_eq_true, Bool.not_eq_true'] at distinct
      obtain ⟨inner, unseen⟩ := ih distinct.2
      have each (other : Nat) (member : other ∈ rest) :
          code ≠ other ∧ seen.testBit other = false := by
        have free := unseen other member
        rw [Nat.testBit_or, Bool.or_eq_false_iff, Nat.one_shiftLeft, Nat.testBit_two_pow] at free
        exact ⟨of_decide_eq_false free.2, free.1⟩
      refine ⟨List.nodup_cons.mpr ⟨fun member => (each code member).1 rfl, inner⟩, ?_⟩
      exact List.forall_mem_cons.mpr ⟨distinct.1, fun other member => (each other member).2⟩

/-! ## What the tables keep -/

theorem CaseRun.image?_eq_some_iff {run : CaseRun} (filled : 0 < run.count) (steps : 0 < run.stride)
    {n m : Nat} : run.image? n = some m ↔ (n, m) ∈ run.pairs := by
  unfold image? pairs
  simp only [List.mem_map, List.mem_range, Prod.mk.injEq]
  constructor
  · intro found
    split at found
    · rename_i within
      obtain ⟨after, before, onStep⟩ := within
      obtain ⟨place, apart⟩ := Nat.dvd_of_mod_eq_zero onStep
      have bound : place ≤ run.count - 1 := by
        have far : run.stride * place ≤ run.stride * (run.count - 1) := by omega
        exact Nat.le_of_mul_le_mul_left far steps
      exact ⟨place, by omega, by omega, by simpa [apart] using found⟩
    · cases found
  · rintro ⟨place, within, rfl, rfl⟩
    have far : run.stride * place ≤ run.stride * (run.count - 1) :=
      Nat.mul_le_mul_left _ (by omega)
    rw [if_pos ⟨by omega, by omega, by simp⟩]
    simp

section Tables

variable (runs : List CaseRun) (sequences : List (Nat × List Nat))

def casePairs : List (Nat × Nat) := runs.flatMap CaseRun.pairs

def caseEntries : List (Nat × List Nat) :=
  sequences ++ (casePairs runs).map fun pair => (pair.1, [pair.2])

def caseSources : List Nat := (caseEntries runs sequences).map (·.1)

def caseTargets : List Nat := (caseEntries runs sequences).flatMap (·.2)

/-- What the tables of a mapping keep, so that mapping twice is mapping once and sees no blanks. -/
structure TidyTables : Prop where
  filled : ∀ run ∈ runs, 0 < run.count ∧ 0 < run.stride
  several : ∀ entry ∈ caseEntries runs sequences, entry.2 ≠ []
  valid : ∀ code ∈ caseTargets runs sequences, code.isValidChar
  distinct : (caseSources runs sequences).Nodup
  settled : ∀ code ∈ caseTargets runs sequences, code ∉ caseSources runs sequences
  unmoved : ∀ code ∈ separatorCodes, code ∉ caseSources runs sequences
  unreached : ∀ code ∈ separatorCodes, code ∉ caseTargets runs sequences

def isTidy : Bool :=
  let sources := codeMask (caseSources runs sequences)
  let targets := codeMask (caseTargets runs sequences)
  runs.all (fun run => decide (0 < run.count) && decide (0 < run.stride)) &&
    (caseEntries runs sequences).all (fun entry => !entry.2.isEmpty) &&
    (caseTargets runs sequences).all (fun code => decide (code.isValidChar)) &&
    distinctFrom 0 (caseSources runs sequences) &&
    (targets &&& sources) == 0 && (codeMask separatorCodes &&& sources) == 0 &&
    (codeMask separatorCodes &&& targets) == 0

variable {runs sequences}

theorem tidyTables_of_isTidy (tidy : isTidy runs sequences = true) : TidyTables runs sequences := by
  simp only [isTidy, Bool.and_eq_true, beq_iff_eq] at tidy
  obtain ⟨⟨⟨⟨⟨⟨filled, several⟩, valid⟩, distinct⟩, settled⟩, unmoved⟩, unreached⟩ := tidy
  exact
    { filled := fun run member => by simpa using List.all_eq_true.mp filled run member
      several := fun entry member => by simpa using List.all_eq_true.mp several entry member
      valid := fun code member => by simpa using List.all_eq_true.mp valid code member
      distinct := (nodup_of_distinctFrom distinct).1
      settled := fun _ member => not_mem_of_codeMask settled member
      unmoved := fun _ member => not_mem_of_codeMask unmoved member
      unreached := fun _ member => not_mem_of_codeMask unreached member }

namespace TidyTables

variable (tidy : TidyTables runs sequences) {c d : Char}

include tidy

/-- A character becomes what its entry says, or has none and stays. -/
theorem mapCase_spec (c : Char) :
    (∃ targets, (c.toNat, targets) ∈ caseEntries runs sequences ∧
      mapCase runs sequences c = targets.map Char.ofNat) ∨
    c.toNat ∉ caseSources runs sequences ∧ mapCase runs sequences c = [c] := by
  have ofPair {m : Nat} : (∃ run ∈ runs, run.image? c.toNat = some m) ↔
      (c.toNat, m) ∈ casePairs runs := by
    unfold casePairs
    rw [List.mem_flatMap]
    refine exists_congr fun run => and_congr_right fun member => ?_
    exact CaseRun.image?_eq_some_iff (tidy.filled run member).1 (tidy.filled run member).2
  unfold mapCase
  cases listed : sequences.lookup c.toNat with
  | some targets =>
      obtain ⟨front, behind, split, -⟩ := List.lookup_eq_some_iff.mp listed
      exact .inl ⟨targets, List.mem_append_left _ (by simp [split]), rfl⟩
  | none =>
      cases moved : runs.findSome? (·.image? c.toNat) with
      | some m =>
          obtain ⟨run, member, image⟩ := List.exists_of_findSome?_eq_some moved
          have pair := ofPair.mp ⟨run, member, image⟩
          exact .inl ⟨[m], List.mem_append_right _ (List.mem_map_of_mem pair), rfl⟩
      | none =>
          refine .inr ⟨fun source => ?_, rfl⟩
          obtain ⟨⟨n, targets⟩, member, rfl⟩ := List.mem_map.mp source
          rcases List.mem_append.mp member with inSequences | inPairs
          · have other := List.lookup_eq_none_iff.mp listed _ inSequences
            simp at other
          · obtain ⟨⟨_, m⟩, pair, same⟩ := List.mem_map.mp inPairs
            cases same
            obtain ⟨run, member, image⟩ := ofPair.mpr pair
            rw [List.findSome?_eq_none_iff.mp moved run member] at image
            cases image

theorem mapCase_of_entry {targets : List Nat}
    (entry : (c.toNat, targets) ∈ caseEntries runs sequences) :
    mapCase runs sequences c = targets.map Char.ofNat := by
  rcases tidy.mapCase_spec c with ⟨others, member, image⟩ | ⟨still, -⟩
  · have same := List.inj_on_of_nodup_map tidy.distinct entry member rfl
    rw [image, (Prod.mk.inj same).2]
  · exact absurd (List.mem_map_of_mem entry) still

theorem mapCase_of_still (still : c.toNat ∉ caseSources runs sequences) :
    mapCase runs sequences c = [c] := by
  rcases tidy.mapCase_spec c with ⟨_, member, -⟩ | ⟨-, image⟩
  · exact absurd (List.mem_map_of_mem member) still
  · exact image

theorem mapCase_ne_nil (c : Char) : mapCase runs sequences c ≠ [] := by
  rcases tidy.mapCase_spec c with ⟨targets, member, image⟩ | ⟨-, image⟩
  · rw [image, ne_eq, List.map_eq_nil_iff]
    exact tidy.several _ member
  · simp [image]

theorem toNat_target {code : Nat} (target : code ∈ caseTargets runs sequences) :
    (Char.ofNat code).toNat = code := by
  rw [Char.ofNat, dif_pos (tidy.valid code target)]
  rfl

/-- A character that comes out is a target, or came in and stayed. -/
theorem mem_mapCase (member : d ∈ mapCase runs sequences c) :
    d.toNat ∈ caseTargets runs sequences ∧ c.toNat ∈ caseSources runs sequences ∨
      d = c ∧ c.toNat ∉ caseSources runs sequences := by
  rcases tidy.mapCase_spec c with ⟨targets, entry, image⟩ | ⟨still, image⟩
  · rw [image] at member
    obtain ⟨code, inside, rfl⟩ := List.mem_map.mp member
    have target : code ∈ caseTargets runs sequences :=
      List.mem_flatMap.mpr ⟨_, entry, inside⟩
    rw [tidy.toNat_target target]
    exact .inl ⟨target, List.mem_map_of_mem entry⟩
  · rw [image] at member
    exact .inr ⟨List.mem_singleton.mp member, still⟩

theorem still_of_mem_mapCase (member : d ∈ mapCase runs sequences c) :
    d.toNat ∉ caseSources runs sequences := by
  rcases tidy.mem_mapCase member with ⟨target, -⟩ | ⟨rfl, still⟩
  · exact tidy.settled _ target
  · exact still

theorem mapCase_of_mem_mapCase (member : d ∈ mapCase runs sequences c) :
    mapCase runs sequences d = [d] :=
  tidy.mapCase_of_still (tidy.still_of_mem_mapCase member)

theorem isBlank_of_mem_mapCase (member : d ∈ mapCase runs sequences c) : isBlank d = isBlank c := by
  rcases tidy.mem_mapCase member with ⟨target, source⟩ | ⟨rfl, -⟩
  · have blank (e : Char) (there : isBlank e = true) := mem_separatorCodes_of_isBlank there
    have dark : isBlank d = false := by
      rw [Bool.eq_false_iff]
      exact fun there => tidy.unreached _ (blank d there) target
    have before : isBlank c = false := by
      rw [Bool.eq_false_iff]
      exact fun there => tidy.unmoved _ (blank c there) source
    rw [dark, before]
  · rfl

end TidyTables

end Tables

/-! ## Back to capitals -/

/-- Pairs of code points as one number, with a block of 17 bits for each first one. -/
def blocksOf (pairs : List (Nat × Nat)) : Nat :=
  pairs.foldr (fun pair blocks => blocks ||| pair.2 <<< (17 * pair.1)) 0

def blockAt (blocks place : Nat) : Nat := (blocks >>> (17 * place)) % 2 ^ 17

theorem blockAt_or (a b place : Nat) :
    blockAt (a ||| b) place = blockAt a place ||| blockAt b place := by
  unfold blockAt
  rw [Nat.shiftRight_or_distrib, Nat.or_mod_two_pow]

theorem blockAt_shiftLeft {value : Nat} (small : value < 2 ^ 17) (home place : Nat) :
    blockAt (value <<< (17 * home)) place = if place = home then value else 0 := by
  unfold blockAt
  rcases Nat.lt_trichotomy place home with before | rfl | behind
  · have wide : 17 * home = 17 * (home - place - 1) + 17 + 17 * place := by omega
    rw [if_neg (Nat.ne_of_lt before), wide, Nat.shiftLeft_add, Nat.shiftLeft_shiftRight,
      Nat.shiftLeft_add, Nat.shiftLeft_eq _ 17]
    exact Nat.mul_mod_left _ _
  · rw [if_pos rfl, Nat.shiftLeft_shiftRight, Nat.mod_eq_of_lt small]
  · have wide : 17 * place = 17 * home + (17 + 17 * (place - home - 1)) := by omega
    rw [if_neg (Nat.ne_of_gt behind), wide, Nat.shiftRight_add, Nat.shiftLeft_shiftRight,
      Nat.shiftRight_add, Nat.shiftRight_eq_div_pow value 17, Nat.div_eq_of_lt small,
      Nat.zero_shiftRight, Nat.zero_mod]

theorem blockAt_blocksOf_cons {pair : Nat × Nat} (small : pair.2 < 2 ^ 17)
    (rest : List (Nat × Nat)) (place : Nat) :
    blockAt (blocksOf (pair :: rest)) place =
      blockAt (blocksOf rest) place ||| if place = pair.1 then pair.2 else 0 := by
  rw [← blockAt_shiftLeft small, ← blockAt_or]
  rfl

/-- A block that no pair has a part in is empty. -/
theorem blockAt_of_not_mem {pairs : List (Nat × Nat)} (small : ∀ pair ∈ pairs, pair.2 < 2 ^ 17)
    {n : Nat} (absent : n ∉ pairs.map (·.1)) : blockAt (blocksOf pairs) n = 0 := by
  induction pairs with
  | nil => simp [blocksOf, blockAt]
  | cons pair rest ih =>
      obtain ⟨here, later⟩ := List.forall_mem_cons.mp small
      rw [List.map_cons, List.mem_cons, not_or] at absent
      rw [blockAt_blocksOf_cons here, ih later absent.2, if_neg absent.1, Nat.or_zero]

/-- Where no two pairs share a block, a filled block is the second part of a pair. -/
theorem mem_of_blockAt {pairs : List (Nat × Nat)} (small : ∀ pair ∈ pairs, pair.2 < 2 ^ 17)
    (distinct : (pairs.map (·.1)).Nodup) {n : Nat} (filled : blockAt (blocksOf pairs) n ≠ 0) :
    (n, blockAt (blocksOf pairs) n) ∈ pairs := by
  induction pairs with
  | nil => simp [blocksOf, blockAt] at filled
  | cons pair rest ih =>
      obtain ⟨here, later⟩ := List.forall_mem_cons.mp small
      obtain ⟨absent, others⟩ := List.nodup_cons.mp distinct
      rw [blockAt_blocksOf_cons here] at filled ⊢
      by_cases same : n = pair.1
      · subst same
        rw [blockAt_of_not_mem later absent, if_pos rfl, Nat.zero_or]
        exact List.mem_cons_self
      · rw [if_neg same, Nat.or_zero] at filled ⊢
        exact List.mem_cons_of_mem _ (ih later others filled)

/-- Whether a pair is moved back by the blocks of another mapping, or exempt. -/
def leadsBack (blocks exempt : Nat) (pair : Nat × Nat) : Bool :=
  exempt.testBit pair.1 || (decide (0 < pair.1) && Nat.beq (blockAt blocks pair.2) pair.1)

/-- Capitals whose small letter belongs to another capital or, for the sharp one, to none. -/
def twinCapitals : List Nat := [0x130, 0x3F4, 0x1E9E, 0x2126, 0x212A, 0x212B]

/-- Whether upper case brings back all capitals that are no twins from their small letters. -/
def bringsBack (lower upper : List CaseRun) (sequences : List (Nat × List Nat)) : Bool :=
  (casePairs upper).all (fun pair => decide (pair.2 < 2 ^ 17)) &&
    (casePairs lower).all (leadsBack (blocksOf (casePairs upper))
      (codeMask (caseSources upper sequences ++ twinCapitals)))

/-- The tests of all tables, run together: each of them goes through a whole table. -/
theorem table_tests :
    isTidy upperRuns upperSequences = true ∧ isTidy lowerRuns lowerSequences = true ∧
      bringsBack lowerRuns upperRuns upperSequences = true ∧
      ∀ entry ∈ lowerSequences, entry.1 ∈ twinCapitals := by
  unfold upperRuns upperSequences lowerRuns lowerSequences caseRuns caseSequences entries
  simp only [List.flatMap_cons, List.flatMap_nil]
  repeat rw [String.toList_ofList]
  decide +kernel

theorem tidy_upper : TidyTables upperRuns upperSequences := tidyTables_of_isTidy table_tests.1

theorem tidy_lower : TidyTables lowerRuns lowerSequences := tidyTables_of_isTidy table_tests.2.1

theorem mem_upper_of_mem_lower {n m : Nat} (pair : (n, m) ∈ casePairs lowerRuns)
    (capital : n ∉ caseSources upperRuns upperSequences) (single : n ∉ twinCapitals) :
    (m, n) ∈ casePairs upperRuns := by
  have back := table_tests.2.2.1
  rw [bringsBack, Bool.and_eq_true, List.all_eq_true, List.all_eq_true] at back
  obtain ⟨small, back⟩ := back
  have free : (codeMask (caseSources upperRuns upperSequences ++ twinCapitals)).testBit n =
      false := by
    rw [testBit_codeMask, decide_eq_false_iff_not, List.mem_append, not_or]
    exact ⟨capital, single⟩
  have here := back _ pair
  rw [leadsBack, free, Bool.false_or, Bool.and_eq_true, decide_eq_true_eq] at here
  have block : blockAt (blocksOf (casePairs upperRuns)) m = n := Nat.eq_of_beq_eq_true here.2
  have distinct : ((casePairs upperRuns).map (·.1)).Nodup := by
    have whole := tidy_upper.distinct
    rw [caseSources, caseEntries, List.map_append, List.map_map] at whole
    exact whole.of_append_right
  have returned := mem_of_blockAt (fun pair member => by simpa using small pair member) distinct
    (block ▸ Nat.ne_of_gt here.1)
  rwa [block] at returned

/-! ## Characters -/

/-- A character that is its own upper case has no entry. -/
theorem not_source_of_upperChar {c : Char} (capital : upperChar c = [c]) :
    c.toNat ∉ caseSources upperRuns upperSequences :=
  tidy_upper.still_of_mem_mapCase (capital ▸ List.mem_singleton_self c)

/-- Upper case brings a capital back from its small letter. -/
theorem upper_lowerChar {c : Char} (capital : upperChar c = [c]) (single : c.toNat ∉ twinCapitals) :
    (lowerChar c).flatMap upperChar = [c] := by
  unfold lowerChar
  rcases tidy_lower.mapCase_spec c with ⟨targets, entry, image⟩ | ⟨-, image⟩
  · rcases List.mem_append.mp entry with inSequences | inPairs
    · exact absurd (table_tests.2.2.2 _ inSequences) single
    obtain ⟨⟨n, m⟩, pair, same⟩ := List.mem_map.mp inPairs
    obtain ⟨rfl, rfl⟩ := Prod.mk.inj same
    have back := mem_upper_of_mem_lower pair (not_source_of_upperChar capital) single
    have target : m ∈ caseTargets lowerRuns lowerSequences :=
      List.mem_flatMap.mpr ⟨_, entry, List.mem_singleton_self m⟩
    have returned : ((Char.ofNat m).toNat, [c.toNat]) ∈ caseEntries upperRuns upperSequences := by
      rw [tidy_lower.toNat_target target]
      exact List.mem_append_right _ (List.mem_map_of_mem back)
    have moved : upperChar (Char.ofNat m) = [Char.ofNat c.toNat] :=
      tidy_upper.mapCase_of_entry returned
    rw [image, List.map_singleton, List.flatMap_singleton, moved, Char.ofNat_toNat]
  · rw [image, List.flatMap_singleton, capital]

def twins : List (Char × List Char) :=
  [('\u0130', ['I', dotAbove]), ('\u03F4', ['\u0398']), ('\u2126', ['\u03A9']), ('\u212A', ['K']),
    ('\u212B', ['\u00C5'])]

/-- The twins have the small letters of the others, and upper case gives the others for them. The
sharp s and the sigmas have rules of their own. -/
theorem special_letters :
    (∀ twin ∈ twins, (lowerChar twin.1).flatMap upperChar = twin.2 ∧
      twin.2.flatMap lowerChar = lowerChar twin.1 ∧ 'ß' ∉ lowerChar twin.1) ∧
    lowerChar 'ẞ' = ['ß'] ∧ upperChar 'ß' = ['S', 'S'] ∧
    upperChar 'σ' = ['Σ'] ∧ upperChar 'ς' = ['Σ'] ∧
    lowerChar 'Σ' = ['σ'] ∧ lowerChar 'σ' = ['σ'] ∧ lowerChar 'ς' = ['ς'] ∧
    lowerChar 'S' = ['s'] := by
  unfold lowerChar upperChar lowerRuns upperRuns lowerSequences upperSequences caseRuns
    caseSequences entries
  simp only [List.flatMap_cons, List.flatMap_nil]
  repeat rw [String.toList_ofList]
  decide +kernel

end RelationQuery.Text

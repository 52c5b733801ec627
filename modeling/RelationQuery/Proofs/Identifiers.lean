import RelationQuery.Sql.Template

/-!
# Identifiers

Plain identifiers are made of the characters of names. They hold neither quotes nor dollar signs,
nor anything else that a reader of a statement stops at.
-/

namespace RelationQuery.Sql

open Template (isQuote isNameStart isNameChar)

/-- A letter or underscore with letters, digits and underscores behind it. -/
def isIdentifier (name : String) : Bool :=
  match name.toList with
  | [] => false
  | c :: rest => isNameStart c && rest.all isNameChar

def Relation.column (relation : Relation) (name : String) : String :=
  relation.qualified ++ "." ++ name

def Relation.Plain (relation : Relation) : Prop :=
  isIdentifier relation.scheme = true ∧ isIdentifier relation.table = true

/-! ## Text of one kind -/

/-- Nothing but characters that pass a test. -/
def MadeOf (test : Char → Bool) (text : List Char) : Prop := ∀ c ∈ text, test c = true

instance (test : Char → Bool) (text : List Char) : Decidable (MadeOf test text) :=
  List.decidableBAll (test · = true) text

theorem MadeOf.not_mem {test : Char → Bool} {text : List Char} (made : MadeOf test text) {c : Char}
    (refused : test c = false) : c ∉ text := by
  intro member
  rw [made c member] at refused
  cases refused

theorem madeOf_append {test : Char → Bool} {front back : List Char} (first : MadeOf test front)
    (second : MadeOf test back) : MadeOf test (front ++ back) := by
  intro c member
  exact (List.mem_append.mp member).elim (first c) (second c)

theorem madeOf_cons {test : Char → Bool} {first : Char} {rest : List Char}
    (passes : test first = true) (others : MadeOf test rest) : MadeOf test (first :: rest) :=
  List.forall_mem_cons.mpr ⟨passes, others⟩

theorem MadeOf.append {test : Char → Bool} {front back : String}
    (first : MadeOf test front.toList) (second : MadeOf test back.toList) :
    MadeOf test (front ++ back).toList := by
  rw [String.toList_append]
  exact madeOf_append first second

theorem madeOf_single {test : Char → Bool} {c : Char} (passes : test c = true) :
    MadeOf test [c] := madeOf_cons passes fun _ member => nomatch member

theorem madeOf_point {test : Char → Bool} (point : test '.' = true) : MadeOf test ".".toList :=
  madeOf_single point

/-! ## Characters of names -/

theorem bounds_of_letter {c : Char} (letter : c.isAlpha = true) :
    65 ≤ c.toNat ∧ c.toNat ≤ 122 := by
  rcases Bool.or_eq_true_iff.mp letter with upper | lower
  · have between : 'A'.val ≤ c.val ∧ c.val ≤ 'Z'.val := of_decide_eq_true upper
    have least : 65 ≤ c.toNat := UInt32.le_iff_toNat_le.mp between.1
    have most : c.toNat ≤ 90 := UInt32.le_iff_toNat_le.mp between.2
    omega
  · obtain ⟨least, most⟩ := (Bool.and_eq_true _ _).mp lower
    have least : 97 ≤ c.toNat := UInt32.le_iff_toNat_le.mp (of_decide_eq_true least)
    have most : c.toNat ≤ 122 := UInt32.le_iff_toNat_le.mp (of_decide_eq_true most)
    omega

theorem bounds_of_digit {c : Char} (digit : c.isDigit = true) :
    48 ≤ c.toNat ∧ c.toNat ≤ 57 := by
  obtain ⟨least, most⟩ := (Bool.and_eq_true _ _).mp digit
  exact ⟨UInt32.le_iff_toNat_le.mp (of_decide_eq_true least),
    UInt32.le_iff_toNat_le.mp (of_decide_eq_true most)⟩

theorem nameChar_of_letter {c : Char} (letter : c.isAlpha = true) : isNameChar c = true := by
  simp [isNameChar, Char.isAlphanum, letter]

theorem nameChar_of_digit {c : Char} (digit : c.isDigit = true) : isNameChar c = true := by
  simp [isNameChar, Char.isAlphanum, digit]

theorem nameChar_of_nameStart {c : Char} (start : isNameStart c = true) : isNameChar c = true := by
  rcases Bool.or_eq_true_iff.mp start with underscore | letter
  · rw [beq_iff_eq.mp underscore]
    rfl
  · exact nameChar_of_letter letter

theorem not_digit_of_nameStart {c : Char} (start : isNameStart c = true) : c.isDigit = false := by
  rcases Bool.or_eq_true_iff.mp start with underscore | letter
  · rw [beq_iff_eq.mp underscore]
    rfl
  · apply eq_false_of_ne_true
    intro digit
    have far := bounds_of_letter letter
    have near := bounds_of_digit digit
    omega

theorem not_digit_of_not_nameChar {c : Char} (other : ¬ isNameChar c = true) :
    c.isDigit = false := by
  apply eq_false_of_ne_true
  intro digit
  exact other (nameChar_of_digit digit)

theorem ne_of_nameChar {c : Char} (named : isNameChar c = true) (other : Char)
    (outsider : isNameChar other = false) : c ≠ other := by
  rintro rfl
  exact absurd (named.symm.trans outsider) (fun same => nomatch same)

theorem not_quote_of_nameChar {c : Char} (named : isNameChar c = true) : isQuote c = false := by
  simp [isQuote, ne_of_nameChar named '\'' rfl, ne_of_nameChar named '"' rfl]

def isCalm (c : Char) : Bool := !isQuote c && c != '$'

abbrev Calm (text : String) : Prop := MadeOf isCalm text.toList

theorem calm_of_nameChar {c : Char} (named : isNameChar c = true) : isCalm c = true := by
  simp [isCalm, not_quote_of_nameChar named, ne_of_nameChar named '$' rfl]

/-- The spelling of an identifier. -/
theorem exists_of_isIdentifier {name : String} (plain : isIdentifier name = true) :
    ∃ first rest, name.toList = first :: rest ∧ isNameStart first = true ∧
      MadeOf isNameChar rest := by
  unfold isIdentifier at plain
  split at plain
  · contradiction
  · rename_i first rest spelled
    obtain ⟨start, more⟩ := (Bool.and_eq_true _ _).mp plain
    exact ⟨first, rest, spelled, start, List.all_eq_true.mp more⟩

theorem nameChar_of_mem {name : String} (plain : isIdentifier name = true) {c : Char}
    (member : c ∈ name.toList) : isNameChar c = true := by
  obtain ⟨first, rest, spelled, start, more⟩ := exists_of_isIdentifier plain
  rw [spelled] at member
  rcases List.mem_cons.mp member with rfl | later
  · exact nameChar_of_nameStart start
  · exact more c later

theorem not_mem_of_isIdentifier {name : String} (plain : isIdentifier name = true) {c : Char}
    (outsider : isNameChar c = false) : c ∉ name.toList := fun member =>
  ne_of_nameChar (nameChar_of_mem plain member) c outsider rfl

/-! ## Identifiers in text -/

section Names

variable {test : Char → Bool} (names : ∀ c, isNameChar c = true → test c = true)

include names

theorem madeOf_of_isIdentifier {name : String} (plain : isIdentifier name = true) :
    MadeOf test name.toList := fun c member => names c (nameChar_of_mem plain member)

theorem madeOf_qualified {relation : Relation} (plain : relation.Plain) (point : test '.' = true) :
    MadeOf test relation.qualified.toList :=
  ((madeOf_of_isIdentifier names plain.1).append (madeOf_point point)).append
    (madeOf_of_isIdentifier names plain.2)

theorem madeOf_column {relation : Relation} (plain : relation.Plain) (point : test '.' = true)
    {name : String} (column : MadeOf test name.toList) :
    MadeOf test (relation.column name).toList :=
  ((madeOf_qualified names plain point).append (madeOf_point point)).append column

end Names

theorem calm_of_isIdentifier {name : String} (plain : isIdentifier name = true) : Calm name :=
  madeOf_of_isIdentifier (fun _ => calm_of_nameChar) plain

theorem calm_qualified {relation : Relation} (plain : relation.Plain) : Calm relation.qualified :=
  madeOf_qualified (fun _ => calm_of_nameChar) plain rfl

theorem calm_column {relation : Relation} (plain : relation.Plain) {name : String}
    (calm : Calm name) : Calm (relation.column name) :=
  madeOf_column (fun _ => calm_of_nameChar) plain rfl calm

end RelationQuery.Sql

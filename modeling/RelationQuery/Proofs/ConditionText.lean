import RelationQuery.Proofs.CharRuns
import RelationQuery.Proofs.ConditionReader
import RelationQuery.Sql.Piece

/-!
# The text of conditions

The text of a condition has parentheses where the condition is nested, and nowhere else. A server
cuts it into words at blanks, parentheses and signs, but not within double quotes, and tells its
keywords from names. Atoms whose text is one word to the server leave the words of the condition as
they are.
-/

namespace RelationQuery.Sql

open Text (Stops)

namespace Condition

def text : Condition → List Char
  | atom text => text
  | binary left op right => left.text ++ ' ' :: op.sign.toList ++ ' ' :: right.text
  | isNull operand negated =>
      operand.text ++ (if negated then " IS NOT NULL" else " IS NULL").toList
  | nested operand => '(' :: operand.text ++ [')']

def atoms : Condition → List (List Char)
  | atom text => [text]
  | binary left _ right => left.atoms ++ right.atoms
  | isNull operand _ => operand.atoms
  | nested operand => operand.atoms

/-! ## Cutting into words -/

def keywords : List (List Char × Word) :=
  [("AND".toList, .sign .and), ("OR".toList, .sign .or), ("IS".toList, .is), ("NOT".toList, .not),
    ("NULL".toList, .null)]

def keyword? (text : List Char) : Option Word := keywords.lookup (text.map Char.toUpper)

def wordOf (text : List Char) : Word := (keyword? text).getD (.atom text)

def isInside (c : Char) : Bool := !(c.isWhitespace || c == '(' || c == ')' || c == '=')

/-- The word that has come to its end, if there is one. -/
def ended (begun : List Char) : List Word := if begun.isEmpty then [] else [wordOf begun]

def markOf (c : Char) : List Word :=
  if c == '(' then [.opening] else if c == ')' then [.closing]
  else if c == '=' then [.sign .eq] else []

/-- The words of a text behind the beginning of a word, which may be inside of quotes. -/
def cut : List Char → Bool → List Char → List Word
  | begun, _, [] => ended begun
  | begun, true, c :: rest => cut (begun ++ [c]) (c != '"') rest
  | begun, false, c :: rest =>
      if isInside c then cut (begun ++ [c]) (c == '"') rest
      else ended begun ++ markOf c ++ cut [] false rest

def ofText? (text : List Char) : Option Condition := read? (cut [] false text)

/-! ## Words of one piece -/

theorem cut_stop {rest : List Char} (stops : Stops isInside rest) (begun : List Char) :
    cut begun false rest = ended begun ++ cut [] false rest := by
  cases rest with
  | nil => exact (List.append_nil _).symm
  | cons c rest =>
      have outside : ¬ isInside c = true := by simp [stops c rfl]
      rw [cut, if_neg outside, cut, if_neg outside, List.append_assoc]
      rfl

/-- A text goes on with the word that has begun before it. -/
def Continues (text : List Char) : Prop :=
  ∀ begun rest, cut begun false (text ++ rest) = cut (begun ++ text) false rest

theorem Continues.append {front back : List Char} (first : Continues front)
    (second : Continues back) : Continues (front ++ back) := by
  intro begun rest
  rw [List.append_assoc, first, second, List.append_assoc]

theorem continues_run {run : List Char}
    (inside : ∀ c ∈ run, isInside c = true ∧ c ≠ '"') : Continues run := by
  intro begun rest
  induction run generalizing begun with
  | nil => rw [List.nil_append, List.append_nil]
  | cons c run ih =>
      obtain ⟨⟨here, plain⟩, later⟩ := List.forall_mem_cons.mp inside
      rw [List.cons_append, cut, if_pos here, beq_eq_false_iff_ne.mpr plain, ih later,
        List.append_assoc]
      rfl

/-- A text that a server takes for one atom. -/
def Solid (text : List Char) : Prop :=
  ∀ rest, Stops isInside rest → cut [] false (text ++ rest) = .atom text :: cut [] false rest

theorem solid_of_continues {text : List Char} (continues : Continues text) (nonempty : text ≠ [])
    (free : keyword? text = none) : Solid text := by
  intro rest stops
  have whole : ended text = [.atom text] := by
    unfold ended wordOf
    rw [if_neg (by simpa using nonempty), free]
    rfl
  rw [continues, List.nil_append, cut_stop stops, whole]
  rfl

/-- No keyword has a character like this. -/
theorem keyword?_eq_none {text : List Char} {c : Char} (member : c ∈ text)
    (foreign : c.toUpper ∉ "ANDORISNOTNULL".toList) : keyword? text = none := by
  unfold keyword?
  rw [List.lookup_eq_none_iff]
  intro keyword isKeyword
  rw [bne_iff_ne]
  intro same
  have inside : c.toUpper ∈ keyword.1 := same ▸ List.mem_map_of_mem member
  have letters : ∀ keyword ∈ keywords, keyword.1 ⊆ "ANDORISNOTNULL".toList := by decide
  exact foreign (letters keyword isKeyword inside)

/-! ## The words of the text -/

/-- The words of an `IS` test behind its operand. -/
theorem cut_test (negated : Bool) {rest : List Char} (stops : Stops isInside rest) :
    cut [] false ((if negated then " IS NOT NULL" else " IS NULL").toList ++ rest) =
      (.is :: if negated then [.not, .null] else [.null]) ++ cut [] false rest := by
  have null : cut [] false ("NULL".toList ++ rest) = .null :: cut [] false rest := by
    have run : Continues "NULL".toList := continues_run (by simp [isInside])
    rw [run, cut_stop stops]
    rfl
  cases negated with
  | false =>
      change .is :: cut [] false ("NULL".toList ++ rest) = _
      rw [null]
      rfl
  | true =>
      change .is :: .not :: cut [] false ("NULL".toList ++ rest) = _
      rw [null]
      rfl

/-- The words of a text are those of the condition, whatever stands behind it at a stop. -/
theorem cut_text {condition : Condition} (solid : ∀ text ∈ condition.atoms, Solid text)
    {rest : List Char} (stops : Stops isInside rest) :
    cut [] false (condition.text ++ rest) = condition.words ++ cut [] false rest := by
  induction condition generalizing rest with
  | atom text => exact solid text List.mem_cons_self rest stops
  | binary left op right ihLeft ihRight =>
      obtain ⟨first, second⟩ := List.forall_mem_append.mp solid
      have signed (behind : List Char) : cut [] false (' ' :: op.sign.toList ++ ' ' :: behind) =
          .sign op :: cut [] false behind := by
        cases op <;> rfl
      have blank (behind : List Char) : Stops isInside (' ' :: op.sign.toList ++ behind) :=
        Text.stops_cons rfl _
      have spelled : (binary left op right).text ++ rest =
          left.text ++ (' ' :: op.sign.toList ++ ' ' :: (right.text ++ rest)) := by
        simp [text]
      rw [spelled, ihLeft first (blank _), signed, ihRight second stops]
      simp [words]
  | isNull operand negated ih =>
      have blank (behind : List Char) :
          Stops isInside ((if negated then " IS NOT NULL" else " IS NULL").toList ++ behind) := by
        cases negated <;> exact Text.stops_cons rfl _
      rw [text, List.append_assoc, ih solid (blank _), cut_test negated stops, words,
        List.append_assoc]
  | nested operand ih =>
      have spelled : (nested operand).text ++ rest = '(' :: (operand.text ++ ')' :: rest) := by
        simp [text]
      have opened : cut [] false ('(' :: (operand.text ++ ')' :: rest)) =
          .opening :: cut [] false (operand.text ++ ')' :: rest) := rfl
      have closed : cut [] false (')' :: rest) = .closing :: cut [] false rest := rfl
      rw [spelled, opened, ih solid (Text.stops_cons rfl _), closed]
      simp [words]

/-- A condition made of solid atoms is read from its words. -/
theorem ofText?_text {condition : Condition} (solid : ∀ text ∈ condition.atoms, Solid text) :
    ofText? condition.text = read? condition.words := by
  have whole := cut_text solid Text.stops_nil
  rw [List.append_nil] at whole
  unfold ofText?
  rw [whole]
  exact congrArg read? (List.append_nil _)

/-! ## Names -/

def isNameHead (c : Char) : Bool := c.isAlpha || c == '_' || 128 ≤ c.toNat

def isNameTail (c : Char) : Bool := isNameHead c || c.isDigit || c == '$'

/-- Whether a text behind a quotation mark goes on to the closing one, with inner ones doubled. -/
def closesQuote : List Char → Bool
  | [] => false
  | ['"'] => true
  | '"' :: '"' :: rest => closesQuote rest
  | '"' :: _ => false
  | _ :: rest => closesQuote rest

def isName : List Char → Bool
  | [] => false
  | '"' :: rest => closesQuote rest
  | c :: rest => isNameHead c && rest.all isNameTail

theorem continues_quoted {text : List Char} (closes : closesQuote text = true)
    (begun rest : List Char) : cut begun true (text ++ rest) = cut (begun ++ text) false rest := by
  induction text using closesQuote.induct generalizing begun with
  | case1 => cases closes
  | case2 => rfl
  | case3 text ih =>
      change cut (begun ++ ['"'] ++ ['"']) true (text ++ rest) = _
      rw [ih closes]
      simp
  | case4 text more double =>
      rw [closesQuote] at closes
      · cases closes
      · exact more
      · exact double
  | case5 c text _ _ plain ih =>
      have later : closesQuote text = true := by
        rwa [closesQuote] at closes
        all_goals intros; contradiction
      change cut (begun ++ [c]) (c != '"') (text ++ rest) = _
      rw [bne_iff_ne.mpr plain, ih later, List.append_assoc]
      rfl

theorem inside_of_nameTail {c : Char} (tail : isNameTail c = true) :
    isInside c = true ∧ c ≠ '"' := by
  have other (d : Char) (small : d.toNat < 128) (foreign : d.isAlpha = false ∧ d.isDigit = false ∧
      d ≠ '_' ∧ d ≠ '$') : c ≠ d := by
    rintro rfl
    obtain ⟨letter, digit, underscore, dollar⟩ := foreign
    simp only [isNameTail, isNameHead, letter, digit, Bool.false_or, Bool.or_false,
      Bool.or_eq_true, beq_iff_eq, underscore, dollar, decide_eq_true_eq, false_or,
      or_false] at tail
    omega
  refine ⟨?_, other '"' (by decide) (by decide)⟩
  simp [isInside, Char.isWhitespace, other ' ' (by decide) (by decide),
    other '\t' (by decide) (by decide), other '\r' (by decide) (by decide),
    other '\n' (by decide) (by decide), other '(' (by decide) (by decide),
    other ')' (by decide) (by decide), other '=' (by decide) (by decide)]

theorem continues_name {name : List Char} (named : isName name = true) : Continues name := by
  cases name with
  | nil => cases named
  | cons c rest =>
      by_cases quoted : c = '"'
      · subst quoted
        intro begun behind
        change cut (begun ++ ['"']) true (rest ++ behind) = _
        rw [continues_quoted named, List.append_assoc]
        rfl
      · have plain : (isNameHead c && rest.all isNameTail) = true := by
          rwa [isName] at named
          exact fun same => quoted same
        obtain ⟨head, tail⟩ := (Bool.and_eq_true _ _).mp plain
        apply continues_run
        intro d member
        rcases List.mem_cons.mp member with rfl | later
        · exact inside_of_nameTail (by simp [isNameTail, head])
        · exact inside_of_nameTail (List.all_eq_true.mp tail d later)

theorem ne_nil_of_isName {name : List Char} (named : isName name = true) : name ≠ [] := by
  rintro rfl
  cases named

theorem solid_name {name : List Char} (named : isName name = true)
    (free : keyword? name = none) : Solid name :=
  solid_of_continues (continues_name named) (ne_nil_of_isName named) free

/-- A name behind a point cannot be taken for a keyword. -/
theorem solid_column {relation : Relation} {name : String}
    (scheme : isName relation.scheme.toList = true) (table : isName relation.table.toList = true)
    (named : isName name.toList = true) : Solid (relation.column name).toList := by
  have spelled : (relation.column name).toList =
      relation.scheme.toList ++ ".".toList ++ relation.table.toList ++ ".".toList ++
        name.toList := by
    simp only [Relation.column, Relation.qualified, String.toList_append]
  have point : Continues ".".toList := continues_run (by simp [isInside])
  rw [spelled]
  refine solid_of_continues ?_ (by simp) (keyword?_eq_none (c := '.') (by simp) (by decide))
  exact ((((continues_name scheme).append point).append (continues_name table)).append point).append
    (continues_name named)

theorem solid_placeholder (k : Nat) : Solid (placeholder k) := by
  apply solid_of_continues
  · apply continues_run
    intro c member
    apply inside_of_nameTail
    rcases List.mem_cons.mp member with rfl | digit
    · rfl
    · simp [isNameTail, Nat.isDigit_of_mem_toDigits (by decide) (by decide) digit]
  · exact List.cons_ne_nil _ _
  · exact keyword?_eq_none List.mem_cons_self (by decide)

end Condition

end RelationQuery.Sql

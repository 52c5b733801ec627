import Mathlib.Data.Fintype.Option
import RelationQuery.Sql.Statement

/-!
# Reading conditions

A server groups the words of a condition by the strength of its operators: `=` binds most and stands
alone, then comes the test for null, then `AND`, and last `OR`; what is in parentheses is one
operand. The reader goes through the words once, with a stack of what still waits. What it reads has
the same truth as the condition that was written, if every operand is strong enough for its place.
-/

namespace RelationQuery.Sql

/-! ## Conditions and their truth -/

abbrev Truth := Option Bool

namespace Truth

def both : Truth → Truth → Truth
  | some false, _ => some false
  | _, some false => some false
  | some true, some true => some true
  | _, _ => none

def either : Truth → Truth → Truth
  | some true, _ => some true
  | _, some true => some true
  | some false, some false => some false
  | _, _ => none

def equal : Truth → Truth → Truth
  | some a, some b => some (a == b)
  | _, _ => none

end Truth

namespace BinaryOp

def apply : BinaryOp → Truth → Truth → Truth
  | .eq => Truth.equal
  | .and => Truth.both
  | .or => Truth.either

/-- How tightly an operator binds; the test for null has strength 2. -/
def strength : BinaryOp → Nat
  | .eq => 3
  | .and => 1
  | .or => 0

/-- How strong an operand on the right has to be, and what waits on the left to be closed first. -/
def need : BinaryOp → Nat
  | .eq => 4
  | .and => 1
  | .or => 0

theorem need_of_joins {op : BinaryOp} (joins : op ≠ .eq) : op.need = op.strength := by
  cases op with
  | eq => exact absurd rfl joins
  | and | or => rfl

theorem strength_le_need (op : BinaryOp) : op.strength ≤ op.need := by cases op <;> decide

theorem need_le_four (op : BinaryOp) : op.need ≤ 4 := by cases op <;> decide

/-- What `AND` and `OR` leave waiting on the left is content with them as an operand. -/
theorem need_le_of_lt {op other : BinaryOp} (joins : op ≠ .eq)
    (weaker : other.strength < op.need) : other.need ≤ op.strength := by
  cases op with
  | eq => exact absurd rfl joins
  | or => exact absurd weaker (Nat.not_lt_zero _)
  | and =>
      cases other with
      | or => exact Nat.zero_le 1
      | eq | and => exact absurd weaker (by decide)

theorem eq_of_need_le {op other : BinaryOp} (joins : op ≠ .eq)
    (binds : op.strength ≤ other.strength) (needed : other.need ≤ op.strength) : other = op := by
  cases op with
  | eq => exact absurd rfl joins
  | and =>
      cases other with
      | and => rfl
      | eq => exact absurd needed (by decide)
      | or => exact absurd binds (by decide)
  | or =>
      cases other with
      | or => rfl
      | eq | and => exact absurd needed (by decide)

theorem apply_assoc {op : BinaryOp} (joins : op ≠ .eq) (a b c : Truth) :
    op.apply (op.apply a b) c = op.apply a (op.apply b c) := by
  cases op with
  | eq => exact absurd rfl joins
  | and => revert a b c; decide
  | or => revert a b c; decide

end BinaryOp

inductive Condition where
  | atom (text : List Char)
  | binary (left : Condition) (op : BinaryOp) (right : Condition)
  | isNull (operand : Condition) (negated : Bool)
  /-- The operand in parentheses. -/
  | nested (operand : Condition)
  deriving DecidableEq, Repr

namespace Condition

def truth (valuation : List Char → Truth) : Condition → Truth
  | atom text => valuation text
  | binary left op right => op.apply (left.truth valuation) (right.truth valuation)
  | isNull operand negated => some ((operand.truth valuation).isNone != negated)
  | nested operand => operand.truth valuation

def strength : Condition → Nat
  | atom _ => 4
  | binary _ op _ => op.strength
  | isNull _ _ => 2
  | nested _ => 4

def isBinary : Condition → Bool
  | binary _ _ _ => true
  | _ => false

/-- Every operand is strong enough for its place. -/
inductive Grouped : Condition → Prop where
  | atom (text : List Char) : Grouped (atom text)
  | join {left right : Condition} {op : BinaryOp} (joins : op ≠ .eq)
      (first : left.Grouped) (second : right.Grouped)
      (strong : op.strength ≤ left.strength) (strong' : op.strength ≤ right.strength) :
      Grouped (binary left op right)
  | equals {left right : Condition} (first : left.Grouped) (second : right.Grouped)
      (whole : left.isBinary = false) (strong : right.strength = 4) :
      Grouped (binary left .eq right)
  | isNull {operand : Condition} (inner : operand.Grouped) (strong : 2 ≤ operand.strength)
      (negated : Bool) : Grouped (isNull operand negated)
  | nested {operand : Condition} (inner : operand.Grouped) : Grouped (nested operand)

/-! ## The reader -/

/-- What a server tells apart in the text of a condition. -/
inductive Word where
  | atom (text : List Char)
  | sign (op : BinaryOp)
  | is
  | not
  | null
  | opening
  | closing
  deriving DecidableEq, Repr

def words : Condition → List Word
  | atom text => [.atom text]
  | binary left op right => left.words ++ .sign op :: right.words
  | isNull operand negated => operand.words ++ .is :: if negated then [.not, .null] else [.null]
  | nested operand => .opening :: operand.words ++ [.closing]

inductive Frame where
  /-- An operator with its left operand. -/
  | pending (left : Condition) (op : BinaryOp)
  | opened
  deriving DecidableEq, Repr

/-- Gives an operand to the operators that bind it before one of a strength does. -/
def close (strength : Nat) : Condition → List Frame → Condition × List Frame
  | condition, .pending left op :: stack =>
      if strength ≤ op.strength then close strength (binary left op condition) stack
      else (condition, .pending left op :: stack)
  | condition, stack => (condition, stack)

inductive Reading where
  /-- An operand has to come. -/
  | due (stack : List Frame)
  | read (condition : Condition) (stack : List Frame)
  /-- Behind `IS`. -/
  | is (condition : Condition) (stack : List Frame)
  /-- Behind `IS NOT`. -/
  | isNot (condition : Condition) (stack : List Frame)
  deriving DecidableEq, Repr

/-- Takes an operator behind its left operand; two of `=` do not stand side by side. -/
def push (op : BinaryOp) (condition : Condition) (stack : List Frame) : Option Reading :=
  match op, stack with
  | .eq, .pending _ .eq :: _ => none
  | op, stack => some (.due (.pending condition op :: stack))

def shut : Condition × List Frame → Option Reading
  | (condition, .opened :: stack) => some (.read (nested condition) stack)
  | _ => none

def step : Reading → Word → Option Reading
  | .due stack, .atom text => some (.read (atom text) stack)
  | .due stack, .opening => some (.due (.opened :: stack))
  | .read condition stack, .sign op =>
      let closed := close op.need condition stack
      push op closed.1 closed.2
  | .read condition stack, .is =>
      let closed := close 2 condition stack
      some (.is closed.1 closed.2)
  | .read condition stack, .closing => shut (close 0 condition stack)
  | .is condition stack, .not => some (.isNot condition stack)
  | .is condition stack, .null => some (.read (isNull condition false) stack)
  | .isNot condition stack, .null => some (.read (isNull condition true) stack)
  | _, _ => none

def run (reading : Reading) (words : List Word) : Option Reading := words.foldlM step reading

def alone : Condition × List Frame → Option Condition
  | (condition, []) => some condition
  | _ => none

/-- The condition that has been read, if no parenthesis is left open. -/
def finish : Reading → Option Condition
  | .read condition stack => alone (close 0 condition stack)
  | _ => none

def read? (words : List Word) : Option Condition := (run (.due []) words).bind finish

theorem run_append (reading : Reading) (front behind : List Word) :
    run reading (front ++ behind) = (run reading front).bind (run · behind) :=
  List.foldlM_append

/-! ## What is read -/

/-- The operators on top of a stack are content with an operand of a strength. -/
def Fits (strength : Nat) : List Frame → Prop
  | .pending _ op :: stack => op.need ≤ strength ∧ Fits strength stack
  | _ => True

theorem Fits.mono {weak strong : Nat} (le : weak ≤ strong) {stack : List Frame}
    (fits : Fits weak stack) : Fits strong stack := by
  induction stack with
  | nil => trivial
  | cons frame stack ih =>
      cases frame with
      | opened => trivial
      | pending left op => exact ⟨fits.1.trans le, ih fits.2⟩

theorem fits_four (stack : List Frame) : Fits 4 stack := by
  induction stack with
  | nil => trivial
  | cons frame stack ih =>
      cases frame with
      | opened => trivial
      | pending left op => exact ⟨op.need_le_four, ih⟩

/-- A condition may stand on the left of an operator. -/
def Leads (op : BinaryOp) (left : Condition) : Prop :=
  match op with
  | .eq => left.isBinary = false
  | op => op.strength ≤ left.strength

theorem strength_of_whole {condition : Condition} (whole : condition.isBinary = false) :
    1 ≤ condition.strength := by
  cases condition with
  | binary left op right => cases whole
  | isNull => exact Nat.le_add_left 1 1
  | atom | nested => exact Nat.le_add_left 1 3

theorem strength_le (condition : Condition) : condition.strength ≤ 4 := by
  cases condition with
  | binary left op right =>
      change op.strength ≤ 4
      cases op <;> decide
  | atom | isNull | nested => exact of_decide_eq_true rfl

theorem grouped_binary {left right : Condition} {op : BinaryOp} (first : left.Grouped)
    (second : right.Grouped) (leads : Leads op left) (follows : op.need ≤ right.strength) :
    (binary left op right).Grouped := by
  cases op with
  | eq => exact .equals first second leads (Nat.le_antisymm right.strength_le follows)
  | and => exact .join (fun same => nomatch same) first second leads follows
  | or => exact .join (fun same => nomatch same) first second leads follows

/-- Each operator on a stack has a good operand on its left, and is stronger than the next one. -/
def Piled : List Frame → Prop
  | [] => True
  | .opened :: stack => Piled stack
  | .pending left op :: stack => left.Grouped ∧ Leads op left ∧ Fits op.strength stack ∧ Piled stack

/-- The operator that waits on top of a stack, if any, is content with an operand of a strength. -/
theorem fits_of_top {strength : Nat} {stack : List Frame} (piled : Piled stack)
    (top : ∀ left op, stack.head? = some (.pending left op) → op.need ≤ strength) :
    Fits strength stack := by
  cases stack with
  | nil => trivial
  | cons frame stack =>
      cases frame with
      | opened => trivial
      | pending left op =>
          have needed := top left op rfl
          exact ⟨needed, piled.2.2.1.mono (op.strength_le_need.trans needed)⟩

theorem close_pending {least : Nat} {op : BinaryOp} (binds : least ≤ op.strength)
    (condition left : Condition) (stack : List Frame) :
    close least condition (.pending left op :: stack) =
      close least (binary left op condition) stack :=
  if_pos binds

theorem close_kept {least : Nat} {op : BinaryOp} (free : ¬ least ≤ op.strength)
    (condition left : Condition) (stack : List Frame) :
    close least condition (.pending left op :: stack) = (condition, .pending left op :: stack) :=
  if_neg free

/-- Nothing is as strong as an operand. -/
theorem close_four (condition : Condition) (stack : List Frame) :
    close 4 condition stack = (condition, stack) := by
  cases stack with
  | nil => rfl
  | cons frame stack =>
      cases frame with
      | opened => rfl
      | pending left op => exact close_kept (by cases op <;> decide) condition left stack

structure Closes (least : Nat) (condition : Condition) (closed : Condition × List Frame) :
    Prop where
  piled : Piled closed.2
  grouped : closed.1.Grouped
  fits : Fits closed.1.strength closed.2
  strong : least ≤ condition.strength → least ≤ closed.1.strength
  top : ∀ left op, closed.2.head? = some (.pending left op) → op.strength < least

theorem closes_close (least : Nat) {condition : Condition} {stack : List Frame}
    (piled : Piled stack) (grouped : condition.Grouped) (fits : Fits condition.strength stack) :
    Closes least condition (close least condition stack) := by
  fun_induction close least condition stack with
  | case1 condition left op stack binds ih =>
      obtain ⟨first, leads, under, piled⟩ := piled
      have whole := ih piled (grouped_binary first grouped leads fits.1) under
      exact ⟨whole.piled, whole.grouped, whole.fits, fun _ => whole.strong binds, whole.top⟩
  | case2 condition left op stack free =>
      refine ⟨piled, grouped, fits, id, fun _ _ top => ?_⟩
      cases top
      exact Nat.lt_of_not_le free
  | case3 condition stack alone =>
      exact ⟨piled, grouped, fits, id, fun left op top => by
        obtain ⟨rest, rfl⟩ := List.head?_eq_some_iff.mp top
        exact absurd rfl (alone left op rest)⟩

def Frame.words : Frame → List Word
  | .pending left op => left.words ++ [.sign op]
  | .opened => [.opening]

def stackWords : List Frame → List Word
  | [] => []
  | frame :: stack => stackWords stack ++ frame.words

theorem words_close (least : Nat) (condition : Condition) (stack : List Frame) :
    stackWords (close least condition stack).2 ++ (close least condition stack).1.words =
      stackWords stack ++ condition.words := by
  fun_induction close least condition stack with
  | case1 condition left op stack binds ih =>
      rw [ih]
      simp [stackWords, Frame.words, words]
  | case2 | case3 => rfl

namespace Reading

def words : Reading → List Word
  | .due stack => stackWords stack
  | .read condition stack => stackWords stack ++ condition.words
  | .is condition stack => stackWords stack ++ condition.words ++ [.is]
  | .isNot condition stack => stackWords stack ++ condition.words ++ [.is, .not]

/-- All that a reader holds is grouped. -/
def Sound : Reading → Prop
  | .due stack => Piled stack
  | .read condition stack => Piled stack ∧ condition.Grouped ∧ condition.isBinary = false ∧
      Fits condition.strength stack
  | .is condition stack => Piled stack ∧ condition.Grouped ∧ 2 ≤ condition.strength ∧ Fits 2 stack
  | .isNot condition stack =>
      Piled stack ∧ condition.Grouped ∧ 2 ≤ condition.strength ∧ Fits 2 stack

end Reading

theorem two_le_of_whole {condition : Condition} (whole : condition.isBinary = false) :
    2 ≤ condition.strength := by
  cases condition with
  | binary left op right => cases whole
  | isNull => exact Nat.le_refl 2
  | atom | nested => exact Nat.le_add_left 2 2

/-- `AND` and `OR` take what they close. -/
theorem step_join {op : BinaryOp} (joins : op ≠ .eq) (condition : Condition) (stack : List Frame) :
    step (.read condition stack) (.sign op) = some (.due
      (.pending (close op.need condition stack).1 op :: (close op.need condition stack).2)) := by
  cases op with
  | eq => exact absurd rfl joins
  | and | or => rfl

theorem piled_join {op : BinaryOp} (joins : op ≠ .eq) {condition : Condition} {stack : List Frame}
    (piled : Piled stack) (grouped : condition.Grouped) (whole : condition.isBinary = false)
    (fits : Fits condition.strength stack) :
    Piled (.pending (close op.need condition stack).1 op ::
      (close op.need condition stack).2) := by
  have closes := closes_close op.need piled grouped fits
  have small : op.need ≤ 2 := by
    rw [op.need_of_joins joins]
    cases op with
    | eq => exact absurd rfl joins
    | and | or => decide
  have strong := closes.strong (small.trans (two_le_of_whole whole))
  have leads : Leads op (close op.need condition stack).1 := by
    cases op with
    | eq => exact absurd rfl joins
    | and | or => exact strong
  exact ⟨closes.grouped, leads, fits_of_top closes.piled fun left other top =>
    BinaryOp.need_le_of_lt joins (closes.top left other top), closes.piled⟩

/-- `=` takes its operand where no other `=` waits for it. -/
theorem piled_equals {condition : Condition} {stack : List Frame} {after : Reading}
    (piled : Piled stack) (grouped : condition.Grouped) (whole : condition.isBinary = false)
    (stepped : step (.read condition stack) (.sign .eq) = some after) :
    after = .due (.pending condition .eq :: stack) ∧ Piled (.pending condition .eq :: stack) := by
  change push .eq (close 4 condition stack).1 (close 4 condition stack).2 = _ at stepped
  rw [close_four] at stepped
  have free : ∀ left op, stack.head? = some (.pending left op) → op ≠ .eq := by
    rintro left op top rfl
    obtain ⟨rest, rfl⟩ := List.head?_eq_some_iff.mp top
    cases stepped
  have taken : push .eq condition stack = some (.due (.pending condition .eq :: stack)) := by
    unfold push
    split
    · exact absurd rfl (free _ _ rfl)
    · rfl
  rw [taken] at stepped
  cases stepped
  refine ⟨rfl, grouped, whole, fits_of_top piled fun left op top => ?_, piled⟩
  have joins := free left op top
  cases op with
  | eq => exact absurd rfl joins
  | and | or => decide

/-- A parenthesis is shut around all that was read since it was opened. -/
theorem sound_shut {least : Nat} {condition : Condition} {closed : Condition × List Frame}
    {after : Reading} (closes : Closes least condition closed) (shuts : shut closed = some after) :
    after.Sound ∧ after.words = stackWords closed.2 ++ closed.1.words ++ [.closing] := by
  obtain ⟨held, stack⟩ := closed
  cases stack with
  | nil => cases shuts
  | cons frame stack =>
      cases frame with
      | pending left op => cases shuts
      | opened =>
          cases shuts
          refine ⟨⟨closes.piled, .nested closes.grouped, rfl, fits_four stack⟩, ?_⟩
          simp [Reading.words, stackWords, Frame.words, words]

theorem sound_step {reading after : Reading} {word : Word} (sound : reading.Sound)
    (stepped : step reading word = some after) :
    after.Sound ∧ after.words = reading.words ++ [word] := by
  cases reading with
  | due stack =>
      cases word with
      | atom text =>
          cases stepped
          exact ⟨⟨sound, .atom text, rfl, fits_four stack⟩, rfl⟩
      | opening =>
          cases stepped
          exact ⟨sound, rfl⟩
      | _ => cases stepped
  | read condition stack =>
      obtain ⟨piled, grouped, whole, fits⟩ := sound
      cases word with
      | sign op =>
          by_cases joins : op = .eq
          · subst joins
            obtain ⟨rfl, piled'⟩ := piled_equals piled grouped whole stepped
            exact ⟨piled', by simp [Reading.words, stackWords, Frame.words]⟩
          · rw [step_join joins] at stepped
            cases stepped
            refine ⟨piled_join joins piled grouped whole fits, ?_⟩
            have spelled := words_close op.need condition stack
            change stackWords _ ++ (Condition.words _ ++ [Word.sign op]) = _
            rw [← List.append_assoc, spelled]
            rfl
      | is =>
          cases stepped
          have closes := closes_close 2 piled grouped fits
          have strong := closes.strong (two_le_of_whole whole)
          refine ⟨⟨closes.piled, closes.grouped, strong, fits_of_top closes.piled ?_⟩, ?_⟩
          · intro left op top
            have weak := closes.top left op top
            cases op with
            | eq => exact absurd weak (by decide)
            | and | or => decide
          · exact congrArg (· ++ [Word.is]) (words_close 2 condition stack)
      | closing =>
          obtain ⟨sound, spelled⟩ := sound_shut (closes_close 0 piled grouped fits) stepped
          rw [words_close 0 condition stack] at spelled
          exact ⟨sound, spelled⟩
      | _ => cases stepped
  | is condition stack =>
      obtain ⟨piled, grouped, strong, fits⟩ := sound
      cases word with
      | not =>
          cases stepped
          exact ⟨⟨piled, grouped, strong, fits⟩, by simp [Reading.words]⟩
      | null =>
          cases stepped
          exact ⟨⟨piled, .isNull grouped strong false, rfl, fits⟩, by simp [Reading.words, words]⟩
      | _ => cases stepped
  | isNot condition stack =>
      obtain ⟨piled, grouped, strong, fits⟩ := sound
      cases word with
      | null =>
          cases stepped
          exact ⟨⟨piled, .isNull grouped strong true, rfl, fits⟩, by simp [Reading.words, words]⟩
      | _ => cases stepped

theorem sound_run {reading after : Reading} {words : List Word} (sound : reading.Sound)
    (ran : run reading words = some after) :
    after.Sound ∧ after.words = reading.words ++ words := by
  induction words generalizing reading with
  | nil =>
      cases ran
      exact ⟨sound, (List.append_nil _).symm⟩
  | cons word rest ih =>
      obtain ⟨middle, stepped, later⟩ := Option.bind_eq_some_iff.mp ran
      obtain ⟨sound', spelled⟩ := sound_step sound stepped
      obtain ⟨final, whole⟩ := ih sound' later
      exact ⟨final, by rw [whole, spelled, List.append_assoc]; rfl⟩

/-- What is read is grouped, and made of the words. -/
theorem read?_sound {words : List Word} {condition : Condition}
    (known : read? words = some condition) : condition.Grouped ∧ condition.words = words := by
  obtain ⟨last, ran, finished⟩ := Option.bind_eq_some_iff.mp known
  have start : (Reading.due []).Sound := trivial
  obtain ⟨sound, spelled⟩ := sound_run start ran
  cases last with
  | read held stack =>
      obtain ⟨piled, grouped, _, fits⟩ := sound
      have closes := closes_close 0 piled grouped fits
      have whole := words_close 0 held stack
      change alone (close 0 held stack) = some condition at finished
      generalize close 0 held stack = closed at closes whole finished
      obtain ⟨read, rest⟩ := closed
      cases rest with
      | cons frame rest => cases finished
      | nil =>
          cases finished
          exact ⟨closes.grouped, whole.trans spelled⟩
  | due | is | isNot => cases finished

end Condition

end RelationQuery.Sql

import RelationQuery.Proofs.ConditionReader

/-!
# Reading grouped conditions

Operators of the same strength are taken from the left, so what is read can be grouped otherwise
than what was written; but only `AND` and `OR` have operands of their own strength, and these may be
regrouped without a change of truth.
-/

namespace RelationQuery.Sql.Condition

/-! ## The same truth -/

/-- The same truth, whatever the truth of the atoms. -/
def Same (condition other : Condition) : Prop :=
  ∀ valuation, condition.truth valuation = other.truth valuation

theorem Same.trans {a b c : Condition} (first : Same a b) (second : Same b c) : Same a c :=
  fun valuation => (first valuation).trans (second valuation)

theorem Same.binary {a b c d : Condition} (left : Same a b) (op : BinaryOp) (right : Same c d) :
    Same (.binary a op c) (.binary b op d) := fun valuation =>
  congrArg₂ op.apply (left valuation) (right valuation)

theorem Same.isNull {a b : Condition} (same : Same a b) (negated : Bool) :
    Same (.isNull a negated) (.isNull b negated) := fun valuation =>
  congrArg (fun truth : Truth => some (truth.isNone != negated)) (same valuation)

theorem same_assoc {op : BinaryOp} (joins : op ≠ .eq) (a b c : Condition) :
    Same (binary (binary a op b) op c) (binary a op (binary b op c)) := fun _ =>
  op.apply_assoc joins _ _ _

structure Alike (closed other : Condition × List Frame) : Prop where
  same : Same closed.1 other.1
  stack : closed.2 = other.2

theorem Alike.refl (closed : Condition × List Frame) : Alike closed closed := ⟨fun _ => rfl, rfl⟩

theorem Alike.trans {a b c : Condition × List Frame} (first : Alike a b) (second : Alike b c) :
    Alike a c := ⟨first.same.trans second.same, first.stack.trans second.stack⟩

theorem Alike.exists_eq {closed : Condition × List Frame} {condition : Condition}
    {stack : List Frame} (alike : Alike closed (condition, stack)) :
    ∃ read, closed = (read, stack) ∧ Same read condition :=
  ⟨closed.1, Prod.ext rfl alike.stack, alike.same⟩

theorem close_same {condition other : Condition} (same : Same condition other) (strength : Nat)
    (stack : List Frame) : Alike (close strength condition stack) (close strength other stack) := by
  induction stack generalizing condition other with
  | nil => exact ⟨same, rfl⟩
  | cons frame stack ih =>
      cases frame with
      | opened => exact ⟨same, rfl⟩
      | pending left op =>
          by_cases binds : strength ≤ op.strength
          · rw [close_pending binds, close_pending binds]
            exact ih (.binary (fun _ => rfl) op same)
          · rw [close_kept binds, close_kept binds]
            exact ⟨same, rfl⟩

/-- Where `=` does not wait, an operand of any conjunction will do. -/
theorem Fits.of_lt {strength : Nat} (weak : strength < 4) {stack : List Frame}
    (fits : Fits strength stack) : Fits 1 stack := by
  induction stack with
  | nil => trivial
  | cons frame stack ih =>
      cases frame with
      | opened => trivial
      | pending left op =>
          obtain ⟨needed, others⟩ := fits
          refine ⟨?_, ih others⟩
          cases op with
          | eq => exact absurd (needed.trans_lt weak) (by decide)
          | and => exact Nat.le_refl 1
          | or => exact Nat.zero_le 1

theorem Fits.close {strength : Nat} {stack : List Frame} (fits : Fits strength stack) (least : Nat)
    (condition : Condition) : Fits strength (close least condition stack).2 := by
  fun_induction Condition.close least condition stack with
  | case1 condition left op stack binds ih => exact ih fits.2
  | case2 | case3 => exact fits

/-- A strong operator leaves an operand to itself where only weak ones wait for it. -/
theorem close_of_fits {least : Nat} (strong : 2 ≤ least) {stack : List Frame} (fits : Fits 1 stack)
    (condition : Condition) : close least condition stack = (condition, stack) := by
  cases stack with
  | nil => rfl
  | cons frame stack =>
      cases frame with
      | opened => rfl
      | pending left op =>
          have weak : op.strength ≤ 1 := by
            cases op with
            | eq => exact absurd fits.1 (by decide)
            | and => exact Nat.le_refl 1
            | or => exact Nat.zero_le 1
          exact close_kept (fun binds => absurd (strong.trans (binds.trans weak)) (by decide)) _ _ _

/-- An operand may be given to equal operators on the left before the operator takes it. -/
theorem close_join {op : BinaryOp} (joins : op ≠ .eq) {least : Nat} (le : least ≤ op.strength)
    {stack : List Frame} (fits : Fits op.strength stack) (left right : Condition) :
    Alike (close least (binary (close op.strength left stack).1 op right)
        (close op.strength left stack).2)
      (close least (binary left op right) stack) := by
  induction stack generalizing left with
  | nil => exact .refl _
  | cons frame stack ih =>
      cases frame with
      | opened => exact .refl _
      | pending first other =>
          by_cases binds : op.strength ≤ other.strength
          -- What binds as strongly and still fits is the operator itself: the operands regroup.
          · have same : other = op := BinaryOp.eq_of_need_le joins binds fits.1
            subst same
            rw [close_pending binds, close_pending le]
            refine (ih fits.2 (binary first other left)).trans ?_
            exact close_same (same_assoc joins first left right) least stack
          · rw [close_kept binds]
            exact .refl _

/-! ## Reading what was written -/

/-- What has been read is as good as the condition: whatever closes it sees no difference. -/
structure ReadsAs (condition : Condition) (stack : List Frame) (read : Condition)
    (rest : List Frame) : Prop where
  closes : ∀ least ≤ condition.strength, Alike (close least read rest) (close least condition stack)
  whole : condition.isBinary = false → rest = stack ∧ Same read condition

theorem readsAs_of_same {condition read : Condition} (same : Same read condition)
    (stack : List Frame) : ReadsAs condition stack read stack :=
  ⟨fun least _ => close_same same least stack, fun _ => ⟨rfl, same⟩⟩

theorem step_equals {stack : List Frame} (fits : Fits 1 stack) (condition : Condition) :
    step (.read condition stack) (.sign .eq) = some (.due (.pending condition .eq :: stack)) := by
  change push .eq (close 4 condition stack).1 (close 4 condition stack).2 = _
  rw [close_of_fits (by decide) fits]
  cases stack with
  | nil => rfl
  | cons frame stack =>
      cases frame with
      | opened => rfl
      | pending left op =>
          cases op with
          | eq => exact absurd fits.1 (by decide)
          | and | or => rfl

theorem whole_of_strength {condition : Condition} (strong : condition.strength = 4) :
    condition.isBinary = false := by
  cases condition with
  | binary left op right => cases op <;> cases strong
  | atom | isNull | nested => rfl

/-- The words of a condition are read in front of any stack that its strength fits. -/
theorem run_words {condition : Condition} (grouped : condition.Grouped) {stack : List Frame}
    (fits : Fits condition.strength stack) :
    ∃ read rest, run (.due stack) condition.words = some (.read read rest) ∧
      ReadsAs condition stack read rest := by
  -- The stack is general: a right operand is read in front of the operator that waits for it.
  induction grouped generalizing stack with
  | atom text => exact ⟨atom text, stack, rfl, readsAs_of_same (fun _ => rfl) stack⟩
  | @join left right op joins first second strong strong' ihLeft ihRight =>
      change Fits op.strength stack at fits
      obtain ⟨x, rest, ran, reads⟩ := ihLeft (fits.mono strong)
      have closed := reads.closes op.strength strong
      have fits' : Fits right.strength
          (.pending (close op.strength x rest).1 op :: (close op.strength x rest).2) := by
        refine ⟨op.need_of_joins joins ▸ strong', ?_⟩
        rw [closed.stack]
        exact (fits.close op.strength left).mono strong'
      obtain ⟨y, rest', ran', reads'⟩ := ihRight fits'
      refine ⟨y, rest', ?_, fun least le => ?_, fun whole => nomatch whole⟩
      · change run _ (left.words ++ .sign op :: right.words) = _
        rw [run_append, ran]
        change (step (.read x rest) (.sign op)).bind (run · right.words) = _
        rw [step_join joins, op.need_of_joins joins]
        exact ran'
      · change least ≤ op.strength at le
        -- The right operand closes first, then the operator that waited for it, then the rest.
        refine (reads'.closes least (le.trans strong')).trans ?_
        rw [close_pending le, closed.stack]
        refine Alike.trans ?_ (close_join joins le fits left right)
        exact close_same (closed.same.binary op fun _ => rfl) least _
  | @equals left right first second whole strong ihLeft ihRight =>
      have weak : Fits 1 stack := Fits.of_lt (Nat.lt_succ_self 3) fits
      obtain ⟨x, rest, ran, reads⟩ := ihLeft (weak.mono (strength_of_whole whole))
      -- Neither operand of `=` is an operation, so nothing is left on the stack by reading it.
      obtain ⟨rfl, same⟩ := reads.whole whole
      have fits' : Fits right.strength (.pending x .eq :: rest) :=
        ⟨strong.ge, weak.mono (strong ▸ by decide)⟩
      obtain ⟨y, rest', ran', reads'⟩ := ihRight fits'
      obtain ⟨rfl, same'⟩ := reads'.whole (whole_of_strength strong)
      refine ⟨y, .pending x .eq :: rest, ?_, fun least le => ?_, fun whole => nomatch whole⟩
      · change run _ (left.words ++ .sign .eq :: right.words) = _
        rw [run_append, ran]
        change (step (.read x rest) (.sign .eq)).bind (run · right.words) = _
        rw [step_equals weak]
        exact ran'
      · rw [close_pending le]
        exact close_same (same.binary .eq same') least rest
  | @isNull operand inner strong negated ih =>
      change Fits 2 stack at fits
      obtain ⟨x, rest, ran, reads⟩ := ih (fits.mono strong)
      have closed := reads.closes 2 strong
      rw [close_of_fits (Nat.le_refl 2) (fits.of_lt (by decide))] at closed
      obtain ⟨y, known, same⟩ := closed.exists_eq
      refine ⟨.isNull y negated, stack, ?_, readsAs_of_same (same.isNull negated) stack⟩
      change run _ (operand.words ++ .is :: if negated then [.not, .null] else [.null]) = _
      rw [run_append, ran]
      change run (.is (close 2 x rest).1 (close 2 x rest).2) _ = _
      rw [known]
      cases negated <;> rfl
  | @nested operand inner ih =>
      have unheld : Fits operand.strength (.opened :: stack) := trivial
      obtain ⟨x, rest, ran, reads⟩ := ih unheld
      obtain ⟨y, known, same⟩ := (reads.closes 0 (Nat.zero_le _)).exists_eq
      have same' : Same (.nested y) (.nested operand) := same
      refine ⟨.nested y, stack, ?_, readsAs_of_same same' stack⟩
      change run (.due (.opened :: stack)) (operand.words ++ [.closing]) = _
      rw [run_append, ran]
      change (shut (close 0 x rest)).bind some = _
      rw [known]
      rfl

/-- A condition whose operands are strong enough is read with its own truth. -/
theorem read?_words {condition : Condition} (grouped : condition.Grouped) :
    ∃ read, read? condition.words = some read ∧ Same read condition := by
  have bottom : Fits condition.strength [] := trivial
  obtain ⟨x, rest, ran, reads⟩ := run_words grouped bottom
  obtain ⟨y, known, same⟩ := (reads.closes 0 (Nat.zero_le _)).exists_eq
  refine ⟨y, ?_, same⟩
  unfold read?
  rw [ran]
  change alone (close 0 x rest) = some y
  rw [known]
  rfl

end RelationQuery.Sql.Condition

import Mathlib.Tactic.Ring
import RelationQuery.Value.Basic

/-!
# Values that are the same

Sameness of values is not reflexive, as what is not a number is not the same as itself. But values
that are the same as a common one are the same as each other, so whichever of the equal values of a
name is kept, a later value is compared with all of them at once.
-/

namespace RelationQuery

theorem Binary.same_of_common {format : Format} {x y z : Binary format}
    (first : x.same y = true) (second : x.same z = true) : y.same z = true := by
  have bits {u v : Binary format} (equal : u.bits = v.bits) : u = v := by
    cases u
    cases v
    exact congrArg Binary.mk equal
  simp only [same, Bool.and_eq_true, Bool.or_eq_true, beq_iff_eq] at first second ⊢
  obtain ⟨⟨_, numberY⟩, equal | ⟨zeroX, zeroY⟩⟩ := first
  · obtain ⟨⟨_, numberZ⟩, other⟩ := second
    rw [bits equal] at other
    exact ⟨⟨numberY, numberZ⟩, other⟩
  · obtain ⟨⟨_, numberZ⟩, equal | ⟨_, zeroZ⟩⟩ := second
    · rw [bits equal] at zeroX
      exact ⟨⟨numberY, numberZ⟩, .inr ⟨zeroY, zeroX⟩⟩
    · exact ⟨⟨numberY, numberZ⟩, .inr ⟨zeroY, zeroZ⟩⟩

theorem Decimal.same_of_common {a b c : Decimal} (first : a.same b = true)
    (second : a.same c = true) : b.same c = true := by
  simp only [same, beq_iff_eq] at first second ⊢
  have power : ((10 ^ a.scale : Nat) : Int) ≠ 0 :=
    Int.natCast_ne_zero.mpr (Nat.pow_pos (by decide)).ne'
  apply mul_right_cancel₀ power
  calc b.signed * (10 ^ c.scale : Nat) * (10 ^ a.scale : Nat)
      = b.signed * (10 ^ a.scale : Nat) * (10 ^ c.scale : Nat) := by ring
    _ = a.signed * (10 ^ c.scale : Nat) * (10 ^ b.scale : Nat) := by rw [← first]; ring
    _ = c.signed * (10 ^ b.scale : Nat) * (10 ^ a.scale : Nat) := by rw [second]; ring

theorem Json.Number.same_of_common {m n o : Number} (first : m.same n = true)
    (second : m.same o = true) : n.same o = true := by
  cases m <;> cases n <;> cases o <;>
    simp_all only [same, beq_iff_eq, Bool.false_eq_true]
  exact Binary.same_of_common first second

namespace Json

mutual

theorem same_of_common {a b c : Json} (first : a.same b = true) (second : a.same c = true) :
    b.same c = true := by
  cases a <;> cases b <;> try (simp only [same, Bool.false_eq_true] at first; done)
  all_goals cases c <;> try (simp only [same, Bool.false_eq_true] at second; done)
  case number.number.number => exact Number.same_of_common first second
  case array.array.array => exact sameItems_of_common first second
  case object.object.object => exact sameMembers_of_common first second
  all_goals simp_all only [same, beq_iff_eq]
termination_by sizeOf a

theorem sameItems_of_common : {as bs cs : List Json} →
    sameItems as bs = true → sameItems as cs = true → sameItems bs cs = true
  | [], [], [], _, _ => rfl
  | a :: as, b :: bs, c :: cs, first, second => by
      simp only [sameItems, Bool.and_eq_true] at first second ⊢
      exact ⟨same_of_common first.1 second.1, sameItems_of_common first.2 second.2⟩
  | [], _ :: _, _, first, _ => by simp [sameItems] at first
  | _ :: _, [], _, first, _ => by simp [sameItems] at first
  | [], _, _ :: _, _, second => by simp [sameItems] at second
  | _ :: _, _, [], _, second => by simp [sameItems] at second
termination_by as => sizeOf as

theorem sameMembers_of_common : {as bs cs : List (String × Json)} →
    sameMembers as bs = true → sameMembers as cs = true → sameMembers bs cs = true
  | [], [], [], _, _ => rfl
  | (_, a) :: as, (_, b) :: bs, (_, c) :: cs, first, second => by
      simp only [sameMembers, Bool.and_eq_true, beq_iff_eq] at first second ⊢
      exact ⟨⟨first.1.1.symm.trans second.1.1, same_of_common first.1.2 second.1.2⟩,
        sameMembers_of_common first.2 second.2⟩
  | [], _ :: _, _, first, _ => by simp [sameMembers] at first
  | _ :: _, [], _, first, _ => by simp [sameMembers] at first
  | [], _, _ :: _, _, second => by simp [sameMembers] at second
  | _ :: _, _, [], _, second => by simp [sameMembers] at second
termination_by as => sizeOf as

end

end Json

namespace Value

mutual

/-- Values that are the same as a common one are the same. -/
theorem same_of_common {a b c : Value} (first : a.same b = true) (second : a.same c = true) :
    b.same c = true := by
  cases a <;> cases b <;> try (simp only [same, Bool.false_eq_true] at first; done)
  all_goals cases c <;> try (simp only [same, Bool.false_eq_true] at second; done)
  case float32.float32.float32 => exact Binary.same_of_common first second
  case float64.float64.float64 => exact Binary.same_of_common first second
  case decimal.decimal.decimal => exact Decimal.same_of_common first second
  case json.json.json => exact Json.same_of_common first second
  case array.array.array => exact sameItems_of_common first second
  all_goals simp_all only [same, beq_iff_eq]
termination_by sizeOf a

theorem sameItems_of_common : {as bs cs : List Value} →
    sameItems as bs = true → sameItems as cs = true → sameItems bs cs = true
  | [], [], [], _, _ => rfl
  | a :: as, b :: bs, c :: cs, first, second => by
      simp only [sameItems, Bool.and_eq_true] at first second ⊢
      exact ⟨same_of_common first.1 second.1, sameItems_of_common first.2 second.2⟩
  | [], _ :: _, _, first, _ => by simp [sameItems] at first
  | _ :: _, [], _, first, _ => by simp [sameItems] at first
  | [], _, _ :: _, _, second => by simp [sameItems] at second
  | _ :: _, _, [], _, second => by simp [sameItems] at second
termination_by as => sizeOf as

end

end Value

end RelationQuery

import RelationQuery.Proofs.FloatText

/-!
# Documents that are read

Whatever is read from a text can be written and read again. The object that a text is has the
members that are read from the text in order, in the order of their keys.
-/

namespace RelationQuery.Json

/-! ## Items and members -/

section

variable {item : List Char → Option (Json × List Char)} {good : Json → Prop}
  (each : ∀ {text : List Char} {found : Json × List Char}, item text = some found → good found.1)

include each

theorem forall_readItems? {fuel : Nat} {text : List Char} {found : List Json × List Char}
    (read : readItems? item fuel text = some found) : ∀ value ∈ found.1, good value := by
  induction fuel generalizing text found with
  | zero => cases read
  | succ fuel ih =>
      rw [readItems?] at read
      split at read
      · cases read
      · rename_i value rest first
        split at read
        · obtain ⟨later, items, rfl⟩ := Option.map_eq_some_iff.mp read
          exact List.forall_mem_cons.mpr ⟨each first, ih items⟩
        · cases read
          exact List.forall_mem_singleton.mpr (each first)
        · cases read

theorem forall_readArray? {text : List Char} {found : List Json × List Char}
    (read : readArray? item text = some found) : ∀ value ∈ found.1, good value := by
  unfold readArray? at read
  split at read
  · cases read
    exact fun _ member => nomatch member
  · exact forall_readItems? each read

theorem forall_readMembers? {fuel : Nat} {text : List Char}
    {found : List (String × Json) × List Char}
    (read : readMembers? item fuel text = some found) : ∀ member ∈ found.1, good member.2 := by
  induction fuel generalizing text found with
  | zero => cases read
  | succ fuel ih =>
      rw [readMembers?] at read
      split at read
      · split at read
        · cases read
        · split at read
          · split at read
            · cases read
            · rename_i value behind first
              split at read
              · obtain ⟨later, members, rfl⟩ := Option.map_eq_some_iff.mp read
                exact List.forall_mem_cons.mpr ⟨each first, ih members⟩
              · cases read
                exact List.forall_mem_singleton.mpr (each first)
              · cases read
          · cases read
      · cases read

theorem forall_readObject? {text : List Char} {found : List (String × Json) × List Char}
    (read : readObject? item text = some found) : ∀ member ∈ found.1, good member.2 := by
  unfold readObject? at read
  split at read
  · cases read
    exact fun _ member => nomatch member
  · exact forall_readMembers? each read

end

/-! ## Values -/

theorem legible_of_readScalar? {depth : Nat} {text : List Char} {found : Json × List Char}
    (read : readScalar? text = some found) : Legible depth found.1 := by
  unfold readScalar? at read
  split at read
  · cases read
    exact .null
  · cases read
    exact .bool true
  · cases read
    exact .bool false
  · obtain ⟨chars, -, rfl⟩ := Option.map_eq_some_iff.mp read
    exact .string _
  · obtain ⟨n, number, rfl⟩ := Option.map_eq_some_iff.mp read
    exact .number (inRange_of_readNumber? number).legible

/-- An object of legible values. -/
theorem legible_ofMembers {depth : Nat} {members : List (String × Json)}
    (each : ∀ member ∈ members, Legible depth member.2) :
    Legible (depth + 1) (ofMembers members) := by
  obtain ⟨sorted, object, ascending, -⟩ := exists_ofMembers members
  rw [object]
  exact .object ascending fun member placed => each member (mem_of_ofMembers object member placed)

/-- What is read as a value can be read again. -/
theorem legible_of_readValue? {depth : Nat} {text : List Char} {found : Json × List Char}
    (read : readValue? depth text = some found) : Legible depth found.1 := by
  induction depth generalizing text found with
  | zero =>
      unfold readValue? at read
      split at read
      · cases read
      · cases read
      · exact legible_of_readScalar? read
  | succ depth ih =>
      unfold readValue? at read
      split at read
      · obtain ⟨items, array, rfl⟩ := Option.map_eq_some_iff.mp read
        exact .array (forall_readArray? ih array)
      · obtain ⟨members, object, rfl⟩ := Option.map_eq_some_iff.mp read
        exact legible_ofMembers (forall_readObject? ih object)
      · exact legible_of_readScalar? read

/-! ## Objects -/

/-- A text whose members can be read in order is an object of these members, which can be read
again. -/
theorem exists_of_readKeyed? {text : List Char} {members : Keyed Json}
    (read : readKeyed? text = some members) :
    ∃ sorted, read? text = some (.object sorted) ∧ Legible depthMax (.object sorted) ∧
      Ascending sorted ∧ sorted.Perm members.entries := by
  unfold readKeyed? at read
  split at read
  · rename_i rest begins
    split at read
    · rename_i found tail object
      split at read
      · rename_i last
        cases read
        obtain ⟨sorted, same, ascending, perm⟩ := exists_ofMembers found
        have value : readValue? depthMax ('\x7b' :: rest) = some (.object sorted, tail) := by
          change (readObject? (readValue? (depthMax - 1)) rest).map _ = _
          rw [object, ← same]
          rfl
        refine ⟨sorted, ?_, legible_of_readValue? value, ascending, perm⟩
        rw [read?, begins, value]
        exact if_pos last
      · cases read
    · cases read
  · cases read

end RelationQuery.Json

import RelationQuery.Json.Basic
import RelationQuery.Keyed

/-!
# The members of objects

Members can be kept in the order in which their keys first came, or in the order of their keys. Both
ways each key has its last value, so the two differ in their order only, and not at all where the
keys came in order.
-/

namespace RelationQuery

/-! ## Entries -/

theorem placeEntry_of_fresh {α : Type} {key : String} (value : α) {entries : List (String × α)}
    (fresh : key ∉ entries.map Prod.fst) :
    placeEntry key value entries = entries ++ [(key, value)] := by
  induction entries with
  | nil => rfl
  | cons entry rest ih =>
      rw [List.map_cons, List.mem_cons, not_or] at fresh
      rw [placeEntry, if_neg (Ne.symm fresh.1), ih fresh.2, List.cons_append]

/-- Entries with new keys come to stand behind the others, in their order. -/
theorem Keyed.entries_extend {α : Type} (keyed : Keyed α) {entries : List (String × α)}
    (distinct : (entries.map Prod.fst).Nodup) (fresh : ∀ entry ∈ entries, entry.1 ∉ keyed.keys) :
    (keyed.extend entries).entries = keyed.entries ++ entries := by
  induction entries generalizing keyed with
  | nil => exact (List.append_nil _).symm
  | cons entry rest ih =>
      obtain ⟨absent, later⟩ := List.nodup_cons.mp distinct
      have unmet : entry.1 ∉ keyed.keys := fresh entry List.mem_cons_self
      have stillFresh : ∀ other ∈ rest, other.1 ∉ (keyed.insert entry.1 entry.2).keys := by
        intro other member
        rw [Keyed.keys_insert, if_neg unmet, List.mem_append, List.mem_singleton]
        rintro (known | same)
        · exact fresh other (List.mem_cons_of_mem entry member) known
        · exact absent (same ▸ List.mem_map_of_mem member)
      change ((keyed.insert entry.1 entry.2).extend rest).entries = _
      rw [ih _ later stillFresh]
      change placeEntry entry.1 entry.2 keyed.entries ++ rest = _
      rw [placeEntry_of_fresh _ unmet, List.append_assoc]
      rfl

theorem Keyed.entries_ofList {α : Type} {entries : List (String × α)}
    (distinct : (entries.map Prod.fst).Nodup) : (Keyed.ofList entries).entries = entries :=
  Keyed.entries_extend .empty distinct fun _ _ => List.not_mem_nil

/-- A test of the keys that lets a key pass does not change what is found under it. -/
theorem lookup_filter {α : Type} (keep : String → Bool) {key : String} (kept : keep key = true)
    (entries : List (String × α)) :
    (entries.filter fun entry => keep entry.1).lookup key = entries.lookup key := by
  induction entries with
  | nil => rfl
  | cons entry rest ih =>
      by_cases same : key = entry.1
      · subst same
        rw [List.filter_cons, if_pos kept, List.lookup_cons, List.lookup_cons, beq_self_eq_true]
      · have other : (key == entry.1) = false := beq_eq_false_iff_ne.mpr same
        rw [List.filter_cons, List.lookup_cons, other]
        split
        · rw [List.lookup_cons, other]
          exact ih
        · exact ih

/-- Nothing is found under a key that does not pass. -/
theorem lookup_filter_of_dropped {α : Type} (keep : String → Bool) {key : String}
    (dropped : keep key = false) (entries : List (String × α)) :
    (entries.filter fun entry => keep entry.1).lookup key = none := by
  rw [List.lookup_eq_none_iff]
  intro entry member
  rw [bne_iff_ne]
  rintro rfl
  rw [(List.mem_filter.mp member).2] at dropped
  cases dropped

/-- A placed entry that does not pass a test leaves no trace behind it. -/
theorem filter_placeEntry {α : Type} (keep : String → Bool) {key : String}
    (dropped : keep key = false) (value : α) (entries : List (String × α)) :
    (placeEntry key value entries).filter (fun entry => keep entry.1) =
      entries.filter fun entry => keep entry.1 := by
  induction entries with
  | nil => exact List.filter_cons_of_neg (by simp [dropped])
  | cons entry rest ih =>
      rw [placeEntry]
      split
      · rename_i same
        subst same
        rw [List.filter_cons_of_neg (by simp [dropped]), List.filter_cons_of_neg (by simp [dropped])]
      · rw [List.filter_cons, List.filter_cons, ih]

/-- Entries but those of a key. -/
def without {α : Type} (key : String) (entries : List (String × α)) : List (String × α) :=
  entries.filter fun entry => entry.1 != key

theorem without_of_not_mem {α : Type} {key : String} {entries : List (String × α)}
    (absent : key ∉ entries.map Prod.fst) : without key entries = entries := by
  apply List.filter_eq_self.mpr
  intro entry member
  rw [bne_iff_ne]
  rintro rfl
  exact absent (List.mem_map_of_mem member)

theorem without_cons_self {α : Type} {key : String} (value : α) {entries : List (String × α)}
    (absent : key ∉ entries.map Prod.fst) : without key ((key, value) :: entries) = entries := by
  rw [without, List.filter_cons_of_neg (by simp)]
  exact without_of_not_mem absent

theorem without_cons_of_ne {α : Type} {key : String} {entry : String × α} (other : entry.1 ≠ key)
    (entries : List (String × α)) :
    without key (entry :: entries) = entry :: without key entries :=
  List.filter_cons_of_pos (bne_iff_ne.mpr other)

/-- A placed entry and those of the other keys. -/
theorem perm_placeEntry {α : Type} {entries : List (String × α)}
    (distinct : (entries.map Prod.fst).Nodup) (key : String) (value : α) :
    (placeEntry key value entries).Perm ((key, value) :: without key entries) := by
  induction entries with
  | nil => exact List.Perm.refl _
  | cons entry rest ih =>
      obtain ⟨absent, later⟩ := List.nodup_cons.mp distinct
      rw [placeEntry]
      split
      · rename_i same
        subst same
        rw [without_cons_self entry.2 absent]
      · rename_i other
        rw [without_cons_of_ne other]
        exact (List.Perm.cons entry (ih later)).trans (List.Perm.swap _ _ _)

/-! ## Entries in the order of their keys -/

theorem lt_of_not_lt_of_ne {a b : String} (notBefore : ¬a < b) (differs : a ≠ b) : b < a :=
  Decidable.by_contra fun notBehind =>
    differs (String.le_antisymm (String.not_lt.mp notBehind) (String.not_lt.mp notBefore))

def Ascending {α : Type} (entries : List (String × α)) : Prop :=
  (entries.map Prod.fst).Pairwise (· < ·)

theorem ascending_cons {α : Type} {entry : String × α} {entries : List (String × α)} :
    Ascending (entry :: entries) ↔
      (∀ key ∈ entries.map Prod.fst, entry.1 < key) ∧ Ascending entries :=
  List.pairwise_cons

theorem Ascending.nodup {α : Type} {entries : List (String × α)} (ascending : Ascending entries) :
    (entries.map Prod.fst).Nodup :=
  List.Pairwise.imp (fun before => fun same => String.lt_irrefl _ (same ▸ before)) ascending

/-- Entries have one order of their keys only. -/
theorem Ascending.eq_of_perm {α : Type} {first second : List (String × α)}
    (ascending : Ascending first) (other : Ascending second) (same : first.Perm second) :
    first = second := by
  refine List.Perm.eq_of_pairwise (fun a b _ _ before behind => ?_) (List.pairwise_map.mp ascending)
    (List.pairwise_map.mp other) same
  exact absurd behind (String.lt_asymm before)

namespace Json

theorem mem_keys_placeMember {key other : String} {value : Json} {members : List (String × Json)} :
    other ∈ (placeMember key value members).map Prod.fst ↔
      other = key ∨ other ∈ members.map Prod.fst := by
  induction members with
  | nil => simp [placeMember]
  | cons member rest ih =>
      rw [placeMember]
      split
      · simp
      · split
        · rename_i same
          subst same
          simp
        · rw [List.map_cons, List.mem_cons, ih, List.map_cons, List.mem_cons]
          exact or_left_comm

theorem ascending_placeMember {members : List (String × Json)} (ascending : Ascending members)
    (key : String) (value : Json) : Ascending (placeMember key value members) := by
  induction members with
  | nil => exact List.pairwise_singleton _ _
  | cons member rest ih =>
      obtain ⟨first, later⟩ := ascending_cons.mp ascending
      rw [placeMember]
      split
      · rename_i before
        refine ascending_cons.mpr ⟨fun other known => ?_, ascending⟩
        rcases List.mem_cons.mp known with rfl | behind
        · exact before
        · exact String.lt_trans before (first other behind)
      · rename_i notBefore
        split
        · rename_i same
          exact ascending_cons.mpr ⟨same ▸ first, later⟩
        · rename_i differs
          refine ascending_cons.mpr ⟨fun other known => ?_, ih later⟩
          rcases mem_keys_placeMember.mp known with rfl | behind
          · exact lt_of_not_lt_of_ne notBefore differs
          · exact first other behind

theorem perm_placeMember {members : List (String × Json)} (ascending : Ascending members)
    (key : String) (value : Json) :
    (placeMember key value members).Perm ((key, value) :: without key members) := by
  induction members with
  | nil => exact List.Perm.refl _
  | cons member rest ih =>
      obtain ⟨first, later⟩ := ascending_cons.mp ascending
      rw [placeMember]
      split
      · rename_i before
        rw [without_of_not_mem]
        intro known
        rcases List.mem_cons.mp known with same | behind
        · exact String.lt_irrefl _ (same ▸ before)
        · exact String.lt_irrefl _ (String.lt_trans before (first key behind))
      · split
        · rename_i same
          subst same
          rw [without_cons_self member.2 (List.nodup_cons.mp ascending.nodup).1]
        · rename_i differs
          rw [without_cons_of_ne (Ne.symm differs)]
          exact (List.Perm.cons member (ih later)).trans (List.Perm.swap _ _ _)

/-- Placed one after the other, members come to be the same in both ways. -/
theorem perm_foldl_placeMember {sorted members : List (String × Json)} (keyed : Keyed Json)
    (ascending : Ascending sorted) (same : sorted.Perm keyed.entries) :
    Ascending (members.foldl (fun sorted member => placeMember member.1 member.2 sorted) sorted) ∧
      (members.foldl (fun sorted member => placeMember member.1 member.2 sorted) sorted).Perm
        (keyed.extend members).entries := by
  induction members generalizing sorted keyed with
  | nil => exact ⟨ascending, same⟩
  | cons member rest ih =>
      apply ih (keyed.insert member.1 member.2) (ascending_placeMember ascending _ _)
      have placed := (perm_placeMember ascending member.1 member.2).trans
        ((same.filter _).cons member)
      exact placed.trans (perm_placeEntry keyed.distinct member.1 member.2).symm

/-- An object has the members of its text, in the order of their keys. -/
theorem exists_ofMembers (members : List (String × Json)) :
    ∃ sorted, ofMembers members = .object sorted ∧ Ascending sorted ∧
      sorted.Perm (Keyed.ofList members).entries :=
  ⟨_, rfl, perm_foldl_placeMember .empty List.Pairwise.nil (List.Perm.refl _)⟩

theorem mem_placeMember {key : String} {value : Json} {members : List (String × Json)}
    {member : String × Json} (placed : member ∈ placeMember key value members) :
    member = (key, value) ∨ member ∈ members := by
  induction members with
  | nil => exact .inl (List.mem_singleton.mp placed)
  | cons first rest ih =>
      rw [placeMember] at placed
      split at placed
      · exact List.mem_cons.mp placed
      · split at placed
        · exact (List.mem_cons.mp placed).imp_right (List.mem_cons_of_mem first)
        · rcases List.mem_cons.mp placed with rfl | later
          · exact .inr List.mem_cons_self
          · exact (ih later).imp_right (List.mem_cons_of_mem first)

theorem mem_foldl_placeMember {members sorted : List (String × Json)} {member : String × Json}
    (placed : member ∈ members.foldl
      (fun sorted member => placeMember member.1 member.2 sorted) sorted) :
    member ∈ sorted ∨ member ∈ members := by
  induction members generalizing sorted with
  | nil => exact .inl placed
  | cons first rest ih =>
      rcases ih placed with here | later
      · rcases mem_placeMember here with rfl | before
        · exact .inr List.mem_cons_self
        · exact .inl before
      · exact .inr (List.mem_cons_of_mem first later)

/-- An object has no members but those of its text. -/
theorem mem_of_ofMembers {members sorted : List (String × Json)}
    (object : ofMembers members = .object sorted) : ∀ member ∈ sorted, member ∈ members := by
  cases object
  exact fun member placed => (mem_foldl_placeMember placed).resolve_left List.not_mem_nil

/-- Members that stand in the order of their keys stay so. -/
theorem ofMembers_of_ascending {members : List (String × Json)} (ascending : Ascending members) :
    ofMembers members = .object members := by
  obtain ⟨sorted, object, order, same⟩ := exists_ofMembers members
  rw [Keyed.entries_ofList ascending.nodup] at same
  rw [object, order.eq_of_perm ascending same]

end Json

end RelationQuery

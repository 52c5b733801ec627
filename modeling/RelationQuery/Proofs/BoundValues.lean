import RelationQuery.Query.Bindings

/-!
# The first binding counts

Values are bound in turn. Once all of them are bound, a name has the value that was bound to it
first, and every later value of the same name was the same.
-/

namespace RelationQuery

/-- The values that predicates bind, in order. -/
def boundValues (predicates : List Predicate) : List (String × Value) :=
  predicates.flatMap fun predicate => predicate.values.entries

theorem bind_eq_ok {ε α β : Type} {action : Except ε α} {next : α → Except ε β} {b : β} :
    (action >>= next) = .ok b ↔ ∃ a, action = .ok a ∧ next a = .ok b := by
  cases action with
  | error cause => exact ⟨fun same => (nomatch same), fun ⟨_, same, _⟩ => (nomatch same)⟩
  | ok a => exact ⟨fun same => ⟨a, rfl, same⟩, fun ⟨_, same, rest⟩ => by cases same; exact rest⟩

theorem eq_ok_of_toOption {ε α : Type} {result : Except ε α} {a : α}
    (known : result.toOption = some a) : result = .ok a := by
  cases result with
  | error cause => cases known
  | ok b =>
      cases known
      rfl

/-- The value under a key that stands in the list once. -/
theorem lookup_of_mem {α : Type} {entries : List (String × α)}
    (distinct : (entries.map Prod.fst).Nodup) {key : String} {value : α}
    (member : (key, value) ∈ entries) : entries.lookup key = some value := by
  induction entries with
  | nil => contradiction
  | cons entry rest ih =>
      obtain ⟨absent, later⟩ := List.nodup_cons.mp distinct
      rw [List.lookup_cons]
      rcases List.mem_cons.mp member with same | member
      · subst same
        rw [beq_self_eq_true]
      · have known : key ∈ rest.map Prod.fst := List.mem_map_of_mem member
        have other : (key == entry.1) = false := by
          apply beq_eq_false_iff_ne.mpr
          rintro rfl
          exact absent known
        rw [other]
        exact ih later member

theorem lookup_eq_none_iff_not_mem {α : Type} {entries : List (String × α)} {key : String} :
    entries.lookup key = none ↔ key ∉ entries.map Prod.fst := by
  rw [List.lookup_eq_none_iff, List.mem_map]
  exact ⟨fun apart ⟨entry, member, same⟩ => by simpa [same] using apart entry member,
    fun absent entry member => bne_iff_ne.mpr fun same => absent ⟨entry, member, same.symm⟩⟩

theorem lookup_of_not_mem {α : Type} {entries : List (String × α)} {key : String}
    (absent : key ∉ entries.map Prod.fst) : entries.lookup key = none :=
  lookup_eq_none_iff_not_mem.mpr absent

/-- Entries with distinct keys, inserted where none of these is yet, are found by their keys. -/
theorem Keyed.get?_extend {α : Type} (keyed : Keyed α) {entries : List (String × α)}
    (distinct : (entries.map Prod.fst).Nodup) (fresh : ∀ entry ∈ entries, entry.1 ∉ keyed.keys)
    (key : String) :
    (keyed.extend entries).get? key = (keyed.get? key).or (entries.lookup key) := by
  induction entries generalizing keyed with
  | nil => exact Option.or_none.symm
  | cons entry rest ih =>
      obtain ⟨absent, later⟩ := List.nodup_cons.mp distinct
      have unmet : entry.1 ∉ keyed.keys := fresh entry List.mem_cons_self
      have stillFresh : ∀ other ∈ rest, other.1 ∉ (keyed.insert entry.1 entry.2).keys := by
        intro other member
        rw [Keyed.keys_insert, if_neg unmet, List.mem_append, List.mem_singleton]
        rintro (known | same)
        · exact fresh other (List.mem_cons_of_mem entry member) known
        · exact absent (same ▸ List.mem_map_of_mem member)
      change ((keyed.insert entry.1 entry.2).extend rest).get? key = _
      rw [ih _ later stillFresh, List.lookup_cons]
      by_cases same : key = entry.1
      · subst same
        have none : keyed.get? entry.1 = none := lookup_of_not_mem unmet
        rw [Keyed.get?_insert_self, none, beq_self_eq_true]
        rfl
      · rw [Keyed.get?_insert_of_ne _ same, beq_eq_false_iff_ne.mpr same]

theorem Keyed.get?_ofList {α : Type} {entries : List (String × α)}
    (distinct : (entries.map Prod.fst).Nodup) (key : String) :
    (Keyed.ofList entries).get? key = entries.lookup key :=
  Keyed.get?_extend .empty distinct (fun _ _ => List.not_mem_nil) key

namespace Bindings

/-- What binding one value can do: add it, or find the same value bound already. -/
theorem bind_cases {before after : Bindings} {name : String} {value : Value}
    (bound : before.bind name value = .ok after) :
    (before.get? name = none ∧ after = before.insert name value) ∨
      ∃ held, before.get? name = some held ∧ held.same value = true ∧ after = before := by
  unfold bind at bound
  cases known : before.get? name with
  | none =>
      rw [known] at bound
      cases bound
      exact .inl ⟨rfl, rfl⟩
  | some held =>
      rw [known] at bound
      dsimp only at bound
      split at bound
      · rename_i same
        cases bound
        exact .inr ⟨held, rfl, same, rfl⟩
      · cases bound

theorem get?_bind {before after : Bindings} {name : String} {value : Value}
    (bound : before.bind name value = .ok after) (other : String) :
    after.get? other = (before.get? other).or ([(name, value)].lookup other) := by
  rw [List.lookup_cons, List.lookup_nil]
  rcases bind_cases bound with ⟨absent, rfl⟩ | ⟨held, present, _, rfl⟩
  · by_cases same : other = name
    · subst same
      rw [Keyed.get?_insert_self, absent, beq_self_eq_true]
      rfl
    · rw [Keyed.get?_insert_of_ne _ same, beq_eq_false_iff_ne.mpr same]
      exact Option.or_none.symm
  · by_cases same : other = name
    · subst same
      rw [present]
      rfl
    · rw [beq_eq_false_iff_ne.mpr same]
      exact Option.or_none.symm

/-- The name of a value just bound has that value, or one that is the same. -/
theorem get?_bind_self {before after : Bindings} {name : String} {value : Value}
    (bound : before.bind name value = .ok after) :
    ∃ held, after.get? name = some held ∧ (held = value ∨ held.same value = true) := by
  rcases bind_cases bound with ⟨_, rfl⟩ | ⟨held, present, same, rfl⟩
  · exact ⟨value, Keyed.get?_insert_self _ _ _, .inl rfl⟩
  · exact ⟨held, present, .inr same⟩

theorem get?_bindAll {before after : Bindings} {entries : List (String × Value)}
    (bound : before.bindAll entries = .ok after) (name : String) :
    after.get? name = (before.get? name).or (entries.lookup name) := by
  induction entries generalizing before with
  | nil =>
      cases bound
      exact Option.or_none.symm
  | cons entry rest ih =>
      obtain ⟨middle, first, later⟩ := bind_eq_ok.mp bound
      rw [ih later, get?_bind first, Option.or_assoc, ← List.lookup_append]
      rfl

theorem get?_bindOptional {before after : Bindings} {own : String} {value : Option Value}
    (bound : before.bindOptional own value = .ok after) (name : String) :
    after.get? name = (before.get? name).or ((value.toList.map (own, ·)).lookup name) := by
  cases value with
  | none =>
      cases bound
      exact Option.or_none.symm
  | some value => exact get?_bind bound name

theorem get?_bindPredicates {before after : Bindings} {predicates : List Predicate}
    (bound : before.bindPredicates predicates = .ok after) (name : String) :
    after.get? name = (before.get? name).or
      ((predicates.flatMap fun predicate => predicate.values.entries).lookup name) :=
  get?_bindAll bound name

/-- Whole numbers are the same only when they are equal. -/
theorem eq_of_same_int64 {held : Value} {n : Int64} (same : held.same (.int64 n) = true) :
    held = .int64 n := by
  cases held with
  | int64 m => exact congrArg Value.int64 (by simpa [Value.same] using same)
  | _ => simp [Value.same] at same

theorem get?_bind_int64 {before after : Bindings} {name : String} {n : Int64}
    (bound : before.bind name (.int64 n) = .ok after) : after.get? name = some (.int64 n) := by
  obtain ⟨held, found, rfl | same⟩ := get?_bind_self bound
  · exact found
  · rw [found, eq_of_same_int64 same]

end Bindings

end RelationQuery

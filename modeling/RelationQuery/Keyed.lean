/-!
# Maps in order of insertion

A keyed list holds one entry per key, in the order in which the keys first came. Inserting a key
again keeps its place and takes the later value. The keys of a keyed list are distinct by
construction.

The keys of a filter are the names that callers use; a mapping says which column each stands for. A
key without an entry is a column name, but for its first hyphen, which stands for an underscore.
-/

namespace RelationQuery

/-- Entries with a new one: in place of the entry of its key, or behind all others. -/
def placeEntry {α : Type} (key : String) (value : α) : List (String × α) → List (String × α)
  | [] => [(key, value)]
  | entry :: rest =>
      if entry.1 = key then (key, value) :: rest else entry :: placeEntry key value rest

theorem keys_placeEntry {α : Type} (key : String) (value : α) (entries : List (String × α)) :
    (placeEntry key value entries).map Prod.fst =
      if key ∈ entries.map Prod.fst then entries.map Prod.fst
      else entries.map Prod.fst ++ [key] := by
  induction entries with
  | nil => simp [placeEntry]
  | cons entry rest ih =>
      by_cases same : entry.1 = key
      · simp [placeEntry, same]
      · have other : ¬ key = entry.1 := fun eq => same eq.symm
        simp only [placeEntry, same, if_false, List.map_cons, ih, List.mem_cons, other, false_or]
        split <;> rfl

theorem nodup_placeEntry {α : Type} {entries : List (String × α)}
    (distinct : (entries.map Prod.fst).Nodup) (key : String) (value : α) :
    ((placeEntry key value entries).map Prod.fst).Nodup := by
  rw [keys_placeEntry]
  split
  · exact distinct
  · rename_i absent
    rw [List.nodup_append]
    exact ⟨distinct, by simp, fun a member b same => by
      rintro rfl
      exact absent (List.mem_singleton.mp same ▸ member)⟩

/-- A map from texts that remembers the order of its keys. -/
structure Keyed (α : Type) where
  entries : List (String × α)
  distinct : (entries.map Prod.fst).Nodup
  deriving DecidableEq

namespace Keyed

variable {α β : Type}

instance [Repr α] : Repr (Keyed α) where
  reprPrec keyed prec := reprPrec keyed.entries prec

def empty : Keyed α := ⟨[], List.nodup_nil⟩

instance : Inhabited (Keyed α) := ⟨empty⟩

instance : EmptyCollection (Keyed α) := ⟨empty⟩

def keys (keyed : Keyed α) : List String := keyed.entries.map Prod.fst

def isEmpty (keyed : Keyed α) : Bool := keyed.entries.isEmpty

def contains (keyed : Keyed α) (key : String) : Bool := keyed.keys.contains key

def get? (keyed : Keyed α) (key : String) : Option α := keyed.entries.lookup key

def insert (keyed : Keyed α) (key : String) (value : α) : Keyed α :=
  ⟨placeEntry key value keyed.entries, nodup_placeEntry keyed.distinct key value⟩

def extend (keyed : Keyed α) (entries : List (String × α)) : Keyed α :=
  entries.foldl (fun map entry => map.insert entry.1 entry.2) keyed

def ofList (entries : List (String × α)) : Keyed α := empty.extend entries

def mapValues (change : α → β) (keyed : Keyed α) : Keyed β :=
  ⟨keyed.entries.map fun entry => (entry.1, change entry.2), by
    simpa [List.map_map, Function.comp_def] using keyed.distinct⟩

def filter (keep : String → α → Bool) (keyed : Keyed α) : Keyed α :=
  ⟨keyed.entries.filter fun entry => keep entry.1 entry.2,
    keyed.distinct.sublist (List.filter_sublist.map Prod.fst)⟩

theorem nodup_keys (keyed : Keyed α) : keyed.keys.Nodup := keyed.distinct

theorem keys_insert (keyed : Keyed α) (key : String) (value : α) :
    (keyed.insert key value).keys =
      if key ∈ keyed.keys then keyed.keys else keyed.keys ++ [key] :=
  keys_placeEntry key value keyed.entries

theorem mem_keys_extend (keyed : Keyed α) (entries : List (String × α)) (key : String) :
    key ∈ (keyed.extend entries).keys ↔ key ∈ keyed.keys ∨ key ∈ entries.map Prod.fst := by
  induction entries generalizing keyed with
  | nil => simp [extend]
  | cons entry rest ih =>
      change key ∈ ((keyed.insert entry.1 entry.2).extend rest).keys ↔ _
      rw [ih, keys_insert, List.map_cons, List.mem_cons]
      split
      · rename_i known
        constructor
        · rintro (held | later)
          · exact .inl held
          · exact .inr (.inr later)
        · rintro (held | rfl | later)
          · exact .inl held
          · exact .inl known
          · exact .inr later
      · rw [List.mem_append, List.mem_singleton, or_assoc]

theorem get?_insert_self (keyed : Keyed α) (key : String) (value : α) :
    (keyed.insert key value).get? key = some value := by
  obtain ⟨entries, distinct⟩ := keyed
  unfold insert get?
  dsimp only
  clear distinct
  induction entries with
  | nil => simp [placeEntry]
  | cons entry rest ih =>
      by_cases same : entry.1 = key
      · simp [placeEntry, same]
      · have other : (key == entry.1) = false := by
          simpa using fun eq : key = entry.1 => same eq.symm
        rw [placeEntry, if_neg same, List.lookup_cons, other]
        exact ih

theorem get?_insert_of_ne (keyed : Keyed α) {key other : String} (differs : other ≠ key)
    (value : α) : (keyed.insert key value).get? other = keyed.get? other := by
  obtain ⟨entries, distinct⟩ := keyed
  unfold insert get?
  dsimp only
  clear distinct
  have apart : (other == key) = false := by simpa using differs
  induction entries with
  | nil => simp [placeEntry, List.lookup_cons, apart]
  | cons entry rest ih =>
      by_cases same : entry.1 = key
      · rw [placeEntry, if_pos same, List.lookup_cons, List.lookup_cons, same, apart]
      · rw [placeEntry, if_neg same, List.lookup_cons, List.lookup_cons, ih]

end Keyed

/-! ## Key mappings -/

abbrev KeyMapping := Keyed String

def underscoreFirstHyphen : List Char → List Char
  | [] => []
  | c :: rest => if c = '-' then '_' :: rest else c :: underscoreFirstHyphen rest

def mapKey (mapping : Option KeyMapping) (key : String) : String :=
  match mapping.bind (·.get? key) with
  | some column => column
  | none => String.ofList (underscoreFirstHyphen key.toList)

end RelationQuery

import RelationQuery.Proofs.Nesting
import RelationQuery.Proofs.Targets

/-!
# Two marks side by side

Where two marks stand side by side in text put together from parts: in one of the parts, unless a
part ends with the mark. The places of placeholders do not count, as neither their names nor their
numbers hold a hyphen.
-/

namespace RelationQuery

/-- Two marks stand side by side. -/
def Adjacent {α : Type} (mark : α) (items : List α) : Prop := [mark, mark] <:+: items

section Adjacent

variable {α : Type} {mark : α}

theorem not_adjacent_of_not_mem {items : List α} (absent : mark ∉ items) :
    ¬ Adjacent mark items := fun inside => absent (inside.subset List.mem_cons_self)

@[simp] theorem not_adjacent_nil : ¬ Adjacent mark ([] : List α) :=
  not_adjacent_of_not_mem List.not_mem_nil

theorem adjacent_cons_self {rest : List α} :
    Adjacent mark (mark :: rest) ↔ [mark] <+: rest ∨ Adjacent mark rest := by
  unfold Adjacent
  rw [List.infix_cons_iff, List.cons_prefix_cons]
  simp

theorem adjacent_cons_of_ne {c : α} (differs : c ≠ mark) {rest : List α} :
    Adjacent mark (c :: rest) ↔ Adjacent mark rest := by
  unfold Adjacent
  rw [List.infix_cons_iff, List.cons_prefix_cons]
  constructor
  · rintro (⟨rfl, _⟩ | later)
    · exact absurd rfl differs
    · exact later
  · exact .inr

/-- Text without the mark in front does not count. -/
theorem adjacent_append_of_not_mem {front : List α} (absent : mark ∉ front) (back : List α) :
    Adjacent mark (front ++ back) ↔ Adjacent mark back := by
  induction front with
  | nil => rfl
  | cons c front ih =>
      obtain ⟨differs, later⟩ : mark ≠ c ∧ mark ∉ front := by simpa using absent
      rw [List.cons_append, adjacent_cons_of_ne (Ne.symm differs), ih later]

/-- No two marks meet across something else. -/
theorem adjacent_append_cons {c : α} (differs : c ≠ mark) (front back : List α) :
    Adjacent mark (front ++ c :: back) ↔ Adjacent mark front ∨ Adjacent mark back := by
  induction front with
  | nil =>
      rw [List.nil_append, adjacent_cons_of_ne differs]
      simp
  | cons d front ih =>
      by_cases same : d = mark
      · subst same
        have next : [d] <+: front ++ c :: back ↔ [d] <+: front := by
          cases front with
          | nil => simpa [List.cons_prefix_cons] using Ne.symm differs
          | cons e front => simp [List.cons_prefix_cons]
        rw [List.cons_append, adjacent_cons_self, adjacent_cons_self, next, ih, or_assoc]
      · rw [List.cons_append, adjacent_cons_of_ne same, adjacent_cons_of_ne same, ih]

/-- Parts meet no mark of one with a mark of the next, if the first does not end with it. -/
theorem adjacent_append {front : List α} (closed : front.getLast? ≠ some mark) (back : List α) :
    Adjacent mark (front ++ back) ↔ Adjacent mark front ∨ Adjacent mark back := by
  induction front using List.reverseRecOn with
  | nil => simp
  | append_singleton front last _ =>
      have differs : last ≠ mark := by simpa using closed
      rw [List.append_assoc, List.singleton_append, adjacent_append_cons differs,
        adjacent_append_cons differs]
      simp

end Adjacent

namespace Sql

open Template (isNameChar scan aim)

/-! ## Hyphens of pieces -/

def hyphen : Piece := .char '-'

/-- Written out, pieces begin with a hyphen where they did, under the conditions of
`adjacent_flatMap`. -/
theorem hyphen_prefix_flatMap {write : Piece → List Char} (copies : ∀ c, write (.char c) = [c])
    {pieces : List Piece} (quiet : ∀ name, .slot name ∈ pieces →
      write (.slot name) ≠ [] ∧ '-' ∉ write (.slot name)) :
    ['-'] <+: pieces.flatMap write ↔ [hyphen] <+: pieces := by
  cases pieces with
  | nil => simp
  | cons piece rest =>
      cases piece with
      | char d => simp [copies, List.cons_prefix_cons, hyphen, eq_comm]
      | slot name =>
          obtain ⟨nonempty, absent⟩ := quiet name List.mem_cons_self
          obtain ⟨first, tail, spelled⟩ := List.exists_cons_of_ne_nil nonempty
          have differs : '-' ≠ first := by
            rintro rfl
            exact absent (spelled ▸ List.mem_cons_self)
          simp [spelled, List.cons_prefix_cons, hyphen, differs]

/-- Written out, pieces have adjacent hyphens where they had them, if no slot is written with one
or as nothing. -/
theorem adjacent_flatMap {write : Piece → List Char} (copies : ∀ c, write (.char c) = [c])
    {pieces : List Piece} (quiet : ∀ name, .slot name ∈ pieces →
      write (.slot name) ≠ [] ∧ '-' ∉ write (.slot name)) :
    Adjacent '-' (pieces.flatMap write) ↔ Adjacent hyphen pieces := by
  induction pieces with
  | nil => simp
  | cons piece rest ih =>
      have behind : ∀ name, .slot name ∈ rest →
          write (.slot name) ≠ [] ∧ '-' ∉ write (.slot name) :=
        fun name member => quiet name (List.mem_cons_of_mem piece member)
      rw [List.flatMap_cons]
      cases piece with
      | slot name =>
          have other : Piece.slot name ≠ hyphen := fun same => nomatch same
          rw [adjacent_append_of_not_mem (quiet name List.mem_cons_self).2,
            adjacent_cons_of_ne other, ih behind]
      | char c =>
          rw [copies, List.singleton_append]
          by_cases same : c = '-'
          · subst same
            change _ ↔ Adjacent hyphen (hyphen :: rest)
            rw [adjacent_cons_self, adjacent_cons_self, hyphen_prefix_flatMap copies behind,
              ih behind]
          · have other : Piece.char c ≠ hyphen := by simpa [hyphen] using same
            rw [adjacent_cons_of_ne same, adjacent_cons_of_ne other, ih behind]

theorem hyphen_not_mem_placeholder (k : Nat) : '-' ∉ placeholder k := by
  intro member
  rcases List.mem_cons.mp member with same | digit
  · exact absurd same (by decide)
  · exact absurd (Nat.isDigit_of_mem_toDigits (by decide) (by decide) digit) (by decide)

/-- Numbered text has adjacent hyphens where its pieces have them. -/
theorem adjacent_textOf (names : List String) (pieces : List Piece) :
    Adjacent '-' (textOf names pieces) ↔ Adjacent hyphen pieces :=
  adjacent_flatMap (fun _ => rfl) fun _ _ => ⟨List.cons_ne_nil _ _, hyphen_not_mem_placeholder _⟩

theorem named_eq_flatMap (pieces : List Piece) :
    named pieces = pieces.flatMap fun piece => named [piece] := by
  induction pieces with
  | nil => rfl
  | cons piece rest ih =>
      rw [List.flatMap_cons, ← ih, ← Template.named_append]
      rfl

/-- A fragment has adjacent hyphens where its text has them once it is aimed. -/
theorem adjacent_fragment (relation : Relation) (template : String) :
    Adjacent hyphen (Template.pieces (some relation) template) ↔
      Adjacent '-' (aim (some relation) template.toList) := by
  have read : named (Template.pieces (some relation) template) =
      aim (some relation) template.toList := Template.named_scan .outside _
  rw [← read, named_eq_flatMap]
  refine (adjacent_flatMap (fun _ => rfl) fun name member => ?_).symm
  have spelled : MadeOf isNameChar name.toList := by
    refine nameChar_of_slot ?_ member
    intro start same
    cases same
  refine ⟨List.cons_ne_nil _ _, ?_⟩
  change '-' ∉ [':'] ++ (name.toList ++ [])
  intro member
  rw [List.append_nil] at member
  rcases List.mem_append.mp member with colon | inName
  · exact absurd colon (by decide)
  · exact ne_of_nameChar (spelled _ inName) '-' rfl rfl

/-! ## Parts without hyphens -/

def Unhyphened (pieces : List Piece) : Prop := hyphen ∉ pieces

instance (pieces : List Piece) : Decidable (Unhyphened pieces) :=
  inferInstanceAs (Decidable (hyphen ∉ pieces))

theorem unhyphened_literal {text : String} (absent : '-' ∉ text.toList) :
    Unhyphened (literal text) := by
  intro member
  obtain ⟨c, inText, same⟩ := List.mem_map.mp member
  cases same
  exact absent inText

namespace Unhyphened

theorem append {front back : List Piece} (first : Unhyphened front) (second : Unhyphened back) :
    Unhyphened (front ++ back) := List.not_mem_append first second

theorem flatMap {Part : Type} {write : Part → List Piece} {parts : List Part}
    (each : ∀ part ∈ parts, Unhyphened (write part)) : Unhyphened (parts.flatMap write) := by
  intro member
  obtain ⟨part, isPart, inside⟩ := List.mem_flatMap.mp member
  exact each part isPart inside

theorem separated {parts : List (List Piece)} (each : ∀ part ∈ parts, Unhyphened part) :
    Unhyphened (separated ", " parts) := by
  cases parts with
  | nil => exact List.not_mem_nil
  | cons part rest =>
      obtain ⟨first, later⟩ := List.forall_mem_cons.mp each
      rw [separated_cons]
      exact first.append (flatMap fun other member =>
        (unhyphened_literal (by decide)).append (later other member))

theorem listClause {words : String} (absent : '-' ∉ words.toList) {parts : List (List Piece)}
    (each : ∀ part ∈ parts, Unhyphened part) : Unhyphened (listClause words parts) := by
  unfold Sql.listClause
  split
  · exact List.not_mem_nil
  · exact (unhyphened_literal absent).append (separated each)

end Unhyphened

/-! ## Parts with hyphens -/

/-- Pieces without a hyphen at their end, with adjacent hyphens in one case only. -/
structure Sealed (pieces : List Piece) (case : Prop) : Prop where
  closed : pieces.getLast? ≠ some hyphen
  adjacent_iff : Adjacent hyphen pieces ↔ case

theorem Unhyphened.sealed {pieces : List Piece} (absent : Unhyphened pieces) :
    Sealed pieces False where
  closed last := absent (List.mem_of_getLast? last)
  adjacent_iff := iff_false_intro (not_adjacent_of_not_mem absent)

namespace Sealed

theorem nil : Sealed [] False := Unhyphened.sealed List.not_mem_nil

theorem congr {pieces : List Piece} {case other : Prop} (sealed : Sealed pieces case)
    (same : case ↔ other) : Sealed pieces other :=
  ⟨sealed.closed, sealed.adjacent_iff.trans same⟩

theorem append {front back : List Piece} {early late : Prop} (first : Sealed front early)
    (second : Sealed back late) : Sealed (front ++ back) (early ∨ late) where
  closed := by
    rw [List.getLast?_append]
    cases last : back.getLast? with
    | none => exact first.closed
    | some piece =>
        have closed := second.closed
        rw [last] at closed
        exact closed
  adjacent_iff := by
    rw [adjacent_append first.closed, first.adjacent_iff, second.adjacent_iff]

/-- What stands between texts without hyphens may end as it likes. -/
theorem between {front inner back : List Piece} {case : Prop} (before : Unhyphened front)
    (inside : Adjacent hyphen inner ↔ case) (behind : Unhyphened back) (nonempty : back ≠ []) :
    Sealed (front ++ (inner ++ back)) case := by
  obtain ⟨first, rest, rfl⟩ := List.exists_cons_of_ne_nil nonempty
  obtain ⟨differs, later⟩ : hyphen ≠ first ∧ hyphen ∉ rest := by simpa [Unhyphened] using behind
  constructor
  · rw [List.getLast?_append, List.getLast?_append]
    have last : (first :: rest).getLast? ≠ none := by simp
    obtain ⟨piece, known⟩ := Option.ne_none_iff_exists'.mp last
    rw [known]
    rintro same
    cases same
    exact behind (List.mem_of_getLast? known)
  · rw [adjacent_append_of_not_mem before, adjacent_append_cons (Ne.symm differs), inside]
    simp [not_adjacent_of_not_mem later]

section Lists

variable {Item Part : Type} {case : Item → Prop}

/-- Parts one behind the other, of which each has its own case. -/
theorem flatMap {write : Part → List Piece} {items : List Item} {parts : List Part}
    (each : List.Forall₂ (fun item part => Sealed (write part) (case item)) items parts) :
    Sealed (parts.flatMap write) (∃ item ∈ items, case item) := by
  induction each with
  | nil => exact nil.congr (by simp)
  | cons first rest ih =>
      rw [List.flatMap_cons]
      exact (first.append ih).congr (by simp)

theorem separated {items : List Item} {parts : List (List Piece)}
    (each : List.Forall₂ (fun item part => Sealed part (case item)) items parts) :
    Sealed (separated ", " parts) (∃ item ∈ items, case item) := by
  have comma : Sealed (literal ", ") False := (unhyphened_literal (by decide)).sealed
  cases each with
  | nil => exact nil.congr (by simp)
  | cons first rest =>
      have later := flatMap (rest.imp fun _ _ sealed =>
        (comma.append sealed).congr (iff_of_eq (false_or _)))
      rw [separated_cons]
      exact (first.append later).congr (by simp)

theorem listClause {words : String} (absent : '-' ∉ words.toList) {items : List Item}
    {parts : List (List Piece)}
    (each : List.Forall₂ (fun item part => Sealed part (case item)) items parts) :
    Sealed (listClause words parts) (∃ item ∈ items, case item) := by
  unfold Sql.listClause
  cases each with
  | nil => exact nil.congr (by simp)
  | cons first rest => exact
      ((unhyphened_literal absent).sealed.append (separated (.cons first rest))).congr (by simp)

end Lists

end Sealed

end Sql

end RelationQuery

import Mathlib.Data.List.Induction
import RelationQuery.Sql.Render

/-!
# Numbering by place

The number of a slot is the place of its name among all the names of a statement. Once these names
are known, every piece can be written without those before it, and the numbers met in the text are
one, two, three and so on, in the order of their first occurrence.
-/

namespace RelationQuery.Sql

def Piece.text (names : List String) : Piece → List Char
  | .char c => [c]
  | .slot name => placeholder (names.idxOf name + 1)

def textOf (names : List String) (pieces : List Piece) : List Char :=
  pieces.flatMap (Piece.text names)

@[simp] theorem textOf_append (names : List String) (front back : List Piece) :
    textOf names (front ++ back) = textOf names front ++ textOf names back :=
  List.flatMap_append

@[simp] theorem textOf_literal (names : List String) (text : String) :
    textOf names (literal text) = text.toList := by
  unfold textOf literal
  induction text.toList with
  | nil => rfl
  | cons c rest ih => simpa [Piece.text] using ih

theorem textOf_flatMap {α : Type} (names : List String) (parts : List α) (write : α → List Piece) :
    textOf names (parts.flatMap write) = parts.flatMap fun part => textOf names (write part) :=
  List.flatMap_assoc

theorem separated_cons (separator : String) (part : List Piece) (rest : List (List Piece)) :
    separated separator (part :: rest) =
      part ++ rest.flatMap fun other => literal separator ++ other := by
  unfold separated
  induction rest generalizing part with
  | nil => rw [List.intercalate_singleton, List.flatMap_nil, List.append_nil]
  | cons next others ih =>
      rw [List.intercalate_cons_cons, ih, List.flatMap_cons, List.append_assoc, List.append_assoc]

/-! ## All names at once -/

theorem prefix_meet (names : List String) (name : String) : names <+: meet names name := by
  unfold meet
  split
  · exact List.prefix_rfl
  · exact List.prefix_append names [name]

theorem prefix_number (names : List String) (pieces : List Piece) :
    names <+: (number names pieces).1 := by
  induction pieces generalizing names with
  | nil => exact List.prefix_rfl
  | cons piece rest ih =>
      cases piece with
      | char c => exact ih names
      | slot name => exact (prefix_meet names name).trans (ih (meet names name))

/-- A name keeps its place when more names are met. -/
theorem idxOf_of_prefix {known names : List String} {name : String} (front : known <+: names)
    (member : name ∈ known) : names.idxOf name = known.idxOf name := by
  obtain ⟨later, rfl⟩ := front
  rw [List.idxOf_append, if_pos member]

/-- Numbering from the left agrees with writing every piece by the place of its name. -/
theorem snd_number (names : List String) (pieces : List Piece) :
    (number names pieces).2 = textOf (number names pieces).1 pieces := by
  induction pieces generalizing names with
  | nil => rfl
  | cons piece rest ih =>
      cases piece with
      | char c => exact congrArg (c :: ·) (ih names)
      | slot name =>
          have place : (number (meet names name) rest).1.idxOf name =
              (meet names name).idxOf name :=
            idxOf_of_prefix (prefix_number _ rest) (mem_meet names name)
          change placeholder ((meet names name).idxOf name + 1) ++
              (number (meet names name) rest).2 =
            placeholder ((number (meet names name) rest).1.idxOf name + 1) ++
              textOf (number (meet names name) rest).1 rest
          rw [place, ih]

theorem assemble_eq (pieces : List Piece) :
    assemble pieces = ⟨String.ofList (textOf (slotNames pieces) pieces), slotNames pieces⟩ := by
  unfold assemble
  dsimp only
  rw [snd_number, fst_number]

/-- A statement on its own takes its relation as the target of its fragments. -/
theorem Statement.render_eq (statement : Statement) :
    statement.render = assemble (statement.pieces statement.relation?) := by
  change assemble ([] ++ statement.pieces (none <|> statement.relation?)) = _
  rw [List.nil_append]
  cases statement.relation? <;> rfl

theorem Statement.params_render (statement : Statement) :
    statement.render.params = slotNames (statement.pieces statement.relation?) := by
  rw [render_eq, assemble_eq]

theorem Statement.sql_render (statement : Statement) :
    statement.render.sql.toList =
      textOf statement.render.params (statement.pieces statement.relation?) := by
  rw [params_render, render_eq, assemble_eq]
  exact String.toList_ofList

/-! ## The numbers in order -/

def Piece.slot? : Piece → Option String
  | .char _ => none
  | .slot name => some name

def slots (pieces : List Piece) : List String := pieces.filterMap Piece.slot?

theorem eraseDups_append_singleton {α : Type} [DecidableEq α] (front : List α) (last : α) :
    (front ++ [last]).eraseDups =
      if last ∈ front then front.eraseDups else front.eraseDups ++ [last] := by
  rw [List.eraseDups_append]
  split <;> simp_all [List.removeAll, List.eraseDups_cons]

theorem eraseDups_map {α β : Type} [DecidableEq α] [DecidableEq β] {items : List α} {image : α → β}
    (apart : ∀ a ∈ items, ∀ b ∈ items, image a = image b → a = b) :
    (items.map image).eraseDups = items.eraseDups.map image := by
  induction items using List.reverseRecOn with
  | nil => rfl
  | append_singleton front last ih =>
      have inner := ih fun a memberA b memberB =>
        apart a (List.mem_append_left _ memberA) b (List.mem_append_left _ memberB)
      have same : image last ∈ front.map image ↔ last ∈ front := by
        constructor
        · intro member
          obtain ⟨other, memberOther, eq⟩ := List.mem_map.mp member
          have found := apart other (List.mem_append_left _ memberOther) last (by simp) eq
          exact found ▸ memberOther
        · exact List.mem_map_of_mem
      rw [List.map_append, List.map_singleton, eraseDups_append_singleton,
        eraseDups_append_singleton, inner]
      by_cases member : last ∈ front
      · rw [if_pos (same.mpr member), if_pos member]
      · rw [if_neg (mt same.mp member), if_neg member, List.map_append, List.map_singleton]

/-- The names of a statement are those of its slots without repetition. -/
theorem slotNames_eq (pieces : List Piece) : slotNames pieces = (slots pieces).eraseDups := by
  induction pieces using List.reverseRecOn with
  | nil => rfl
  | append_singleton front piece ih =>
      unfold slotNames slots at ih ⊢
      rw [List.foldl_append, ih, List.filterMap_append]
      cases piece with
      | char c =>
          change _ = (slots front ++ []).eraseDups
          rw [List.append_nil]
          rfl
      | slot name =>
          change meet (slots front).eraseDups name = (slots front ++ [name]).eraseDups
          rw [eraseDups_append_singleton, meet]
          simp only [List.mem_eraseDups]

theorem nodup_slotNames (pieces : List Piece) : (slotNames pieces).Nodup := by
  rw [← fst_number]
  exact nodup_number List.nodup_nil pieces

theorem slot_mem_slotNames {pieces : List Piece} {name : String} (member : .slot name ∈ pieces) :
    name ∈ slotNames pieces := by
  rw [slotNames_eq, List.mem_eraseDups]
  exact List.mem_filterMap.mpr ⟨.slot name, member, rfl⟩

end RelationQuery.Sql

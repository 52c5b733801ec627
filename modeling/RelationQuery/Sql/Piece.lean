/-!
# Pieces of a statement

A statement is first written as pieces: characters, and slots for named values. Numbering then turns
every slot into `$k`, where `k` is the place of its name among the names in order of first
occurrence.
-/

namespace RelationQuery.Sql

inductive Piece where
  | char (c : Char)
  | slot (name : String)
  deriving DecidableEq, Repr

def literal (text : String) : List Piece := text.toList.map .char

/-- Text with positional placeholders, and the name behind each of them. -/
structure Rendered where
  sql : String
  params : List String
  deriving DecidableEq, Repr

def meet (names : List String) (name : String) : List String :=
  if name ∈ names then names else names ++ [name]

def placeholder (k : Nat) : List Char := '$' :: Nat.toDigits 10 k

/-- Numbers the slots after those in `names`: all names known at the end, and the text. -/
def number : List String → List Piece → List String × List Char
  | names, [] => (names, [])
  | names, .char c :: rest =>
      let tail := number names rest
      (tail.1, c :: tail.2)
  | names, .slot name :: rest =>
      let known := meet names name
      let tail := number known rest
      (tail.1, placeholder (known.idxOf name + 1) ++ tail.2)

/-- The names of the slots, in order of first occurrence. -/
def slotNames (pieces : List Piece) : List String :=
  pieces.foldl (fun names piece => match piece with
    | .char _ => names
    | .slot name => meet names name) []

/-- The text in which every slot is written `:name`. -/
def named : List Piece → List Char
  | [] => []
  | .char c :: rest => c :: named rest
  | .slot name :: rest => ':' :: name.toList ++ named rest

def assemble (pieces : List Piece) : Rendered :=
  let numbered := number [] pieces
  ⟨String.ofList numbered.2, numbered.1⟩

/-- Numbering a whole statement collects the names of its slots. -/
theorem fst_number (pieces : List Piece) : (number [] pieces).1 = slotNames pieces := by
  have from_names (names : List String) :
      (number names pieces).1 = pieces.foldl (fun names piece => match piece with
        | .char _ => names
        | .slot name => meet names name) names := by
    induction pieces generalizing names with
    | nil => rfl
    | cons piece rest ih => cases piece <;> simp [number, ih]
  exact from_names []

theorem nodup_meet {names : List String} (distinct : names.Nodup) (name : String) :
    (meet names name).Nodup := by
  unfold meet
  split
  · exact distinct
  · rename_i absent
    rw [List.nodup_append]
    exact ⟨distinct, by simp, fun a member b same => by
      rintro rfl
      exact absent (List.mem_singleton.mp same ▸ member)⟩

theorem mem_meet (names : List String) (name : String) : name ∈ meet names name := by
  unfold meet
  split <;> simp [*]

theorem number_append (names : List String) (front back : List Piece) :
    number names (front ++ back) =
      ((number (number names front).1 back).1,
        (number names front).2 ++ (number (number names front).1 back).2) := by
  induction front generalizing names with
  | nil => rfl
  | cons piece rest ih => cases piece <;> simp [number, ih]

theorem nodup_number {names : List String} (distinct : names.Nodup) (pieces : List Piece) :
    (number names pieces).1.Nodup := by
  induction pieces generalizing names with
  | nil => exact distinct
  | cons piece rest ih =>
      cases piece with
      | char c => exact ih distinct
      | slot name => exact ih (nodup_meet distinct name)

end RelationQuery.Sql

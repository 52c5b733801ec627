import Mathlib.Data.List.Forall2
import RelationQuery.Proofs.CellValues

/-!
# The cells of arrays

An array travels as its cells one behind the other, each with its length in front. Cells whose
number and whose lengths fit their words are cut apart again, and the cells of every array that was
read do fit them.
-/

namespace RelationQuery

/-- A list is read item by item. -/
theorem mapM_eq_some_iff_forall₂ {α β : Type} {read? : α → Option β} {items : List α}
    {results : List β} :
    items.mapM read? = some results ↔
      List.Forall₂ (fun item result => read? item = some result) items results := by
  induction items generalizing results with
  | nil => simp [eq_comm]
  | cons item rest ih =>
      simp [Option.bind_eq_some_iff, List.forall₂_cons_left_iff, ← ih, @eq_comm _ results]

namespace Wire

/-! ## Cutting cells apart -/

/-- Whether the length of a cell fits the word in front of it. -/
def Short (cell : Option (List UInt8)) : Prop := ∀ length ∈ cell.map List.length, length < 2 ^ 31

theorem length_of_cutSigned? {bytes rest : List UInt8} {n : Int}
    (cut : cutSigned? 4 bytes = some (n, rest)) : n < 2 ^ 31 := by
  obtain ⟨front, long, rfl, -⟩ := append_of_cutSigned? cut
  have range := ofSignedBytes_range front
  rw [long] at range
  omega

/-- As many cells are cut as are asked for, and each has a length that fits. -/
theorem short_of_cutCells? {count : Nat} {bytes : List UInt8} {cells : List (Option (List UInt8))}
    (cut : cutCells? count bytes = some cells) : cells.length = count ∧ ∀ cell ∈ cells, Short cell := by
  induction count generalizing bytes cells with
  | zero =>
      simp only [cutCells?, Option.ite_none_right_eq_some, Option.some.injEq] at cut
      obtain ⟨-, rfl⟩ := cut
      exact ⟨rfl, List.forall_mem_nil _⟩
  | succ count ih =>
      rw [cutCells?] at cut
      obtain ⟨⟨length, rest⟩, first, cut⟩ := Option.bind_eq_some_iff.mp cut
      have small := length_of_cutSigned? first
      dsimp only at cut
      split at cut
      · obtain ⟨others, later, same⟩ := Option.bind_eq_some_iff.mp cut
        cases same
        obtain ⟨counted, short⟩ := ih later
        exact ⟨by simp [counted], List.forall_mem_cons.mpr ⟨by simp [Short], short⟩⟩
      · split at cut
        · obtain ⟨others, later, same⟩ := Option.bind_eq_some_iff.mp cut
          cases same
          obtain ⟨counted, short⟩ := ih later
          have fits : Short (some (rest.take length.toNat)) := by
            simp only [Short, Option.map_some, Option.mem_some, forall_eq', List.length_take]
            omega
          exact ⟨by simp [counted], List.forall_mem_cons.mpr ⟨fits, short⟩⟩
        · contradiction

/-- Cells with their lengths in front are cut apart. -/
theorem cutCells?_sized {cells : List (Option (List UInt8))} (short : ∀ cell ∈ cells, Short cell) :
    cutCells? cells.length (cells.flatMap sized) = some cells := by
  induction cells with
  | nil => rfl
  | cons cell rest ih =>
      obtain ⟨fits, later⟩ := List.forall_mem_cons.mp short
      rw [List.length_cons, cutCells?, List.flatMap_cons]
      cases cell with
      | none =>
          have absent : ofSignedBytes (signedBytes 4 (-1)) = -1 := by decide
          rw [sized, cutSigned?_append (length_signedBytes _ _), absent]
          simp [ih later]
      | some bytes =>
          have fits : bytes.length < 2 ^ 31 := fits _ rfl
          have length : ofSignedBytes (bigEndian 4 bytes.length) = bytes.length :=
            ofSignedBytes_bigEndian (by omega)
          rw [sized, List.append_assoc, cutSigned?_append (length_bigEndian _ _), length]
          have natural : ¬(bytes.length : Int) < 0 := by omega
          have whole : bytes.length ≤ (bytes ++ rest.flatMap sized).length := by simp
          simp only [Int.toNat_natCast, if_neg natural, if_pos whole, List.drop_left,
            List.take_left, ih later, Option.bind_eq_bind, Option.bind_some]

/-! ## Arrays -/

/-- The cells of an array that was read fit their words, and so does their number. -/
theorem short_of_decodeArray? {bytes : List UInt8} {cells : List (Option (List UInt8))}
    (read : decodeArray? bytes = some cells) :
    cells.length < 2 ^ 31 ∧ ∀ cell ∈ cells, Short cell := by
  rw [decodeArray?] at read
  obtain ⟨⟨dimensions, rest⟩, -, read⟩ := Option.bind_eq_some_iff.mp read
  obtain ⟨⟨_, rest⟩, -, read⟩ := Option.bind_eq_some_iff.mp read
  obtain ⟨⟨_, rest⟩, -, read⟩ := Option.bind_eq_some_iff.mp read
  dsimp only at read
  split at read
  · obtain ⟨counted, short⟩ := short_of_cutCells? read
    exact ⟨by omega, short⟩
  split at read
  · obtain ⟨⟨length, rest⟩, first, read⟩ := Option.bind_eq_some_iff.mp read
    obtain ⟨⟨_, rest⟩, -, read⟩ := Option.bind_eq_some_iff.mp read
    have small := length_of_cutSigned? first
    dsimp only at read
    split at read
    · contradiction
    · obtain ⟨counted, short⟩ := short_of_cutCells? read
      exact ⟨by omega, short⟩
  · contradiction

/-- An array of one dimension is its cells behind five words, the fourth of which counts them. -/
theorem decodeArray?_of_words {bytes behind₁ behind₂ behind₃ behind₄ cells : List UInt8}
    {flags lowerBound : Int} {element count : Nat}
    (dimensions : cutSigned? 4 bytes = some (1, behind₁))
    (flagged : cutSigned? 4 behind₁ = some (flags, behind₂))
    (typed : cutWord? 4 behind₂ = some (element, behind₃))
    (counted : cutSigned? 4 behind₃ = some ((count : Int), behind₄))
    (bounded : cutSigned? 4 behind₄ = some (lowerBound, cells)) :
    decodeArray? bytes = cutCells? count cells := by
  have natural : ¬(count : Int) < 0 := by omega
  simp [decodeArray?, dimensions, flagged, typed, counted, bounded, natural]

/-- The cells of an array are read back, whatever the index of the first of them. -/
theorem decodeArray?_encodeArray {cells : List (Option (List UInt8))}
    (few : cells.length < 2 ^ 31) (short : ∀ cell ∈ cells, Short cell) (element : ScalarType)
    (lowerBound : Int) : decodeArray? (encodeArray element lowerBound cells) = some cells := by
  have one : ofSignedBytes (bigEndian 4 1) = 1 := by decide
  have count : ofSignedBytes (bigEndian 4 cells.length) = cells.length :=
    ofSignedBytes_bigEndian (by omega)
  have dimensions := cutSigned?_append (length_bigEndian 4 1)
  have counted := cutSigned?_append (length_bigEndian 4 cells.length)
  rw [one] at dimensions
  rw [count] at counted
  rw [← cutCells?_sized short, encodeArray]
  simp only [List.append_assoc]
  exact decodeArray?_of_words (dimensions _) (cutSigned?_append (length_bigEndian 4 _) _)
    (cutWord?_append (length_bigEndian 4 _) _) (counted _)
    (cutSigned?_append (length_signedBytes 4 _) _)

/-! ## Elements -/

/-- A nullable cell of a type and its value: what is absent is null. -/
inductive ElementOf (type : ScalarType) : Option (List UInt8) → Value → Prop where
  | absent : ElementOf type none .null
  | present {bytes : List UInt8} {value : Value} (cell : CellOf type bytes value) :
      ElementOf type (some bytes) value

section

variable {type : ScalarType} {read? : List UInt8 → Option Value}
  (reader : scalarReader? type = some read?)

include reader

theorem elementOf_of_read {cell : Option (List UInt8)} {value : Value}
    (listed : type ∈ reversibleScalars) (read : readNullable? read? cell = some value) :
    ElementOf type cell value := by
  cases cell with
  | none =>
      cases read
      exact .absent
  | some bytes => exact .present (cellOf_of_read listed reader read)

theorem ElementOf.read {cell : Option (List UInt8)} {value : Value}
    (item : ElementOf type cell value) : readNullable? read? cell = some value := by
  cases item with
  | absent => rfl
  | present cell => exact cell.read reader

end

/-- A value that was read becomes a cell of the same type and length with the same value. -/
theorem ElementOf.encoded {type : ScalarType} {cell : Option (List UInt8)} {value : Value}
    (item : ElementOf type cell value) :
    ∃ written, encodeNullable type value = .ok written ∧
      written.map List.length = cell.map List.length ∧ ElementOf type written value := by
  cases item with
  | absent => exact ⟨none, rfl, rfl, .absent⟩
  | present cell =>
      obtain ⟨written, sent, long, back⟩ := cell.encoded
      refine ⟨some written, ?_, congrArg some long, .present back⟩
      rw [encodeNullable, cell.not_null, sent]
      rfl

/-- The values of an array become as many cells with the same values. -/
theorem elements_encoded {type : ScalarType} {cells : List (Option (List UInt8))}
    {items : List Value} (read : List.Forall₂ (ElementOf type) cells items)
    (short : ∀ cell ∈ cells, Short cell) :
    ∃ written, items.mapM (encodeNullable type) = .ok written ∧ (∀ cell ∈ written, Short cell) ∧
      written.length = cells.length ∧ List.Forall₂ (ElementOf type) written items := by
  induction read with
  | nil => exact ⟨[], rfl, List.forall_mem_nil _, rfl, .nil⟩
  | cons item _ ih =>
      obtain ⟨here, later⟩ := List.forall_mem_cons.mp short
      obtain ⟨first, sent, same, back⟩ := item.encoded
      obtain ⟨rest, sentRest, fitsRest, long, backRest⟩ := ih later
      have fits : Short first := by rwa [Short, same]
      refine ⟨first :: rest, ?_, List.forall_mem_cons.mpr ⟨fits, fitsRest⟩, ?_,
        .cons back backRest⟩
      · rw [List.mapM_cons, sent, sentRest]
        rfl
      · simp [long]

end Wire

end RelationQuery

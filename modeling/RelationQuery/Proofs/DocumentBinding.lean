import RelationQuery.Wire.Parameter

/-!
# Binding documents

A loosely typed document is taken apart into values where it is an array, and kept whole where it is
an object. Put together again as a parameter it is the same document, as long as its whole numbers
outside objects are words with a sign.
-/

namespace RelationQuery

/-- A document whose whole numbers outside objects are words of 64 bits with a sign, and whose
floating numbers there are finite. -/
inductive Json.FitsWords : Json → Prop where
  | null : FitsWords .null
  | bool (b : Bool) : FitsWords (.bool b)
  | whole {n : Int} (low : -2 ^ 63 ≤ n) (high : n < 2 ^ 63) : FitsWords (.number (.whole n))
  | float {x : Double} (finite : x.isFinite = true) : FitsWords (.number (.float x))
  | string (s : String) : FitsWords (.string s)
  | array {items : List Json} (each : ∀ item ∈ items, FitsWords item) : FitsWords (.array items)
  | object (members : List (String × Json)) : FitsWords (.object members)

namespace Value

theorem toJson_items {items : List Json}
    (each : ∀ item ∈ items, (ofJson item).toJson = item) :
    toJsonItems (ofJsonItems items) = items := by
  induction items with
  | nil => rfl
  | cons item rest ih =>
      obtain ⟨first, later⟩ := List.forall_mem_cons.mp each
      rw [ofJsonItems, toJsonItems, first, ih later]

/-- A document is put together again from its value. -/
theorem toJson_ofJson {document : Json} (fits : document.FitsWords) :
    (ofJson document).toJson = document := by
  induction fits with
  | null | bool | string | object => rfl
  | @whole n low high =>
      have read : (Json.Number.whole n).toInt64? = some (.ofInt n) := if_pos high
      rw [ofJson, read]
      exact congrArg (Json.number ∘ Json.Number.whole) (Int64.toInt_ofInt_of_le low (by omega))
  | float finite => exact if_pos finite
  | array each ih => exact congrArg Json.array (toJson_items ih)

theorem isNull_ofJson {document : Json} (present : document ≠ .null) :
    (ofJson document).isNull = false := by
  cases document with
  | null => contradiction
  | number n =>
      rw [ofJson]
      split
      · rfl
      · rfl
  | _ => rfl

end Value

namespace Wire

theorem toDocument_eq_toJson (value : Value) : toDocument value = value.toJson := by
  cases value with
  | _ => rfl

/-- A value other than null is sent to the JSON types as the text of its document. -/
theorem bind_document {value : Value} (present : value.isNull = false) :
    bind (.scalar .json) value = .ok (some (Text.Utf8.encode value.toJson.text)) ∧
      bind (.scalar .jsonb) value = .ok (some (1 :: Text.Utf8.encode value.toJson.text)) := by
  rw [← toDocument_eq_toJson]
  cases value with
  | null => cases present
  | _ => exact ⟨rfl, rfl⟩

end Wire

/-- Binding a document loses nothing: whatever arrays, nulls, numbers, strings and objects nest in
it, the value of the document is sent to a JSON column as the compact text of the document, and to
one in the binary form as that text behind the version. -/
theorem documents_bound_losslessly {document : Json} (fits : document.FitsWords)
    (present : document ≠ .null) :
    Wire.bind (.scalar .json) (.ofJson document) =
        .ok (some (Text.Utf8.encode document.text)) ∧
      Wire.bind (.scalar .jsonb) (.ofJson document) =
        .ok (some (1 :: Text.Utf8.encode document.text)) := by
  have bound := Wire.bind_document (Value.isNull_ofJson present)
  rwa [Value.toJson_ofJson fits] at bound

def nestedDocument : Json :=
  .array [.null, .number (.whole (-2 ^ 63)), .number (.float (Binary.ofRatio .double false 1 2)),
    .object [("k", .number (.whole (2 ^ 64 - 1)))], .array [.array [], .string "é\n"]]

theorem fitsWords_nestedDocument : nestedDocument.FitsWords := by
  refine .array fun item member => ?_
  simp only [List.mem_cons, List.not_mem_nil, or_false] at member
  obtain rfl | rfl | rfl | rfl | rfl := member
  · exact .null
  · exact .whole (by decide) (by decide)
  · exact .float (by decide +kernel)
  · exact .object _
  · refine .array fun item member => ?_
    simp only [List.mem_cons, List.not_mem_nil, or_false] at member
    obtain rfl | rfl := member
    · exact .array (List.forall_mem_nil _)
    · exact .string _

theorem nestedDocument_bound :
    nestedDocument.FitsWords ∧ nestedDocument ≠ .null ∧
      Wire.bind (.scalar .json) (.ofJson nestedDocument) =
        .ok (some (Text.Utf8.encode nestedDocument.text)) ∧
      Wire.bind (.scalar .jsonb) (.ofJson nestedDocument) =
        .ok (some (1 :: Text.Utf8.encode nestedDocument.text)) :=
  have present : nestedDocument ≠ .null := nofun
  ⟨fitsWords_nestedDocument, present,
    documents_bound_losslessly fitsWords_nestedDocument present⟩

end RelationQuery

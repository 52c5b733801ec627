import RelationQuery.Proofs.BoundCells
import RelationQuery.Proofs.BoundValues

/-!
# Types of a fixed width

In the binary format all values of some types have the same number of bytes. A parameter of such a
type has that many bytes if the type has a form of its own: a value is then written in that form or
refused. The other types take the text of every value, as long as that happens to be.
-/

namespace RelationQuery

namespace ScalarType

def unformedWidths : List (ScalarType × Nat) :=
  [(.other "oid" 26, 4), (.other "time" 1083, 8), (.other "money" 790, 8),
    (.other "interval" 1186, 16)]

/-- The number of bytes that every value of a type has in the binary format, if it is fixed. -/
def width? (type : ScalarType) : Option Nat :=
  match type with
  | .bool => some 1
  | .int2 => some 2
  | .int4 | .float4 | .date => some 4
  | .int8 | .float8 | .timestamp | .timestamptz => some 8
  | .uuid => some 16
  | .other .. => unformedWidths.lookup type
  | .bytea | .name | .text | .json | .bpchar | .varchar | .numeric | .jsonb => none

end ScalarType

namespace Wire

variable {type : ScalarType} {value : Value}

theorem length_of_written {α : Type} {coerced : Except Refusal α} {form : α → List UInt8}
    {width : Nat} (sized : ∀ a, (form a).length = width) {bytes : List UInt8}
    (written : (coerced >>= fun a => pure (form a)) = .ok bytes) : bytes.length = width := by
  obtain ⟨a, -, same⟩ := bind_eq_ok.mp written
  exact Except.ok.inj same ▸ sized a

/-- A type with a form of its own writes every value that it takes in its width. -/
theorem length_encodeScalar (formed : type ∈ ScalarType.formed) {width : Nat}
    (fixed : type.width? = some width) {bytes : List UInt8}
    (written : encodeScalar type value = .ok bytes) : bytes.length = width := by
  cases type with
  | bool =>
      cases fixed
      exact @length_of_written _ _ (fun b : Bool => [if b then 1 else 0]) _ (fun _ => rfl) _ written
  | int2 | int4 =>
      cases fixed
      obtain ⟨n, -, narrow⟩ := bind_eq_ok.mp written
      exact length_of_written (length_signedBytes _) narrow
  | int8 =>
      cases fixed
      exact length_of_written (length_signedBytes _) written
  | float4 | float8 | uuid =>
      cases fixed
      exact length_of_written (fun _ => length_bigEndian _ _) written
  | timestamp | timestamptz | date =>
      cases fixed
      exact length_of_written (fun _ => length_signedBytes _ _) written
  | other name oid => simp [ScalarType.formed] at formed
  | bytea | name | text | json | bpchar | varchar | numeric | jsonb => cases fixed

/-- A type of a fixed width without a form of its own takes the text of every value. -/
theorem encodeScalar_unformed (unformed : type ∉ ScalarType.formed) :
    encodeScalar type value = .ok (Text.Utf8.encode (toText value)) := by
  cases type with
  | other name oid => rfl
  | _ => exact absurd (by decide) unformed

end Wire

open Wire

/-- When parameters of a type of a fixed width have that width. Whatever is sent for a value other
than null has as many bytes as the type says if and only if the type has a form of its own or the
text of the value happens to be that long; without a form of its own no value is refused, and all
are sent as text. -/
theorem fixed_widths_kept_iff {type : ScalarType} {width : Nat} (fixed : type.width? = some width)
    {value : Value} (present : value.isNull = false) :
    ((∀ written, Wire.bind (.scalar type) value = .ok written →
        ∃ bytes, written = some bytes ∧ bytes.length = width) ↔
      type ∈ ScalarType.formed ∨ (Text.Utf8.encode (toText value)).length = width) ∧
    (type ∉ ScalarType.formed →
      Wire.bind (.scalar type) value = .ok (some (Text.Utf8.encode (toText value)))) := by
  have bound : Wire.bind (.scalar type) value = (encodeScalar type value).map some := by
    rw [bind_scalar, encodeNullable, if_neg (by simp [present])]
  rw [bound]
  by_cases formed : type ∈ ScalarType.formed
  · refine ⟨⟨fun _ => .inl formed, fun _ written sent => ?_⟩, fun unformed => absurd formed unformed⟩
    cases result : encodeScalar type value with
    | error refusal => rw [result] at sent; cases sent
    | ok bytes =>
        rw [result] at sent
        exact ⟨bytes, (Except.ok.inj sent).symm, length_encodeScalar formed fixed result⟩
  · rw [encodeScalar_unformed formed]
    refine ⟨⟨fun kept => ?_, fun long written sent => ?_⟩, fun _ => rfl⟩
    · obtain ⟨bytes, same, long⟩ := kept _ rfl
      exact .inr (Option.some.inj same ▸ long)
    · obtain member | long := long
      · exact absurd member formed
      · exact ⟨_, (Except.ok.inj sent).symm, long⟩

/-- A leap day between blanks is sent to a column of dates as one word of four bytes. -/
theorem leapDay_kept_width :
    ScalarType.date.width? = some 4 ∧ (Value.text " 2024-02-29 ").isNull = false ∧
      ∀ written, Wire.bind (.scalar .date) (.text " 2024-02-29 ") = .ok written →
        ∃ bytes, written = some bytes ∧ bytes.length = 4 :=
  ⟨rfl, rfl, (fixed_widths_kept_iff rfl rfl).1.mpr (.inl (by decide))⟩

/-- An object number has four bytes; a false truth value is sent for one as a word of five, and a true
one as a word of four, which the server takes for a number. -/
theorem truth_sent_as_object_number :
    (ScalarType.other "oid" 26).width? = some 4 ∧
      (∃ bytes, Wire.bind (.scalar (.other "oid" 26)) (.bool false) = .ok (some bytes) ∧
        bytes.length = 5) ∧
      ∃ bytes, Wire.bind (.scalar (.other "oid" 26)) (.bool true) = .ok (some bytes) ∧
        bytes = [116, 114, 117, 101] :=
  ⟨rfl, ⟨_, rfl, rfl⟩, _, rfl, rfl⟩

end RelationQuery

/-!
# UTF-8

Text as bytes and back. A strict reading refuses bytes that are no text; a lenient one puts a
replacement character in place of every longest start of a sequence that is not finished.
-/

namespace RelationQuery.Text.Utf8

def encode (text : List Char) : List UInt8 := text.flatMap String.utf8EncodeChar

def decode? (bytes : List UInt8) : Option String := String.fromUTF8? ⟨bytes.toArray⟩

/-- The bytes that are a text are the bytes of that text. -/
theorem encode_of_decode? {bytes : List UInt8} {s : String}
    (read : decode? bytes = some s) : encode s.toList = bytes := by
  have content : s.toByteArray = ⟨bytes.toArray⟩ := by
    simp only [decode?, String.fromUTF8?] at read
    split at read
    · cases read
      rfl
    · contradiction
  have encoded := congrArg (fun array => array.data.toList)
    ((String.utf8Encode_toList (b := s)).trans content)
  simpa [List.utf8Encode, List.data_toByteArray, encode] using encoded

def replacement : Char := '\ufffd'

/-- A sequence that is not finished: how many bytes are missing, the bounds of the next of them, and
the bits read so far. -/
structure Pending where
  missing : Nat
  low : UInt8
  high : UInt8
  bits : Nat
  deriving DecidableEq, Repr

/-- What a first byte starts: a sequence of two, three or four bytes. -/
def start? (byte : UInt8) : Option Pending :=
  if byte < 0xC2 then none
  else if byte < 0xE0 then some ⟨1, 0x80, 0xBF, byte.toNat % 32⟩
  else if byte < 0xF0 then
    some ⟨2, if byte = 0xE0 then 0xA0 else 0x80, if byte = 0xED then 0x9F else 0xBF,
      byte.toNat % 16⟩
  else if byte < 0xF5 then
    some ⟨3, if byte = 0xF0 then 0x90 else 0x80, if byte = 0xF4 then 0x8F else 0xBF,
      byte.toNat % 8⟩
  else none

/-- Reads a byte that belongs to no sequence yet: what it writes, and what it starts. -/
def begin (byte : UInt8) : List Char × Option Pending :=
  if byte < 0x80 then ([Char.ofNat byte.toNat], none)
  else match start? byte with
    | some pending => ([], some pending)
    | none => ([replacement], none)

def Pending.next (pending : Pending) (byte : UInt8) : List Char × Option Pending :=
  if pending.low ≤ byte && byte ≤ pending.high then
    let bits := pending.bits * 64 + byte.toNat % 64
    if pending.missing ≤ 1 then ([Char.ofNat bits], none)
    else ([], some ⟨pending.missing - 1, 0x80, 0xBF, bits⟩)
  else
    let fresh := begin byte
    (replacement :: fresh.1, fresh.2)

def lenientFrom : Option Pending → List UInt8 → List Char
  | none, [] => []
  | some _, [] => [replacement]
  | none, byte :: rest => (begin byte).1 ++ lenientFrom (begin byte).2 rest
  | some pending, byte :: rest =>
      (pending.next byte).1 ++ lenientFrom (pending.next byte).2 rest

def lenient (bytes : List UInt8) : List Char := lenientFrom none bytes

end RelationQuery.Text.Utf8

import RelationQuery.Calendar.Timestamp
import RelationQuery.Text.Digits

/-!
# Words and moments as bytes

Integers in a given number of bytes, the most significant first, in two's complement. Moments travel
as microseconds, and dates as days, from the start of the year 2000.
-/

namespace RelationQuery.Wire

/-! ## Words -/

/-- A number in `count` bytes; what lies above them is lost. -/
def bigEndian : Nat → Nat → List UInt8
  | 0, _ => []
  | count + 1, n => UInt8.ofNat (n / 256 ^ count) :: bigEndian count n

def ofBigEndian : List UInt8 → Nat
  | [] => 0
  | byte :: rest => byte.toNat * 256 ^ rest.length + ofBigEndian rest

def signedBytes (count : Nat) (n : Int) : List UInt8 := bigEndian count (n % 256 ^ count).toNat

def ofSignedBytes (bytes : List UInt8) : Int :=
  (ofBigEndian bytes : Int).bmod (256 ^ bytes.length)

def exactly? (count : Nat) (bytes : List UInt8) : Option (List UInt8) :=
  if bytes.length = count then some bytes else none

def cutWord? (count : Nat) (bytes : List UInt8) : Option (Nat × List UInt8) :=
  if count ≤ bytes.length then some (ofBigEndian (bytes.take count), bytes.drop count) else none

def cutSigned? (count : Nat) (bytes : List UInt8) : Option (Int × List UInt8) :=
  if count ≤ bytes.length then some (ofSignedBytes (bytes.take count), bytes.drop count) else none

theorem length_bigEndian (count n : Nat) : (bigEndian count n).length = count := by
  induction count with
  | zero => rfl
  | succ count ih => simp [bigEndian, ih]

theorem length_signedBytes (count : Nat) (n : Int) : (signedBytes count n).length = count :=
  length_bigEndian _ _

/-- Bytes lose only what lies above them. -/
theorem ofBigEndian_bigEndian (count n : Nat) :
    ofBigEndian (bigEndian count n) = n % 256 ^ count := by
  induction count with
  | zero => simp [bigEndian, ofBigEndian, Nat.mod_one]
  | succ count ih =>
      have first : (UInt8.ofNat (n / 256 ^ count)).toNat = n / 256 ^ count % 256 := rfl
      have split :
          n % 256 ^ (count + 1) = n % 256 ^ count + 256 ^ count * (n / 256 ^ count % 256) :=
        Nat.mod_mul
      rw [bigEndian, ofBigEndian, length_bigEndian, ih, first, split, Nat.mul_comm, Nat.add_comm]

theorem ofBigEndian_lt (bytes : List UInt8) : ofBigEndian bytes < 256 ^ bytes.length := by
  induction bytes with
  | nil => decide
  | cons byte rest ih =>
      have small : byte.toNat + 1 ≤ 256 := byte.toNat_lt
      calc byte.toNat * 256 ^ rest.length + ofBigEndian rest
          < (byte.toNat + 1) * 256 ^ rest.length := by rw [Nat.succ_mul]; omega
        _ ≤ 256 * 256 ^ rest.length := Nat.mul_le_mul_right _ small
        _ = 256 ^ (byte :: rest).length := by rw [List.length_cons, Nat.pow_succ, Nat.mul_comm]

/-! ## The epoch of the server -/

def epochSeconds : Int := 946684800

def epochDay : Int := 10957

/-- The microseconds from the epoch of the server, cut off toward it. -/
def epochMicros (moment : Timestamp) : Int :=
  ((moment.seconds - epochSeconds) * nanosPerSecond + moment.nanos).tdiv 1000

def ofEpochMicros? (micros : Int) : Option Timestamp :=
  Timestamp.ofNanos? (epochSeconds * nanosPerSecond + micros * 1000)

def epochDays (date : Date) : Int := date.day - epochDay

def ofEpochDays? (days : Int) : Option Date := Date.ofDay? (epochDay + days)

/-- A moment at a number of microseconds from the epoch is that far from it. -/
theorem epochMicros_of_ofEpochMicros? {micros : Int} {moment : Timestamp}
    (read : ofEpochMicros? micros = some moment) : epochMicros moment = micros := by
  obtain ⟨seconds, nanos⟩ := Timestamp.parts_ofParts? read
  have whole : (moment.seconds - epochSeconds) * nanosPerSecond + moment.nanos = micros * 1000 := by
    rw [seconds, nanos]
    simp only [nanosPerSecond, epochSeconds]
    omega
  rw [epochMicros, whole, Int.mul_tdiv_cancel _ (by decide)]

/-- A day at a distance from the epoch is that far from it. -/
theorem epochDays_of_ofEpochDays? {days : Int} {date : Date}
    (read : ofEpochDays? days = some date) : epochDays date = days := by
  rw [epochDays, Date.day_ofDay? read]
  omega

end RelationQuery.Wire

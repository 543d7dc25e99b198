import Carrier.GoRuntime

/-! Numbers and fields of a protocol buffer: what is written, and that a reader who
expects a field gets back what was written and the bytes after it. -/
namespace Carrier.Protobuf

open GoRuntime

/-- Seven bits a byte, low ones first; the high bit says that more follow. The first
argument bounds the recursion. -/
def digits : Nat → Nat → Bytes
  | 0, n => [UInt8.ofNat n]
  | fuel + 1, n => if n < 128 then [UInt8.ofNat n] else UInt8.ofNat (n % 128 + 128) :: digits fuel (n / 128)

def encodeVarint (n : Nat) : Bytes := digits n n

def decodeVarint : Bytes → Option (Nat × Bytes)
  | [] => none
  | byte :: rest =>
      if byte.toNat < 128 then some (byte.toNat, rest)
      else (decodeVarint rest).map fun read => (byte.toNat - 128 + 128 * read.1, read.2)

theorem decodeVarint_digits (fuel n : Nat) (enough : n ≤ fuel) (rest : Bytes) :
    decodeVarint (digits fuel n ++ rest) = some (n, rest) := by
  induction fuel generalizing n with
  | zero => simp [digits, decodeVarint, Nat.le_zero.mp enough]
  | succ fuel ih =>
      rw [digits]
      by_cases small : n < 128
      · have byte : (UInt8.ofNat n).toNat = n := by rw [UInt8.toNat_ofNat']; omega
        simp [small, decodeVarint, byte]
      · have byte : (UInt8.ofNat (n % 128 + 128)).toNat = n % 128 + 128 := by rw [UInt8.toNat_ofNat']; omega
        rw [if_neg small, List.cons_append, decodeVarint, byte, if_neg (by omega), ih (n / 128) (by omega)]
        have joined : n % 128 + 128 - 128 + 128 * (n / 128) = n := by omega
        rw [Option.map_some, joined]

theorem decodeVarint_encode (n : Nat) (rest : Bytes) : decodeVarint (encodeVarint n ++ rest) = some (n, rest) :=
  decodeVarint_digits n n (Nat.le_refl n) rest

/-- A field with a number, and one with a length; default values are not written. -/
def numberField (tag : UInt8) (n : Nat) : Bytes := if n = 0 then [] else tag :: encodeVarint n

def bytesField (tag : UInt8) (bytes : Bytes) : Bytes :=
  if bytes = [] then [] else tag :: (encodeVarint bytes.length ++ bytes)

/-- The field with the tag, if it comes next. -/
def readNumber (tag : UInt8) : Bytes → Option (Nat × Bytes)
  | [] => some (0, [])
  | next :: rest => if next = tag then decodeVarint rest else some (0, next :: rest)

def readBytes (tag : UInt8) : Bytes → Option (Bytes × Bytes)
  | [] => some ([], [])
  | next :: rest =>
      if next = tag then
        match decodeVarint rest with
        | none => none
        | some (length, rest) => if length ≤ rest.length then some (rest.take length, rest.drop length) else none
      else some ([], next :: rest)

theorem readNumber_field {tag : UInt8} {rest : Bytes} (apart : rest.head? ≠ some tag) (n : Nat) :
    readNumber tag (numberField tag n ++ rest) = some (n, rest) := by
  by_cases zero : n = 0
  · cases rest with
    | nil => simp [numberField, zero, readNumber]
    | cons next rest =>
        have other : next ≠ tag := by simpa using apart
        simp [numberField, zero, readNumber, other]
  · simp [numberField, zero, readNumber, decodeVarint_encode]

theorem readBytes_field {tag : UInt8} {rest : Bytes} (apart : rest.head? ≠ some tag) (bytes : Bytes) :
    readBytes tag (bytesField tag bytes ++ rest) = some (bytes, rest) := by
  by_cases empty : bytes = []
  · cases rest with
    | nil => simp [bytesField, empty, readBytes]
    | cons next rest =>
        have other : next ≠ tag := by simpa using apart
        simp [bytesField, empty, readBytes, other]
  · simp [bytesField, empty, readBytes, List.append_assoc, decodeVarint_encode]

end Carrier.Protobuf

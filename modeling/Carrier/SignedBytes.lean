import Carrier.AcceptLoops

/-! What is signed: `SerializeMessage` of `network/utils.go` packs the address and the
hash of the sender, each after its length, and the message into one buffer. The buffer is
made in advance and filled from the front, and a last test compares the position with its
length. A Go string is taken as its bytes here. -/
namespace Carrier.SignedBytes

open GoRuntime BigEndian
open AcceptLoops (putLittleEndian)

structure Packing where
  serialized : Bytes
  pos : Nat
  deriving DecidableEq, Repr

namespace Packing

/-- `copy(serialized[pos:], bytes)`, which takes what fits, and `pos += len(bytes)`. -/
def copy (packing : Packing) (bytes : Bytes) : Outcome Packing :=
  if packing.pos ≤ packing.serialized.length then
    .done
      { serialized := packing.serialized.take packing.pos ++
          bytes.take (packing.serialized.length - packing.pos) ++
          packing.serialized.drop (packing.pos + bytes.length)
        pos := packing.pos + bytes.length }
  else .panic

/-- `binary.LittleEndian.PutUint32(serialized[pos:], uint32(n))`, which needs four bytes. -/
def putUint32 (packing : Packing) (n : Nat) : Outcome Packing :=
  if packing.pos + 4 ≤ packing.serialized.length then packing.copy (putLittleEndian n) else .panic

end Packing

def serializeMessage (address id message : Bytes) : Outcome Bytes :=
  ((Packing.mk (List.replicate (4 + address.length + 4 + id.length + message.length) 0) 0).putUint32
      address.length).bind fun packing =>
    (packing.copy address).bind fun packing =>
    (packing.putUint32 id.length).bind fun packing =>
    (packing.copy id).bind fun packing =>
    (packing.copy message).bind fun packing =>
    if packing.pos ≠ packing.serialized.length then .panic else .done packing.serialized

/-! The buffer is filled from the front. -/

theorem putLittleEndian_length (n : Nat) : (putLittleEndian n).length = 4 := by
  rw [putLittleEndian, List.length_reverse, put_length]

theorem putLittleEndian_injective {left right : Nat} (low : left < 2 ^ 32) (high : right < 2 ^ 32)
    (same : putLittleEndian left = putLittleEndian right) : left = right := by
  have bytes : put 4 left = put 4 right := List.reverse_injective same
  have values := congrArg value bytes
  rwa [value_put_of_lt 4 left low, value_put_of_lt 4 right high] at values

/-- `written` stands in front, and room for `left` bytes is behind it. -/
def Packing.filled (written : Bytes) (left : Nat) : Packing := ⟨written ++ List.replicate left 0, written.length⟩

theorem copy_filled (written bytes : Bytes) (left : Nat) :
    (Packing.filled written (bytes.length + left)).copy bytes = .done (.filled (written ++ bytes) left) := by
  have inside : written.length ≤ (written ++ List.replicate (bytes.length + left) (0 : UInt8)).length := by simp
  rw [Packing.filled, Packing.copy, if_pos inside]
  have whole : bytes.take (bytes.length + left) = bytes := List.take_of_length_le (by omega)
  have behind : written.drop (written.length + bytes.length) = [] := List.drop_eq_nil_of_le (by omega)
  simp [Packing.filled, List.drop_append, whole, behind]

theorem putUint32_filled (written : Bytes) (n left : Nat) :
    (Packing.filled written (4 + left)).putUint32 n = .done (.filled (written ++ putLittleEndian n) left) := by
  have inside : (Packing.filled written (4 + left)).pos + 4 ≤ (Packing.filled written (4 + left)).serialized.length := by
    simp only [Packing.filled, List.length_append, List.length_replicate]
    omega
  have copied := copy_filled written (putLittleEndian n) left
  rw [putLittleEndian_length] at copied
  rw [Packing.putUint32, if_pos inside, copied]

/-- The last test never fails. -/
theorem serializeMessage_eq (address id message : Bytes) :
    serializeMessage address id message = .done (putLittleEndian address.length ++ address ++
      putLittleEndian id.length ++ id ++ message) := by
  have start : Packing.mk (List.replicate (4 + address.length + 4 + id.length + message.length) 0) 0 =
      .filled [] (4 + (address.length + (4 + (id.length + (message.length + 0))))) := by
    simp [Packing.filled, Nat.add_assoc]
  rw [serializeMessage, start, putUint32_filled, Outcome.done_bind, copy_filled, Outcome.done_bind, putUint32_filled,
    Outcome.done_bind, copy_filled, Outcome.done_bind, copy_filled, Outcome.done_bind]
  simp [Packing.filled]

theorem prefixed_unique {left right leftRest rightRest : Bytes} (low : left.length < 2 ^ 32)
    (high : right.length < 2 ^ 32)
    (same : putLittleEndian left.length ++ left ++ leftRest = putLittleEndian right.length ++ right ++ rightRest) :
    left = right ∧ leftRest = rightRest := by
  rw [List.append_assoc, List.append_assoc] at same
  obtain ⟨lengths, bodies⟩ := List.append_inj same (by rw [putLittleEndian_length, putLittleEndian_length])
  exact List.append_inj bodies (putLittleEndian_injective low high lengths)

/-- The signed bytes determine the address, the hash and the message. They are what the
receive loops verify. -/
theorem serializeMessage_injective {address id message otherAddress otherID otherMessage : Bytes}
    (shortAddress : address.length < 2 ^ 32) (shortID : id.length < 2 ^ 32)
    (shortOther : otherAddress.length < 2 ^ 32) (shortOtherID : otherID.length < 2 ^ 32) :
    (∃ packed other, serializeMessage address id message = .done packed ∧
      serializeMessage otherAddress otherID otherMessage = .done other ∧
      (packed = other → address = otherAddress ∧ id = otherID ∧ message = otherMessage)) ∧
    ∀ (sender : Identity.ID) (message : Bytes),
      serializeMessage sender.address.toUTF8.toList sender.id message =
        .done (AcceptLoops.serializeMessage sender message) := by
  refine ⟨⟨_, _, serializeMessage_eq _ _ _, serializeMessage_eq _ _ _, fun same => ?_⟩, fun sender message => ?_⟩
  · simp only [List.append_assoc] at same
    rw [← List.append_assoc (putLittleEndian address.length), ← List.append_assoc (putLittleEndian otherAddress.length)]
      at same
    obtain ⟨addresses, rests⟩ := prefixed_unique shortAddress shortOther same
    rw [← List.append_assoc (putLittleEndian id.length), ← List.append_assoc (putLittleEndian otherID.length)] at rests
    obtain ⟨ids, messages⟩ := prefixed_unique shortID shortOtherID rests
    exact ⟨addresses, ids, messages⟩
  · rw [serializeMessage_eq, AcceptLoops.serializeMessage]

/-- The same bytes cut differently into hash and message are signed differently. -/
theorem serializeMessage_injective_shifted :
    (∃ packed other, serializeMessage [97] [1, 2] [3] = .done packed ∧ serializeMessage [97] [1] [2, 3] = .done other ∧
      packed ≠ other) := by
  obtain ⟨packed, other, first, second, injective⟩ := (@serializeMessage_injective [97] [1, 2] [3] [97] [1]
    [2, 3] (by decide) (by decide) (by decide) (by decide)).1
  exact ⟨packed, other, first, second, fun same => by simpa using (injective same).2.1⟩

end Carrier.SignedBytes

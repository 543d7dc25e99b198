import Carrier.Framing

/-! Datagrams: `network/package.go`. A packet is a 16-bit length and the encoded
message. The receiver reads into a zeroed buffer of the largest packet size and
trusts the length field; the end of its slice is computed in 16 bits. -/
namespace Carrier.Datagram

open GoRuntime BigEndian Compression Identity Framing

def maxPackageSize : Nat := 1024 * 64
def storePackageRealSize : Nat := 2

def keepaliveResponseCode : UInt32 := 3
def proxyResponseCode : UInt32 := 9

section Network

variable (wire : Wire)

def buildRawContent (message : Message) : Option Bytes :=
  match wire.marshal message with
  | none => none
  | some bytes =>
      let buffer := put storePackageRealSize bytes.length ++ bytes
      if buffer.length > maxPackageSize then none else some buffer

/-- The buffer after `ReadFromUDP`: what does not fit is lost, the rest stays zero. -/
def buffered (content : Bytes) : Bytes :=
  content.take maxPackageSize ++ List.replicate (maxPackageSize - content.length) 0

def sizeField (content : Bytes) : UInt16 := UInt16.ofNat (value ((buffered content).take 2))

/-- The argument of `proto.Unmarshal`. The sum `2+size` is a `uint16`. -/
def payload (content : Bytes) : Outcome Bytes :=
  slice (buffered content) 2 (2 + sizeField content).toNat

def exempt (msg : Message) : Bool :=
  msg.opcode == proxyResponseCode || msg.opcode == keepaliveResponseCode

/-- `receiveUDPMessage`. Without a packet it returns two nils. The error of the
read itself is overwritten before it is looked at. -/
def receiveUDPMessage (netID : UInt32) (packet : Option Bytes) :
    Outcome (Except ReceiveError (Option Message)) :=
  match packet with
  | none => .done (.ok none)
  | some content => (payload content).map fun bytes =>
      match wire.unmarshal bytes with
      | none => .error .unmarshal
      | some msg =>
          if exempt msg then .ok (some msg)
          else if headerOk netID msg then .ok (some msg) else .error .invalidHeader

end Network

/-! The slice. -/

theorem buffered_length (content : Bytes) (fits : content.length ≤ maxPackageSize) :
    (buffered content).length = maxPackageSize := by
  simp only [buffered, List.length_append, List.length_take, List.length_replicate]
  omega

/-- The 16-bit end of the slice is the true one up to a size of 65533 and wraps to
zero or one above it. -/
theorem end_toNat (size : UInt16) :
    (2 + size).toNat = if size.toNat ≤ 65533 then 2 + size.toNat else size.toNat - 65534 := by
  have bound := size.toNat_lt
  have sum : (2 + size).toNat = (2 + size.toNat) % 65536 := by simp [UInt16.toNat_add]
  split <;> omega

theorem payload_eq (content : Bytes) (fits : content.length ≤ maxPackageSize) :
    payload content =
      if (sizeField content).toNat ≤ 65533 then
        .done (((buffered content).drop 2).take (sizeField content).toNat)
      else .panic := by
  have length := buffered_length content fits
  have bound := (sizeField content).toNat_lt
  unfold payload slice
  rw [length, end_toNat, maxPackageSize]
  by_cases small : (sizeField content).toNat ≤ 65533
  · have inRange : 2 ≤ 2 + (sizeField content).toNat ∧ 2 + (sizeField content).toNat ≤ 1024 * 64 := by omega
    simp only [small, if_true, inRange, and_self, List.drop_take, Nat.add_sub_cancel_left]
  · have wrapped : ¬ (2 ≤ (sizeField content).toNat - 65534 ∧
        (sizeField content).toNat - 65534 ≤ 1024 * 64) := by omega
    simp only [small, if_false, wrapped]

theorem payload_length {content bytes : Bytes} (fits : content.length ≤ maxPackageSize)
    (read : payload content = .done bytes) : bytes.length = (sizeField content).toNat := by
  rw [payload_eq content fits] at read
  split at read
  · rename_i small
    simp only [Outcome.done.injEq] at read
    rw [← read, List.length_take, List.length_drop, buffered_length content fits, maxPackageSize]
    omega
  · simp at read

theorem sizeField_built (bytes : Bytes) (short : bytes.length < 2 ^ 16) :
    (sizeField (put 2 bytes.length ++ bytes)).toNat = bytes.length := by
  have front : (buffered (put 2 bytes.length ++ bytes)).take 2 = put 2 bytes.length := by
    rw [buffered, List.take_append_of_le_length (by simp [maxPackageSize]), List.take_take]
    exact List.take_left' (put_length 2 _)
  have field : value (put 2 bytes.length) = bytes.length := value_put_of_lt 2 _ short
  rw [sizeField, front, field]
  exact UInt16.toNat_ofNat_of_lt' short

theorem buildRawContent_eq {wire : Wire} {message : Message} {bytes buffer : Bytes}
    (marshalled : wire.marshal message = some bytes)
    (built : buildRawContent wire message = some buffer) :
    buffer = put 2 bytes.length ++ bytes ∧ bytes.length ≤ 65534 := by
  unfold buildRawContent at built
  rw [marshalled] at built
  dsimp only at built
  split at built
  · simp at built
  · rename_i fits
    simp only [List.length_append, put_length, storePackageRealSize, maxPackageSize] at fits
    simp only [Option.some.injEq] at built
    exact ⟨built.symm, by omega⟩

section Exactness

variable (wire : Wire) (netID : UInt32)

/-- The header test in the words of its error. -/
def WellFormed (netID : UInt32) (msg : Message) : Prop :=
  msg.opcode ≠ 0 ∧ msg.netID = netID ∧
    ∃ sender, msg.sender = some sender ∧ sender.netKey ≠ none ∧ sender.address ≠ ""

theorem headerOk_iff (msg : Message) : headerOk netID msg = true ↔ WellFormed netID msg := by
  unfold headerOk WellFormed
  cases msg.sender with
  | none => simp
  | some sender =>
      simp only [Bool.and_eq_true, bne_iff_ne, Option.isSome_iff_ne_none, beq_iff_eq,
        Option.some.injEq, exists_eq_left']
      tauto

def Rejected (bytes : Bytes) : Prop :=
  ∀ msg, wire.unmarshal bytes = some msg → exempt msg = false ∧ headerOk netID msg = false

theorem receiveUDPMessage_error_iff (content : Bytes) :
    (∃ error, receiveUDPMessage wire netID (some content) = .done (.error error)) ↔
      ∃ bytes, payload content = .done bytes ∧ Rejected wire netID bytes := by
  cases read : payload content with
  | panic => simp [receiveUDPMessage, read]
  | done bytes =>
      simp only [receiveUDPMessage, read, Outcome.done_map, Outcome.done.injEq, exists_eq_left', Rejected]
      cases wire.unmarshal bytes with
      | none => simp
      | some msg =>
          simp only [Option.some.injEq, forall_eq']
          cases exempt msg <;> cases headerOk netID msg <;> simp

/-- The length field neither wraps the end of the slice nor, unless the padded
bytes are rejected anyway, points past what was received. -/
def Truthful (content : Bytes) : Prop :=
  (sizeField content).toNat ≤ 65533 ∧
    (2 + (sizeField content).toNat ≤ content.length ∨
      Rejected wire netID (((buffered content).drop 2).take (sizeField content).toNat))

/-- For every packet, the slice lies within the bytes received or an error comes
back exactly when the length field is truthful. For every message that is sent at
all, its own bytes are read back exactly up to an encoding of 65533 bytes. -/
theorem datagram_exact :
    (∀ content : Bytes, content.length ≤ maxPackageSize →
      ((∃ bytes, payload content = .done bytes ∧ 2 + bytes.length ≤ content.length) ∨
        (∃ error, receiveUDPMessage wire netID (some content) = .done (.error error)) ↔
      Truthful wire netID content)) ∧
    (∀ message bytes buffer, wire.marshal message = some bytes →
      buildRawContent wire message = some buffer →
      (payload buffer = .done bytes ↔ bytes.length ≤ 65533)) := by
  constructor
  · intro content fits
    rw [receiveUDPMessage_error_iff, Truthful]
    by_cases small : (sizeField content).toNat ≤ 65533
    · have read := payload_eq content fits
      rw [if_pos small] at read
      have length := payload_length fits read
      simp only [read, Outcome.done.injEq, exists_eq_left', length, small, true_and]
    · have wrapped := payload_eq content fits
      rw [if_neg small] at wrapped
      simp [wrapped, small]
  · intro message bytes buffer marshalled built
    obtain ⟨rfl, bound⟩ := buildRawContent_eq marshalled built
    have fits : (put 2 bytes.length ++ bytes).length ≤ maxPackageSize := by
      simp only [List.length_append, put_length, maxPackageSize]; omega
    rw [payload_eq _ fits, sizeField_built bytes (by omega)]
    by_cases small : bytes.length ≤ 65533
    · have whole : ((buffered (put 2 bytes.length ++ bytes)).drop 2).take bytes.length = bytes := by
        rw [buffered, List.take_of_length_le fits, List.append_assoc, List.drop_left' (put_length 2 _),
          List.take_left]
      simp [small, whole]
    · simp [small]

theorem receiveUDPMessage_some_iff (packet : Option Bytes) (msg : Message) :
    receiveUDPMessage wire netID packet = .done (.ok (some msg)) ↔
      ∃ content bytes, packet = some content ∧ payload content = .done bytes ∧
        wire.unmarshal bytes = some msg ∧ (exempt msg = true ∨ headerOk netID msg = true) := by
  cases packet with
  | none => simp [receiveUDPMessage]
  | some content =>
      simp only [Option.some.injEq, exists_and_left, exists_eq_left', receiveUDPMessage]
      cases payload content with
      | panic => simp
      | done bytes =>
          simp only [Outcome.done_map, Outcome.done.injEq, exists_eq_left']
          cases wire.unmarshal bytes with
          | none => simp
          | some read =>
              simp only [Option.some.injEq]
              by_cases same : read = msg
              · subst same
                cases exempt read <;> cases headerOk netID read <;> simp
              · cases exempt read <;> cases headerOk netID read <;> simp [same]

/-- Every message a stream receiver returns passes the header test. Every message
the datagram receiver returns passes it exactly when the packet is not an
ill-formed proxy or keepalive response. -/
theorem received_wellFormed (codecs : Codecs) :
    (∀ transport settings source msg next,
      receive wire codecs transport settings source = .done (.ok msg, next) →
      WellFormed settings.netID msg) ∧
    (∀ packet,
      (∀ msg, receiveUDPMessage wire netID packet = .done (.ok (some msg)) → WellFormed netID msg) ↔
      ∀ content bytes msg, packet = some content → payload content = .done bytes →
        wire.unmarshal bytes = some msg → exempt msg = true → WellFormed netID msg) := by
  constructor
  · intro transport settings source msg next received
    exact (headerOk_iff settings.netID msg).mp (receive_headerOk wire codecs received)
  · intro packet
    constructor
    · intro safe content bytes msg arrived read decoded skips
      exact safe msg ((receiveUDPMessage_some_iff wire netID packet msg).mpr
        ⟨content, bytes, arrived, read, decoded, Or.inl skips⟩)
    · intro honest msg received
      obtain ⟨content, bytes, arrived, read, decoded, passed⟩ :=
        (receiveUDPMessage_some_iff wire netID packet msg).mp received
      rcases passed with skips | ok
      · exact honest content bytes msg arrived read decoded skips
      · exact (headerOk_iff netID msg).mp ok

end Exactness

/-! A keepalive response with nothing but its opcode, and a length field that
wraps. -/

def bareResponse : Message :=
  { message := [], sender := none, signature := none, requestNonce := 0, messageNonce := 0,
    replyFlag := false, opcode := keepaliveResponseCode, netID := 0, messageID := "", needAck := false }

def bareWire : Wire where
  marshal message := some (marshalMessage message)
  unmarshal bytes := if bytes = [0x38, 0x03] then some bareResponse else none

theorem receiveUDPMessage_without_sender :
    receiveUDPMessage bareWire 7 (some [0x00, 0x02, 0x38, 0x03]) = .done (.ok (some bareResponse)) ∧
    bareResponse.sender = none ∧ bareResponse.netID ≠ 7 ∧ ¬ WellFormed 7 bareResponse := by
  have read : payload [0x00, 0x02, 0x38, 0x03] = .done [0x38, 0x03] := by
    rw [payload_eq _ (by decide)]
    decide
  refine ⟨?_, rfl, by decide, fun ok => ?_⟩
  · exact (receiveUDPMessage_some_iff bareWire 7 _ bareResponse).mpr
      ⟨[0x00, 0x02, 0x38, 0x03], [0x38, 0x03], rfl, read, by decide, Or.inl (by decide)⟩
  · obtain ⟨_, _, sender, found, _⟩ := ok
    simp [bareResponse] at found

theorem receiveUDPMessage_wraps :
    receiveUDPMessage bareWire 7 (some [0xff, 0xfe]) = .panic ∧
    payload [0x00, 0x02] = .done [0x00, 0x00] := by
  have wrapped : payload [0xff, 0xfe] = .panic := by decide
  refine ⟨by simp [receiveUDPMessage, wrapped], ?_⟩
  rw [payload_eq _ (by decide)]
  decide

end Carrier.Datagram

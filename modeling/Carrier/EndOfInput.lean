import Carrier.Framing
import Carrier.PacketReader

/-! The last frame of a connection. The receivers of `network/stream.go` and
`network/session.go` over any reader: the same text as for the sources that always make
progress, with another way of filling the buffers. A frame arrives in packets, and the end
of the input is reported with its last bytes or after them. -/
namespace Carrier.EndOfInput

open GoRuntime BigEndian ByteReader Compression Framing PacketReader

section Receivers

variable {σ : Type}

def receiveFrameFrom (take : σ → Nat → Option Bytes × σ) (netID : UInt32) (source : σ) :
    Except ReceiveError (UInt16 × Bytes) × σ :=
  match take source 4 with
  | (none, next) => (.error .networkIDBytes, next)
  | (some idBytes, next) =>
      if value idBytes ≠ netID.toNat then (.error (.wrongNetworkID (value idBytes) netID.toNat), next)
      else match take next 2 with
        | (none, next) => (.error .infoBytes, next)
        | (some infoBytes, next) =>
            match take next 4 with
            | (none, next) => (.error .sizeBytes, next)
            | (some sizeBytes, next) =>
                if value sizeBytes = 0 then (.error .emptyMsg, next)
                else match take next (value sizeBytes) with
                  | (none, next) => (.error (.bodyBytes (value sizeBytes)), next)
                  | (some body, next) => (.ok (UInt16.ofNat (value infoBytes), body), next)

variable (wire : Wire) (codecs : Codecs) (reader : Reader σ) (settings : Settings)

def receiveFrom (take : σ → Nat → Option Bytes × σ) (source : σ) : Outcome (Except ReceiveError Message × σ) :=
  match receiveFrameFrom take settings.netID source with
  | (.error error, next) => .done (.error error, next)
  | (.ok (info, body), next) => (decode wire codecs settings.netID info body).map (·, next)

def receiveMessageFrom (source : σ) : Outcome (Except ReceiveError Message × σ) :=
  receiveFrom wire codecs settings reader.readLoop source

def receiveQuicMessageFrom (source : σ) : Outcome (Except ReceiveError Message × σ) :=
  receiveFrom wire codecs settings reader.readFull source

end Receivers

section Sources

variable (wire : Wire) (codecs : Codecs) (settings : Settings) (source : Source)

theorem receiveFrameFrom_source (transport : Transport) (netID : UInt32) :
    receiveFrameFrom transport.take netID source = receiveFrame transport netID source := by
  simp only [receiveFrameFrom, receiveFrame]
  rcases transport.take source 4 with ⟨_ | idBytes, afterID⟩
  · rfl
  dsimp only
  rcases transport.take afterID 2 with ⟨_ | infoBytes, afterInfo⟩
  · rfl
  dsimp only
  rcases transport.take afterInfo 4 with ⟨_ | sizeBytes, afterSize⟩
  · rfl
  dsimp only
  rcases transport.take afterSize (value sizeBytes) with ⟨_ | body, afterBody⟩
  · rfl
  rfl

theorem receiveFrom_source (transport : Transport) :
    receiveFrom wire codecs settings transport.take source = receive wire codecs transport settings source := by
  simp only [receiveFrom, receive, receiveFrameFrom_source]
  rcases receiveFrame transport settings.netID source with ⟨error | frame, next⟩
  · rfl
  · rfl

theorem receiveMessageFrom_source :
    receiveMessageFrom wire codecs sources settings source = receiveMessage wire codecs settings source := by
  have take : sources.readLoop = Transport.stream.take := by
    funext source want
    exact sources_readLoop source want
  rw [receiveMessageFrom, take]
  exact receiveFrom_source ..

theorem receiveQuicMessageFrom_source :
    receiveQuicMessageFrom wire codecs sources settings source = receiveQuicMessage wire codecs settings source := by
  have take : sources.readFull = Transport.quic.take := by
    funext source want
    exact sources_readFull source want
  rw [receiveQuicMessageFrom, take]
  exact receiveFrom_source ..

end Sources

/-! A frame in packets. -/

def framed (info : UInt16) (size : Nat) : Option Bytes → Except ReceiveError (UInt16 × Bytes)
  | none => .error (.bodyBytes size)
  | some bytes => .ok (info, bytes)

theorem receiveFrameFrom_header {σ : Type} {take : σ → Nat → Option Bytes × σ} {netID : UInt32} {info : UInt16}
    {body : Bytes} {source afterID afterInfo afterSize last : σ} {taken : Option Bytes} (nonempty : body ≠ [])
    (bound : body.length < 2 ^ 32) (id : take source 4 = (some (put 4 netID.toNat), afterID))
    (infoRead : take afterID 2 = (some (put 2 info.toNat), afterInfo))
    (size : take afterInfo 4 = (some (put 4 body.length), afterSize))
    (read : take afterSize body.length = (taken, last)) :
    receiveFrameFrom take netID source = (framed info body.length taken, last) := by
  have sameID : value (put 4 netID.toNat) = netID.toNat := value_put_of_lt 4 _ netID.toNat_lt
  have sameInfo : value (put 2 info.toNat) = info.toNat := value_put_of_lt 2 _ info.toNat_lt
  have sameSize : value (put 4 body.length) = body.length := value_put_of_lt 4 _ bound
  simp only [receiveFrameFrom, id, infoRead, size, sameID, sameInfo, sameSize, read, ne_eq, not_true_eq_false,
    if_false, List.length_eq_zero_iff, nonempty]
  cases taken with
  | none => rfl
  | some bytes => simp [framed]

def TakesHead (take : Delivery → Nat → Option Bytes × Delivery) : Prop :=
  ∀ delivery head rest, delivery.bytes = head ++ rest → head.length ≠ 0 → rest ≠ [] →
    ∃ next, take delivery head.length = (some head, next) ∧ next.bytes = rest ∧ next.eager = delivery.eager

theorem readLoop_takesHead : TakesHead deliveries.readLoop := by
  intro delivery head rest split nonempty more
  obtain ⟨next, read, kept⟩ := readLoop_head split nonempty
  exact ⟨next, by simpa [more] using read, kept⟩

theorem readFull_takesHead : TakesHead deliveries.readFull :=
  fun _ _ _ split _ _ => readFull_head split

section Frame

variable {netID : UInt32} {info : UInt16} {body : Bytes} {delivery : Delivery} (nonempty : body ≠ [])
  (bound : body.length < 2 ^ 32) (whole : delivery.bytes = frame netID info body)
include nonempty bound whole

theorem TakesHead.frame {take : Delivery → Nat → Option Bytes × Delivery} (takes : TakesHead take) :
    ∃ afterSize, afterSize.bytes = body ∧ afterSize.eager = delivery.eager ∧
      ∀ taken last, take afterSize body.length = (taken, last) →
        receiveFrameFrom take netID delivery = (framed info body.length taken, last) := by
  have split : delivery.bytes = put 4 netID.toNat ++ (put 2 info.toNat ++ (put 4 body.length ++ body)) := by
    rw [whole, Framing.frame, List.append_assoc, List.append_assoc]
  obtain ⟨afterID, id, idRest, idEager⟩ := takes _ _ _ split (by simp) (by simp [nonempty])
  obtain ⟨afterInfo, infoRead, infoRest, infoEager⟩ := takes _ _ _ idRest (by simp) (by simp [nonempty])
  obtain ⟨afterSize, size, sizeRest, sizeEager⟩ := takes _ _ _ infoRest (by simp) nonempty
  rw [put_length] at id infoRead size
  refine ⟨afterSize, sizeRest, sizeEager.trans (infoEager.trans idEager), fun taken last read => ?_⟩
  exact receiveFrameFrom_header nonempty bound id infoRead size read

theorem receiveFrameFrom_readLoop : ∃ last, receiveFrameFrom deliveries.readLoop netID delivery =
    (if delivery.eager then .error (.bodyBytes body.length) else .ok (info, body), last) := by
  obtain ⟨afterSize, rest, eager, frame⟩ := readLoop_takesHead.frame nonempty bound whole
  have length : body.length ≠ 0 := fun empty => nonempty (List.length_eq_zero_iff.mp empty)
  obtain ⟨last, read, _⟩ := readLoop_head (rest.trans (List.append_nil body).symm) length
  refine ⟨last, ?_⟩
  rw [frame _ _ read, eager]
  cases delivery.eager <;> rfl

theorem receiveFrameFrom_readFull : ∃ last,
    receiveFrameFrom deliveries.readFull netID delivery = (.ok (info, body), last) := by
  obtain ⟨afterSize, rest, _, frame⟩ := readFull_takesHead.frame nonempty bound whole
  obtain ⟨last, read, _⟩ := readFull_head (rest.trans (List.append_nil body).symm)
  exact ⟨last, frame _ _ read⟩

end Frame

section Message

variable (wire : Wire) (codecs : Codecs) {settings : Settings} {info : UInt16} {body : Bytes} {msg : Message}
  {delivery : Delivery}

theorem receiveQuicMessage_returns (nonempty : body ≠ []) (bound : body.length < 2 ^ 32)
    (decoded : decode wire codecs settings.netID info body = .done (.ok msg))
    (whole : delivery.bytes = frame settings.netID info body) :
    ∃ last, receiveQuicMessageFrom wire codecs deliveries settings delivery = .done (.ok msg, last) := by
  obtain ⟨last, received⟩ := receiveFrameFrom_readFull nonempty bound whole
  exact ⟨last, by simp [receiveQuicMessageFrom, receiveFrom, received, decoded]⟩

/-- `receiveMessage` returns the message of the last frame exactly if the end of the input
is not reported beside its last bytes. -/
theorem receiveMessage_returns_iff (nonempty : body ≠ []) (bound : body.length < 2 ^ 32)
    (decoded : decode wire codecs settings.netID info body = .done (.ok msg))
    (whole : delivery.bytes = frame settings.netID info body) :
    (∃ last, receiveMessageFrom wire codecs deliveries settings delivery = .done (.ok msg, last)) ↔
      delivery.eager = false := by
  obtain ⟨last, received⟩ := receiveFrameFrom_readLoop nonempty bound whole
  cases eager : delivery.eager with
  | true =>
      have failed : receiveMessageFrom wire codecs deliveries settings delivery =
          .done (.error (.bodyBytes body.length), last) := by
        simp [receiveMessageFrom, receiveFrom, received, eager]
      simp [failed]
  | false =>
      have returned : receiveMessageFrom wire codecs deliveries settings delivery = .done (.ok msg, last) := by
        simp [receiveMessageFrom, receiveFrom, received, eager, decoded]
      simp [returned]

end Message

def pingFrame : Bytes := frame 7 0 pingBytes

/-- The frame comes in two packets with an empty one between them, and the end after it. -/
theorem receiveMessage_returns_iff_packets :
    decode pingWire pingCodecs plainSettings.netID 0 pingBytes = .done (.ok pingMessage) ∧
    ∃ last, receiveMessageFrom pingWire pingCodecs deliveries plainSettings
      ⟨[pingFrame.take 3, [], pingFrame.drop 3], false⟩ = .done (.ok pingMessage, last) := by
  have decoded : decode pingWire pingCodecs plainSettings.netID 0 pingBytes = .done (.ok pingMessage) := by
    decide
  have returns := receiveMessage_returns_iff pingWire pingCodecs (by decide) (by decide) decoded
    (show Delivery.bytes ⟨[pingFrame.take 3, [], pingFrame.drop 3], false⟩ = _ from rfl)
  exact ⟨decoded, returns.mpr rfl⟩

/-- The whole frame with the end beside its last bytes: `receiveMessage` gives up a body
that it has read in full, over packets and over a source alike, and `receiveQuicMessage`
does not. -/
theorem receiveMessage_drops_last :
    decode pingWire pingCodecs plainSettings.netID 0 pingBytes = .done (.ok pingMessage) ∧
    receiveMessageFrom pingWire pingCodecs deliveries plainSettings ⟨[pingFrame], true⟩ =
      .done (.error (.bodyBytes 32), ⟨[], true⟩) ∧
    receiveMessage pingWire pingCodecs plainSettings
      ⟨pingFrame, [⟨4, false⟩, ⟨2, false⟩, ⟨4, false⟩, ⟨32, true⟩]⟩ = .done (.error (.bodyBytes 32), ⟨[], []⟩) ∧
    receiveQuicMessageFrom pingWire pingCodecs deliveries plainSettings ⟨[pingFrame], true⟩ =
      .done (.ok pingMessage, ⟨[], true⟩) := by
  decide

end Carrier.EndOfInput

import Carrier.BigEndian
import Carrier.ByteReader
import Carrier.Compression
import Carrier.Identity
import Carrier.Protobuf

/-! Frames on a byte stream: `network/stream.go` for TCP and KCP and the receiving
side of `network/session.go` for QUIC. A frame is the network ID, the compression
info and the body length in ten bytes, followed by the body. Protocol buffers are
given by what `Marshal` and `Unmarshal` return. Deadlines, statistics and logging
are left out. -/
namespace Carrier.Framing

open GoRuntime BigEndian ByteReader Compression Identity Protobuf

structure Message where
  message : Bytes
  sender : Option ID
  signature : Option Bytes
  requestNonce : UInt64
  messageNonce : UInt64
  replyFlag : Bool
  opcode : UInt32
  netID : UInt32
  messageID : String
  needAck : Bool
  deriving DecidableEq, Repr

structure Wire where
  marshal : Message → Option Bytes
  unmarshal : Bytes → Option Message

/-! Sending. -/

inductive SendError where
  | marshal
  | compress (algo : AlgoType)
  | closed
  | write (written total : Nat)
  deriving DecidableEq, Repr

/-- A buffered writer. It takes everything, or fails after `room` more bytes. -/
structure Sink where
  written : Bytes
  room : Option Nat
  deriving DecidableEq, Repr

/-- `bufio.Writer.Write`, flushed. It takes less than it is given only together
with an error, so the loops around it never come to a second turn. -/
def Sink.write (sink : Sink) (bytes : Bytes) : Nat × Bool × Sink :=
  match sink.room with
  | none => (bytes.length, false, { sink with written := sink.written ++ bytes })
  | some room =>
      if bytes.length ≤ room then
        (bytes.length, false, { written := sink.written ++ bytes, room := some (room - bytes.length) })
      else (room, true, { written := sink.written ++ bytes.take room, room := some 0 })

def frame (netID : UInt32) (info : UInt16) (body : Bytes) : Bytes :=
  put 4 netID.toNat ++ put 2 info.toNat ++ put 4 body.length ++ body

section Network

variable (wire : Wire) (codecs : Codecs)

def bodyOf (settings : Settings) (bytes : Bytes) : Option Bytes :=
  if settings.compresses bytes.length then compress codecs settings.compressAlgo bytes else some bytes

/-- The common first part of the two senders. An empty encoding is reported with
the remote address of the writer, and the writer is not a connection. -/
def encode (settings : Settings) (message : Message) : Outcome (Except SendError Bytes) :=
  match wire.marshal message with
  | none => .done (.error .marshal)
  | some bytes =>
      if bytes.length = 0 then .panic
      else
        match bodyOf codecs settings bytes with
        | none => .done (.error (.compress settings.compressAlgo))
        | some body => (genCompressInfo settings bytes.length).map fun info =>
            .ok (frame settings.netID info body)

def sendMessage (settings : Settings) (message : Message) (sink : Sink) :
    Outcome (Option SendError × Sink) :=
  (encode wire codecs settings message).map fun
    | .error error => (some error, sink)
    | .ok buffer =>
        let (written, failed, next) := sink.write buffer
        (if failed then some (.write written buffer.length) else none, next)

/-- What the maps hold for the stream: no entry for the connection, an entry
without the stream, or the stream. -/
inductive StreamLookup where
  | unregistered
  | closed
  | opened
  deriving DecidableEq, Repr

/-- A missing stream is noticed after the write, by a failing type assertion. -/
def streamSendMessage (settings : Settings) (message : Message) (found : StreamLookup) (sink : Sink) :
    Outcome (Option SendError × Sink) :=
  (encode wire codecs settings message).bind fun
    | .error error => .done (some error, sink)
    | .ok buffer =>
        if found = .unregistered then .done (some .closed, sink)
        else
          let (written, failed, next) := sink.write buffer
          if failed then .done (some (.write written buffer.length), next)
          else if found = .closed then .panic
          else .done (none, next)

/-! Receiving. -/

inductive ReceiveError where
  | networkIDBytes
  | wrongNetworkID (received expected : Nat)
  | infoBytes
  | sizeBytes
  | emptyMsg
  | bodyBytes (size : Nat)
  | unmarshal
  | invalidHeader
  deriving DecidableEq, Repr

/-- The header test of the receivers. -/
def headerOk (netID : UInt32) (msg : Message) : Bool :=
  match msg.sender with
  | none => false
  | some sender => msg.opcode != 0 && sender.netKey.isSome && sender.address != "" && msg.netID == netID

inductive Transport where
  | stream
  | quic
  deriving DecidableEq, Repr

/-- `receiveMessage` reads with its own loop, `receiveQuicMessage` with `io.ReadFull`. -/
def Transport.take : Transport → Source → Nat → Option Bytes × Source
  | .stream, source, want => source.readLoop want
  | .quic, source, want => source.readFull want

def receiveFrame (transport : Transport) (netID : UInt32) (source : Source) :
    Except ReceiveError (UInt16 × Bytes) × Source :=
  match transport.take source 4 with
  | (none, next) => (.error .networkIDBytes, next)
  | (some idBytes, next) =>
      if value idBytes ≠ netID.toNat then (.error (.wrongNetworkID (value idBytes) netID.toNat), next)
      else match transport.take next 2 with
        | (none, next) => (.error .infoBytes, next)
        | (some infoBytes, next) =>
            match transport.take next 4 with
            | (none, next) => (.error .sizeBytes, next)
            | (some sizeBytes, next) =>
                if value sizeBytes = 0 then (.error .emptyMsg, next)
                else match transport.take next (value sizeBytes) with
                  | (none, next) => (.error (.bodyBytes (value sizeBytes)), next)
                  | (some body, next) => (.ok (UInt16.ofNat (value infoBytes), body), next)

def decode (netID : UInt32) (info : UInt16) (body : Bytes) : Outcome (Except ReceiveError Message) :=
  let (algo, compEnable) := getCompressInfo info
  (if compEnable then uncompress codecs body algo else .done body).map fun buffer =>
    match wire.unmarshal buffer with
    | none => .error .unmarshal
    | some msg => if headerOk netID msg then .ok msg else .error .invalidHeader

/-- `receiveMessage` and `receiveQuicMessage`. They differ in how they fill their
buffers and in the wording of the errors. -/
def receive (transport : Transport) (settings : Settings) (source : Source) :
    Outcome (Except ReceiveError Message × Source) :=
  match receiveFrame transport settings.netID source with
  | (.error error, next) => .done (.error error, next)
  | (.ok (info, body), next) => (decode wire codecs settings.netID info body).map (·, next)

def receiveMessage (settings : Settings) (source : Source) :
    Outcome (Except ReceiveError Message × Source) :=
  receive wire codecs .stream settings source

def receiveQuicMessage (settings : Settings) (source : Source) :
    Outcome (Except ReceiveError Message × Source) :=
  receive wire codecs .quic settings source

end Network

/-! What a source delivers. -/

/-- The source yields a frame of the network: the ten header bytes and a non-empty
body, each read in full. -/
def Delivers (transport : Transport) (netID : UInt32) (source : Source) (info : UInt16) (body : Bytes)
    (rest : Source) : Prop :=
  ∃ afterID afterInfo afterSize,
    transport.take source 4 = (some (put 4 netID.toNat), afterID) ∧
    transport.take afterID 2 = (some (put 2 info.toNat), afterInfo) ∧
    transport.take afterInfo 4 = (some (put 4 body.length), afterSize) ∧
    body ≠ [] ∧ body.length < 2 ^ 32 ∧
    transport.take afterSize body.length = (some body, rest)

theorem take_length {transport : Transport} {source next : Source} {want : Nat} {bytes : Bytes}
    (read : transport.take source want = (some bytes, next)) : bytes.length = want := by
  cases transport with
  | stream => exact readLoop_length read
  | quic => exact readFull_length read

theorem take_smooth (transport : Transport) (source : Source) (want : Nat) (smooth : Smooth source)
    (enough : want ≤ source.rest.length) :
    ∃ next, transport.take source want = (some (source.rest.take want), next) ∧ Smooth next ∧
      next.rest = source.rest.drop want := by
  cases transport with
  | stream => exact readLoop_smooth source want smooth enough
  | quic => exact readFull_smooth source want smooth enough

theorem receiveFrame_of_delivers {transport : Transport} {netID : UInt32} {source rest : Source}
    {info : UInt16} {body : Bytes} (delivers : Delivers transport netID source info body rest) :
    receiveFrame transport netID source = (.ok (info, body), rest) := by
  obtain ⟨afterID, afterInfo, afterSize, id, infoRead, size, nonempty, bound, read⟩ := delivers
  have sameID : value (put 4 netID.toNat) = netID.toNat := value_put_of_lt 4 _ netID.toNat_lt
  have sameInfo : value (put 2 info.toNat) = info.toNat := value_put_of_lt 2 _ info.toNat_lt
  have sameSize : value (put 4 body.length) = body.length := value_put_of_lt 4 _ bound
  simp [receiveFrame, id, sameID, infoRead, sameInfo, size, sameSize, nonempty, read]

theorem delivers_of_receiveFrame {transport : Transport} {netID : UInt32} {source rest : Source}
    {info : UInt16} {body : Bytes}
    (received : receiveFrame transport netID source = (.ok (info, body), rest)) :
    Delivers transport netID source info body rest := by
  unfold receiveFrame at received
  rcases idRead : transport.take source 4 with ⟨_ | idBytes, afterID⟩
  · simp [idRead] at received
  rw [idRead] at received
  by_cases other : value idBytes ≠ netID.toNat
  · simp [other] at received
  simp only [other, if_false] at received
  rcases infoRead : transport.take afterID 2 with ⟨_ | infoBytes, afterInfo⟩
  · simp [infoRead] at received
  simp only [infoRead] at received
  rcases sizeRead : transport.take afterInfo 4 with ⟨_ | sizeBytes, afterSize⟩
  · simp [sizeRead] at received
  simp only [sizeRead] at received
  by_cases empty : value sizeBytes = 0
  · simp [empty] at received
  simp only [empty, if_false] at received
  rcases bodyRead : transport.take afterSize (value sizeBytes) with ⟨_ | bodyBytes, afterBody⟩
  · simp [bodyRead] at received
  simp only [bodyRead, Prod.mk.injEq, Except.ok.injEq] at received
  obtain ⟨⟨rfl, rfl⟩, rfl⟩ := received
  have bodyLength := take_length bodyRead
  have infoBound := value_lt infoBytes
  have sizeBound := value_lt sizeBytes
  rw [take_length infoRead] at infoBound
  rw [take_length sizeRead] at sizeBound
  refine ⟨afterID, afterInfo, afterSize, ?_, ?_, ?_, ?_, ?_, ?_⟩
  · rw [idRead, ← not_not.mp other, put_value 4 _ (take_length idRead)]
  · rw [infoRead, UInt16.toNat_ofNat_of_lt' infoBound, put_value 2 _ (take_length infoRead)]
  · rw [sizeRead, bodyLength, put_value 4 _ (take_length sizeRead)]
  · rintro rfl
    exact empty bodyLength.symm
  · exact bodyLength ▸ sizeBound
  · rw [bodyLength, bodyRead]

section Receiving

variable (wire : Wire) (codecs : Codecs)

theorem receive_cases (transport : Transport) (settings : Settings) (source : Source) :
    (∃ info body rest, Delivers transport settings.netID source info body rest ∧
      receive wire codecs transport settings source =
        (decode wire codecs settings.netID info body).map (·, rest)) ∨
    ((∀ info body rest, ¬ Delivers transport settings.netID source info body rest) ∧
      ∃ error next, receive wire codecs transport settings source = .done (.error error, next)) := by
  unfold receive
  rcases received : receiveFrame transport settings.netID source with ⟨error | ⟨info, body⟩, rest⟩
  · refine Or.inr ⟨fun info body other delivers => ?_, error, rest, rfl⟩
    rw [receiveFrame_of_delivers delivers] at received
    simp at received
  · exact Or.inl ⟨info, body, rest, delivers_of_receiveFrame received, rfl⟩

theorem receive_of_delivers {transport : Transport} {settings : Settings} {source rest : Source}
    {info : UInt16} {body : Bytes}
    (delivers : Delivers transport settings.netID source info body rest) :
    receive wire codecs transport settings source =
      (decode wire codecs settings.netID info body).map (·, rest) := by
  simp [receive, receiveFrame_of_delivers delivers]

theorem decode_ok {netID : UInt32} {info : UInt16} {body : Bytes} {msg : Message}
    (decoded : decode wire codecs netID info body = .done (.ok msg)) : headerOk netID msg = true := by
  obtain ⟨buffer, _, result⟩ := Outcome.bind_eq_done.mp decoded
  simp only [Outcome.done.injEq] at result
  split at result
  · simp at result
  · split at result
    · rename_i ok
      cases result
      exact ok
    · simp at result

theorem receive_headerOk {transport : Transport} {settings : Settings} {source next : Source}
    {msg : Message} (received : receive wire codecs transport settings source = .done (.ok msg, next)) :
    headerOk settings.netID msg = true := by
  rcases receive_cases wire codecs transport settings source with
    ⟨info, body, rest, _, decoded⟩ | ⟨_, error, other, failed⟩
  · rw [received] at decoded
    obtain ⟨result, read, same⟩ := Outcome.map_eq_done.mp decoded.symm
    cases same
    exact decode_ok wire codecs read
  · rw [received] at failed
    simp at failed

theorem decode_eq (netID : UInt32) (info : UInt16) (body : Bytes)
    (opens : (getCompressInfo info).2 = true → Opens codecs (getCompressInfo info).1 body) :
    decode wire codecs netID info body = .done
      (match wire.unmarshal (if (getCompressInfo info).2 then output codecs (getCompressInfo info).1 body
          else body) with
        | none => .error .unmarshal
        | some msg => if headerOk netID msg then .ok msg else .error .invalidHeader) := by
  unfold decode
  by_cases flagged : (getCompressInfo info).2 = true
  · simp [flagged, (uncompress_eq codecs _ body).1 (opens flagged)]
  · simp [flagged]

theorem decode_panic (netID : UInt32) (info : UInt16) (body : Bytes)
    (flagged : (getCompressInfo info).2 = true)
    (rejected : ¬ Opens codecs (getCompressInfo info).1 body) :
    decode wire codecs netID info body = .panic := by
  simp [decode, flagged, (uncompress_eq codecs _ body).2 rejected]

/-- A compressed body is damaged in a way the receiver would not survive or would
not notice: its header is rejected, or what comes out before the damage passes for
a message of the network. -/
def Deceptive (netID : UInt32) (info : UInt16) (body : Bytes) : Prop :=
  (getCompressInfo info).2 = true ∧ ¬ Intact codecs (getCompressInfo info).1 body ∧
    (¬ Opens codecs (getCompressInfo info).1 body ∨
      ∃ msg, wire.unmarshal (output codecs (getCompressInfo info).1 body) = some msg ∧
        headerOk netID msg = true)

/-- On every source, `receiveMessage` and `receiveQuicMessage` return, and return
an error for every damaged compressed body, exactly when the frame in front of
them is not a deceptive one. -/
theorem receive_reports_damage_iff (transport : Transport) (settings : Settings) (source : Source) :
    ((∃ result, receive wire codecs transport settings source = .done result) ∧
      ∀ info body rest, Delivers transport settings.netID source info body rest →
        (getCompressInfo info).2 = true → ¬ Intact codecs (getCompressInfo info).1 body →
        ∃ error next, receive wire codecs transport settings source = .done (.error error, next)) ↔
    ∀ info body rest, Delivers transport settings.netID source info body rest →
      ¬ Deceptive wire codecs settings.netID info body := by
  constructor
  · rintro ⟨⟨result, returned⟩, reported⟩ info body rest delivers ⟨flagged, damaged, deceives⟩
    have decoded := receive_of_delivers wire codecs delivers
    rcases deceives with rejected | ⟨msg, read, passes⟩
    · rw [decode_panic wire codecs _ info body flagged rejected, returned] at decoded
      simp at decoded
    · obtain ⟨error, next, failed⟩ := reported info body rest delivers flagged damaged
      by_cases opens : Opens codecs (getCompressInfo info).1 body
      · rw [decode_eq wire codecs _ info body fun _ => opens, failed] at decoded
        simp [flagged, read, passes] at decoded
      · rw [decode_panic wire codecs _ info body flagged opens, failed] at decoded
        simp at decoded
  · intro honest
    rcases receive_cases wire codecs transport settings source with
      ⟨info, body, rest, delivers, decoded⟩ | ⟨silent, error, next, failed⟩
    · have opens : (getCompressInfo info).2 = true → Opens codecs (getCompressInfo info).1 body := by
        intro flagged
        by_contra rejected
        exact honest info body rest delivers
          ⟨flagged, fun intact => rejected intact.1, Or.inl rejected⟩
      rw [decode_eq wire codecs _ info body opens] at decoded
      refine ⟨⟨_, decoded⟩, fun otherInfo otherBody otherRest again flagged damaged => ?_⟩
      -- A source has only one frame in front.
      have sameFrame := receiveFrame_of_delivers delivers
      rw [receiveFrame_of_delivers again] at sameFrame
      simp only [Prod.mk.injEq, Except.ok.injEq] at sameFrame
      obtain ⟨⟨rfl, rfl⟩, rfl⟩ := sameFrame
      rw [decoded]
      cases read : wire.unmarshal (output codecs (getCompressInfo otherInfo).1 otherBody) with
      | none => exact ⟨.unmarshal, otherRest, by simp [flagged, read]⟩
      | some msg =>
          cases passes : headerOk settings.netID msg with
          | false => exact ⟨.invalidHeader, otherRest, by simp [flagged, read, passes]⟩
          | true =>
              exact absurd ⟨flagged, damaged, Or.inr ⟨msg, read, passes⟩⟩
                (honest otherInfo otherBody otherRest delivers)
    · exact ⟨⟨_, failed⟩, fun info body rest delivers => absurd delivers (silent info body rest)⟩

end Receiving

/-! Sequences of messages. -/

inductive Route where
  | direct
  | onStream (found : StreamLookup)
  deriving DecidableEq, Repr

section RoundTrip

variable (wire : Wire) (codecs : Codecs)

def send (settings : Settings) (route : Route) (message : Message) (sink : Sink) :
    Outcome (Option SendError × Sink) :=
  match route with
  | .direct => sendMessage wire codecs settings message sink
  | .onStream found => streamSendMessage wire codecs settings message found sink

def sendAll (settings : Settings) :
    List (Route × Message) → Sink → Outcome (List (Option SendError) × Sink)
  | [], sink => .done ([], sink)
  | (route, message) :: rest, sink =>
      (send wire codecs settings route message sink).bind fun (error, next) =>
      (sendAll settings rest next).map fun (errors, last) => (error :: errors, last)

def receiveMany (settings : Settings) :
    Nat → Source → Outcome (List (Except ReceiveError Message) × Source)
  | 0, source => .done ([], source)
  | count + 1, source =>
      (receiveMessage wire codecs settings source).bind fun (result, next) =>
      (receiveMany settings count next).map fun (results, last) => (result :: results, last)

/-- A message its network accepts, that protocol buffers carry unchanged and whose
body fits the length field. -/
structure Sendable (settings : Settings) (message : Message) : Prop where
  opcode : message.opcode ≠ 0
  sender : ∃ id key, message.sender = some id ∧ id.netKey = some key ∧ key ≠ [] ∧ id.address ≠ ""
  netID : message.netID = settings.netID
  carried : ∃ bytes, wire.marshal message = some bytes ∧ wire.unmarshal bytes = some message ∧
    ∀ body, bodyOf codecs settings bytes = some body → body.length < 2 ^ 32

variable {wire codecs} (lawful : codecs.Lawful)
  (zero : ∀ msg, wire.unmarshal [] = some msg → msg.opcode = 0)

omit lawful zero in
theorem sendable_headerOk {settings : Settings} {message : Message}
    (sendable : Sendable wire codecs settings message) : headerOk settings.netID message = true := by
  obtain ⟨id, key, sender, netKey, _, address⟩ := sendable.sender
  simp [headerOk, sender, netKey, sendable.opcode, address, sendable.netID]

include lawful zero

/-- A sent message is a frame that every receiver of the network decodes to it,
whatever its own settings for compression. -/
theorem encode_decode {settings : Settings} {message : Message}
    (known : settings.compressAlgo ∈ AlgoType.known)
    (sendable : Sendable wire codecs settings message) :
    ∃ info body, encode wire codecs settings message = .done (.ok (frame settings.netID info body)) ∧
      body ≠ [] ∧ body.length < 2 ^ 32 ∧
      decode wire codecs settings.netID info body = .done (.ok message) := by
  obtain ⟨bytes, marshalled, unmarshalled, short⟩ := sendable.carried
  have nonempty : bytes ≠ [] := by
    rintro rfl
    exact sendable.opcode (zero message unmarshalled)
  obtain ⟨info, written, read⟩ := compressInfo_roundTrip settings bytes.length known
  -- Either way the receiver gets the marshalled bytes back from the body.
  obtain ⟨body, built, bodyNonempty, restored⟩ : ∃ body, bodyOf codecs settings bytes = some body ∧
      body ≠ [] ∧ (if settings.compresses bytes.length then
        uncompress codecs body settings.compressAlgo else .done body) = .done bytes := by
    unfold bodyOf
    by_cases compressed : settings.compresses bytes.length = true
    · obtain ⟨body, built⟩ := compress_known known codecs bytes
      obtain ⟨restored, bodyNonempty⟩ := compress_roundTrip lawful nonempty built
      exact ⟨body, by simp [compressed, built], bodyNonempty, by simp [compressed, restored]⟩
    · exact ⟨bytes, by simp [compressed], nonempty, by simp [compressed]⟩
  refine ⟨info, body, ?_, bodyNonempty, short body built, ?_⟩
  · simp [encode, marshalled, nonempty, built, written]
  · simp [decode, read, restored, unmarshalled, sendable_headerOk sendable]

theorem send_spec {settings : Settings} {message : Message} {route : Route}
    (known : settings.compressAlgo ∈ AlgoType.known)
    (sendable : Sendable wire codecs settings message)
    (open_ : route = .direct ∨ route = .onStream .opened) (written : Bytes) :
    ∃ info body, send wire codecs settings route message ⟨written, none⟩ =
        .done (none, ⟨written ++ frame settings.netID info body, none⟩) ∧
      body ≠ [] ∧ body.length < 2 ^ 32 ∧
      decode wire codecs settings.netID info body = .done (.ok message) := by
  obtain ⟨info, body, encoded, rest⟩ := encode_decode lawful zero known sendable
  refine ⟨info, body, ?_, rest⟩
  rcases open_ with rfl | rfl
  · simp [send, sendMessage, encoded, Sink.write]
  · simp [send, streamSendMessage, encoded, Sink.write]

omit lawful zero in
/-- A frame in front of a smooth source is delivered, and nothing more is read. -/
theorem delivers_frame (transport : Transport) {netID : UInt32} {info : UInt16} {body tail : Bytes}
    {source : Source} (smooth : Smooth source) (front : source.rest = frame netID info body ++ tail)
    (nonempty : body ≠ []) (bound : body.length < 2 ^ 32) :
    ∃ rest, Delivers transport netID source info body rest ∧ Smooth rest ∧ rest.rest = tail := by
  have bytes : source.rest =
      put 4 netID.toNat ++ (put 2 info.toNat ++ (put 4 body.length ++ (body ++ tail))) := by
    simp [front, frame]
  obtain ⟨afterID, idRead, idSmooth, idRest⟩ := take_smooth transport source 4 smooth (by simp [bytes])
  rw [bytes, List.take_left' (put_length 4 _)] at idRead
  rw [bytes, List.drop_left' (put_length 4 _)] at idRest
  obtain ⟨afterInfo, infoRead, infoSmooth, infoRest⟩ :=
    take_smooth transport afterID 2 idSmooth (by simp [idRest])
  rw [idRest, List.take_left' (put_length 2 _)] at infoRead
  rw [idRest, List.drop_left' (put_length 2 _)] at infoRest
  obtain ⟨afterSize, sizeRead, sizeSmooth, sizeRest⟩ :=
    take_smooth transport afterInfo 4 infoSmooth (by simp [infoRest])
  rw [infoRest, List.take_left' (put_length 4 _)] at sizeRead
  rw [infoRest, List.drop_left' (put_length 4 _)] at sizeRest
  obtain ⟨rest, bodyRead, restSmooth, restBytes⟩ :=
    take_smooth transport afterSize body.length sizeSmooth (by simp [sizeRest])
  rw [sizeRest, List.take_left] at bodyRead
  rw [sizeRest, List.drop_left] at restBytes
  exact ⟨rest, ⟨afterID, afterInfo, afterSize, idRead, infoRead, sizeRead, nonempty, bound, bodyRead⟩,
    restSmooth, restBytes⟩

/-- Any sequence of sendable messages, each sent directly or on an open stream,
arrives as that sequence, however the connection cuts the bytes. -/
theorem framing_roundTrip (sender receiver : Settings) (sameNet : receiver.netID = sender.netID)
    (known : sender.compressAlgo ∈ AlgoType.known) (sends : List (Route × Message))
    (open_ : ∀ sent ∈ sends, sent.1 = .direct ∨ sent.1 = .onStream .opened)
    (sendable : ∀ sent ∈ sends, Sendable wire codecs sender sent.2) :
    ∃ bytes, sendAll wire codecs sender sends ⟨[], none⟩ =
        .done (sends.map fun _ => none, ⟨bytes, none⟩) ∧
      ∀ source, Smooth source → source.rest = bytes →
        ∃ last, receiveMany wire codecs receiver sends.length source =
            .done (sends.map fun sent => .ok sent.2, last) ∧ last.rest = [] := by
  -- Generalised over what was written before and what follows on the connection.
  have general : ∀ written : Bytes, ∃ bytes, sendAll wire codecs sender sends ⟨written, none⟩ =
        .done (sends.map fun _ => none, ⟨written ++ bytes, none⟩) ∧
      ∀ source tail, Smooth source → source.rest = bytes ++ tail →
        ∃ last, receiveMany wire codecs receiver sends.length source =
            .done (sends.map fun sent => .ok sent.2, last) ∧ last.rest = tail := by
    induction sends with
    | nil =>
        intro written
        exact ⟨[], by simp [sendAll], fun source tail _ front => ⟨source, rfl, by simpa using front⟩⟩
    | cons sent rest ih =>
        intro written
        obtain ⟨info, body, first, nonempty, bound, decoded⟩ := send_spec lawful zero known
          (sendable sent (by simp)) (open_ sent (by simp)) written
        obtain ⟨bytes, others, received⟩ := ih (fun other member => open_ other (by simp [member]))
          (fun other member => sendable other (by simp [member]))
          (written ++ frame sender.netID info body)
        refine ⟨frame sender.netID info body ++ bytes, ?_, fun source tail smooth front => ?_⟩
        · simp [sendAll, first, others, List.append_assoc]
        · obtain ⟨next, delivers, nextSmooth, nextRest⟩ := delivers_frame .stream smooth
            (by rw [front, List.append_assoc]) nonempty bound
          obtain ⟨last, many, lastRest⟩ := received next tail nextSmooth nextRest
          rw [← sameNet] at delivers decoded
          refine ⟨last, ?_, lastRest⟩
          simp [receiveMany, receiveMessage, receive_of_delivers wire codecs delivers, decoded, many]
  obtain ⟨bytes, written, received⟩ := general []
  exact ⟨bytes, written, fun source smooth front => received source [] smooth (by simpa using front)⟩

end RoundTrip

/-! A `Ping` as protocol buffers and gzip encode it. -/

def stringBytes (text : String) : Bytes := text.toList.flatMap String.utf8EncodeChar

def marshalID (id : ID) : Bytes :=
  bytesField 0x0a (id.netKey.getD []) ++ bytesField 0x12 (stringBytes id.address) ++ bytesField 0x1a id.id ++
    bytesField 0x22 id.connectionId ++ bytesField 0x2a (stringBytes id.address2)

/-- A sender is written also when all of it is empty. -/
def marshalMessage (message : Message) : Bytes :=
  bytesField 0x0a message.message ++
    (match message.sender with
      | none => []
      | some sender => 0x12 :: (encodeVarint (marshalID sender).length ++ marshalID sender)) ++
    bytesField 0x1a (message.signature.getD []) ++ numberField 0x20 message.requestNonce.toNat ++
    numberField 0x28 message.messageNonce.toNat ++ numberField 0x30 message.replyFlag.toNat ++
    numberField 0x38 message.opcode.toNat ++ numberField 0x40 message.netID.toNat ++
    bytesField 0x4a (stringBytes message.messageID) ++ numberField 0x50 message.needAck.toNat

theorem marshalMessage_length (message : Message) : message.message.length ≤ (marshalMessage message).length := by
  have own : message.message.length ≤ (bytesField 0x0a message.message).length := by
    unfold bytesField
    split
    · simp [*]
    · simp only [List.length_cons, List.length_append]
      omega
  simp only [marshalMessage, List.length_append]
  omega

def pingSender : ID :=
  { netKey := some [1], address := "tcp://10.2.3.4:1", id := [2], connectionId := [], address2 := "" }

def pingMessage : Message :=
  { message := [], sender := some pingSender, signature := none, requestNonce := 0, messageNonce := 1,
    replyFlag := false, opcode := 10, netID := 7, messageID := "", needAck := false }

def pingBytes : Bytes :=
  [0x12, 0x18, 0x0a, 0x01, 0x01, 0x12, 0x10, 0x74, 0x63, 0x70, 0x3a, 0x2f, 0x2f, 0x31, 0x30, 0x2e, 0x32, 0x2e, 0x33,
    0x2e, 0x34, 0x3a, 0x31, 0x1a, 0x01, 0x02, 0x28, 0x01, 0x38, 0x0a, 0x40, 0x07]

example : marshalMessage pingMessage = pingBytes := by decide

def pingWire : Wire where
  marshal message := some (marshalMessage message)
  unmarshal bytes := if bytes = pingBytes then some pingMessage else none

/-- The stream that Go's gzip writes for these bytes: ten bytes of header, a block with
fixed codes, an empty last block, the checksum and the length. -/
def pingGzip : Bytes :=
  [0x1f, 0x8b, 0x08, 0x00, 0x00, 0x00, 0x00, 0x00, 0x00, 0xff,
    0x12, 0x92, 0xe0, 0x62, 0x64, 0x14, 0x12, 0x28, 0x49, 0x2e, 0xb0, 0xd2, 0xd7, 0x37, 0x34, 0xd0, 0x33, 0xd2, 0x33,
    0xd6, 0x33, 0xb1, 0x32, 0x94, 0x62, 0x64, 0xd2, 0x60, 0xb4, 0xe0, 0x72, 0x60, 0x07, 0x04, 0x00, 0x00, 0xff, 0xff,
    0x08, 0x70, 0x24, 0x40, 0x20, 0x00, 0x00, 0x00]

/-- The stream without its checksum and length. Go's reader hands out the bytes before it
reports that the end is missing. -/
def pingCut : Bytes := pingGzip.take 48

/-- Other bytes are only marked at both ends. -/
def markedCodec (mark : UInt8) : Codec where
  compress := fun source => mark :: (source ++ [mark])
  opens := fun bytes => bytes.head? == some mark
  output := fun bytes => if bytes.getLast? == some mark then bytes.tail.dropLast else bytes.tail
  complete := fun bytes => decide (2 ≤ bytes.length) && bytes.head? == some mark && bytes.getLast? == some mark

def gzipCodec : Codec where
  compress source := if source = pingBytes then pingGzip else (markedCodec 0x1f).compress source
  opens := (markedCodec 0x1f).opens
  output bytes := if bytes = pingGzip ∨ bytes = pingCut then pingBytes else (markedCodec 0x1f).output bytes
  complete bytes := bytes = pingGzip || (markedCodec 0x1f).complete bytes

theorem marked_getLast (mark : UInt8) (source : Bytes) :
    (mark :: (source ++ [mark])).getLast? = some mark := by
  rw [← List.cons_append]
  exact List.getLast?_concat

theorem markedCodec_lawful (mark : UInt8) : (markedCodec mark).Lawful where
  opens := fun source => by simp [markedCodec]
  complete := fun source => by simp [markedCodec, marked_getLast]
  output := fun source => by simp [markedCodec, marked_getLast]
  empty := rfl

theorem gzipCodec_lawful : gzipCodec.Lawful where
  opens source := by
    simp only [gzipCodec]
    split
    · decide
    · exact (markedCodec_lawful 0x1f).opens source
  complete source := by
    simp only [gzipCodec]
    split
    · decide
    · simp [(markedCodec_lawful 0x1f).complete source]
  output source := by
    simp only [gzipCodec]
    split
    · simp [*]
    · -- a marked stream ends in its mark
      have other : ¬ ((markedCodec 0x1f).compress source = pingGzip ∨ (markedCodec 0x1f).compress source = pingCut) := by
        rintro (same | same) <;> exact absurd (congrArg List.getLast? same) (by
          rw [show (markedCodec 0x1f).compress source = 0x1f :: (source ++ [0x1f]) from rfl, marked_getLast]
          decide)
      rw [if_neg other]
      exact (markedCodec_lawful 0x1f).output source
  empty := by decide

def pingCodecs : Codecs :=
  { gzip := gzipCodec, zlib := markedCodec 0x78, lzw := markedCodec 0x80 }

theorem pingCodecs_lawful : pingCodecs.Lawful :=
  ⟨gzipCodec_lawful, markedCodec_lawful _, markedCodec_lawful _⟩

def gzipSettings : Settings :=
  { netID := 7, compressEnable := true, compressSize := 0, compressAlgo := AlgoType.gzip }

def plainSettings : Settings := { gzipSettings with compressEnable := false }

theorem framing_roundTrip_pings :
    ∃ bytes, sendAll pingWire pingCodecs gzipSettings
        [(.direct, pingMessage), (.onStream .opened, pingMessage)] ⟨[], none⟩ =
        .done ([none, none], ⟨bytes, none⟩) ∧
      ∀ source, Smooth source → source.rest = bytes →
        ∃ last, receiveMany pingWire pingCodecs plainSettings 2 source =
            .done ([.ok pingMessage, .ok pingMessage], last) ∧ last.rest = [] := by
  have sendable : Sendable pingWire pingCodecs gzipSettings pingMessage :=
    ⟨by decide, ⟨_, [1], rfl, rfl, by decide, by decide⟩, rfl, pingBytes, by decide, by decide,
      fun body built => by cases built; decide⟩
  exact framing_roundTrip pingCodecs_lawful (fun msg empty => by simp [pingWire, pingBytes] at empty)
    gzipSettings plainSettings rfl (by decide)
    [(.direct, pingMessage), (.onStream .opened, pingMessage)] (by simp) (by simpa using sendable)

/-- A gzip frame without a gzip header stops the receiver, and one that breaks off
before its end is taken for a message. -/
theorem receive_hides_damage :
    (∃ rest, Delivers .stream 7 ⟨frame 7 0x0102 [0x00], []⟩ 0x0102 [0x00] rest) ∧
    ¬ Intact pingCodecs AlgoType.gzip [0x00] ∧
    receiveMessage pingWire pingCodecs plainSettings ⟨frame 7 0x0102 [0x00], []⟩ = .panic ∧
    receiveQuicMessage pingWire pingCodecs plainSettings ⟨frame 7 0x0102 [0x00], []⟩ = .panic ∧
    ¬ Intact pingCodecs AlgoType.gzip pingCut ∧
    receiveMessage pingWire pingCodecs plainSettings ⟨frame 7 0x0102 pingCut, []⟩ =
      .done (.ok pingMessage, ⟨[], []⟩) := by
  refine ⟨?_, ?_, by decide, by decide, ?_, by decide⟩
  · have front : (⟨frame 7 0x0102 [0x00], []⟩ : Source).rest = frame 7 0x0102 [0x00] ++ [] := by simp
    obtain ⟨rest, delivers, _⟩ := delivers_frame .stream (by simp [Smooth]) front (by simp) (by simp)
    exact ⟨rest, delivers⟩
  · exact fun intact => absurd (intact.1.1 rfl) (by decide)
  · exact fun intact => absurd (intact.2.1 rfl) (by decide)

end Carrier.Framing

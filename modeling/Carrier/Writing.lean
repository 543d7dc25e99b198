import Carrier.Datagram
import Carrier.RegistryOps

/-! `Network.Write`: one message to the connection registered under a key. It holds
the mutex of the connection while it sends. The stream and the datagram sender rely
on that; the QUIC sender of `network/session.go` takes the mutex once more, and a Go
mutex does not let its holder in again. -/
namespace Carrier.Writing

open GoRuntime Identity Address Compression Framing Datagram ConnMgr AcceptLoops RegistryOps

/-- How far a call gets. One that locks a mutex it holds never returns. -/
inductive Progress (α : Type) where
  | returns (value : α)
  | panics
  | blocks
  deriving DecidableEq, Repr

def Progress.of {α : Type} : Outcome α → Progress α
  | .done value => .returns value
  | .panic => .panics

structure Network where
  env : Env
  wire : Wire
  codecs : Codecs
  settings : Settings

structure Line where
  sink : Sink
  messageNonce : UInt64
  deriving DecidableEq, Repr

structure Outbox where
  reg : Registry
  lines : String → Line

inductive WriteError where
  | missing
  | nilConnection
  | send (error : SendError)
  deriving DecidableEq, Repr

/-! The senders. -/

section Senders

variable (wire : Wire) (codecs : Codecs) (settings : Settings)

/-- `sendQuicMessage`; `held` says whether the caller has the mutex. -/
def sendQuicMessage (held : Bool) (message : Message) (sink : Sink) : Progress (Option SendError × Sink) :=
  match wire.marshal message with
  | none => .returns (some .marshal, sink)
  | some bytes =>
      if bytes.length = 0 then .returns (none, sink)
      else match bodyOf codecs settings bytes with
        | none => .returns (some (.compress settings.compressAlgo), sink)
        | some body =>
            match genCompressInfo settings bytes.length with
            | .panic => .panics
            | .done info =>
                if held then .blocks
                else
                  let buffer := frame settings.netID info body
                  let (written, failed, next) := sink.write buffer
                  .returns (if failed then some (.write written buffer.length) else none, next)

/-- `sendUDPMessage` returns no error at all. A failed type assertion leaves a nil
connection to write to. -/
def sendUDPMessage (conn : Conn) (message : Message) (sink : Sink) : Outcome (Option Bytes × Sink) :=
  match buildRawContent wire message with
  | none => .done (none, sink)
  | some buffer =>
      if conn.kind ≠ .udp then .panic
      else
        let (_, failed, next) := sink.write buffer
        .done (if failed then none else some buffer, next)

end Senders

/-- What came of a message: the error, the writer afterwards, and the bytes of the
message if the writer took all of them. -/
structure Transmitted where
  error : Option WriteError
  sink : Sink
  handed : Option Bytes
  deriving DecidableEq, Repr

def taken (encoded : Outcome (Except SendError Bytes)) (error : Option SendError) : Option Bytes :=
  match encoded, error with
  | .done (.ok buffer), none => some buffer
  | _, _ => none

/-- The part of `Write` that goes by the node's own protocol. An unknown one sends
nothing and is no error. -/
def transmit (net : Network) (protocol : String) (conn : Conn) (message : Message) (sink : Sink) :
    Progress Transmitted :=
  if protocol = "tcp" ∨ protocol = "kcp" then
    if conn.kind = .quic then .returns ⟨some .nilConnection, sink, none⟩
    else match sendMessage net.wire net.codecs net.settings message sink with
      | .panic => .panics
      | .done (error, next) =>
          .returns ⟨error.map .send, next, taken (encode net.wire net.codecs net.settings message) error⟩
  else if protocol = "udp" then
    match sendUDPMessage net.wire conn message sink with
    | .panic => .panics
    | .done (handed, next) => .returns ⟨none, next, handed⟩
  else if protocol = "quic" then
    match sendQuicMessage net.wire net.codecs net.settings true message sink with
    | .panics => .panics
    | .blocks => .blocks
    | .returns (error, next) => .returns ⟨error.map .send, next, none⟩
  else .returns ⟨none, sink, none⟩

structure Written where
  outbox : Outbox
  error : Option WriteError
  handed : Option (Conn × Bytes)

/-- A failed send closes the client under the key. A connection of the wrong kind
returns before that. -/
def settle (net : Network) (outbox : Outbox) (peerID : String) : Option WriteError → Outcome Outbox
  | some (.send _) =>
      match outbox.reg.peers peerID with
      | none => .done outbox
      | some ref => (close net.env outbox.reg ref).map fun reg => { outbox with reg := reg }
  | _ => .done outbox

def stamped (outbox : Outbox) (peerID : String) (message : Message) : Message :=
  { message with messageNonce := (outbox.lines peerID).messageNonce + 1 }

def write (net : Network) (outbox : Outbox) (peerID : String) (message : Message) : Progress Written :=
  match outbox.reg.connections peerID with
  | none => .returns ⟨outbox, some .missing, none⟩
  | some conn =>
      match parseAddress net.env.resolver net.env.address with
      -- `log.Fatal`
      | none => .panics
      | some info =>
          match transmit net info.protocol conn (stamped outbox peerID message) (outbox.lines peerID).sink with
          | .panics => .panics
          | .blocks => .blocks
          | .returns sent =>
              let line : Line := ⟨sent.sink, (outbox.lines peerID).messageNonce + 1⟩
              match settle net { outbox with lines := Function.update outbox.lines peerID line } peerID
                  sent.error with
              | .panic => .panics
              | .done outbox => .returns ⟨outbox, sent.error, sent.handed.map fun bytes => (conn, bytes)⟩

/-! When the connection gets the message. -/

/-- The connection suits the node's protocol, the message can be encoded for it and
the writer takes all of it. -/
inductive Carries (net : Network) (protocol : String) (conn : Conn) (message : Message) (sink : Sink)
    (bytes : Bytes) : Prop where
  | stream : protocol = "tcp" ∨ protocol = "kcp" → conn.kind ≠ .quic →
      encode net.wire net.codecs net.settings message = .done (.ok bytes) →
      (sink.write bytes).2.1 = false → Carries ..
  | datagram : protocol = "udp" → conn.kind = .udp → buildRawContent net.wire message = some bytes →
      (sink.write bytes).2.1 = false → Carries ..

section Transmit

variable {net : Network} {protocol : String} {conn : Conn} {message : Message} {sink : Sink} {bytes : Bytes}

theorem transmit_of_carries (carries : Carries net protocol conn message sink bytes) :
    transmit net protocol conn message sink = .returns ⟨none, (sink.write bytes).2.2, some bytes⟩ := by
  cases carries with
  | stream isStream suits encoded took =>
      simp [transmit, isStream, suits, sendMessage, encoded, took, taken]
  | datagram isUdp suits built took =>
      simp [transmit, isUdp, sendUDPMessage, suits, built, took]

theorem transmit_stream_cases (isStream : protocol = "tcp" ∨ protocol = "kcp") {sent : Transmitted}
    (transmitted : transmit net protocol conn message sink = .returns sent) :
    (sent.error ≠ none ∧ sent.handed = none) ∨
    ∃ buffer, conn.kind ≠ .quic ∧ encode net.wire net.codecs net.settings message = .done (.ok buffer) ∧
      (sink.write buffer).2.1 = false ∧ sent.handed = some buffer := by
  simp only [transmit, isStream, if_true] at transmitted
  split at transmitted
  · cases transmitted
    exact .inl ⟨by simp, rfl⟩
  · rename_i suits
    unfold sendMessage at transmitted
    cases encoded : encode net.wire net.codecs net.settings message with
    | panic => simp [encoded] at transmitted
    | done result =>
        cases result with
        | error error =>
            simp only [encoded, Outcome.done_map] at transmitted
            cases transmitted
            exact .inl ⟨by simp, by simp [taken]⟩
        | ok buffer =>
            simp only [encoded, Outcome.done_map] at transmitted
            cases transmitted
            cases failed : (sink.write buffer).2.1 with
            | true => exact .inl ⟨by simp, by simp [taken]⟩
            | false => exact .inr ⟨buffer, suits, rfl, failed, by simp [taken]⟩

theorem carries_of_transmit {sent : Transmitted}
    (transmitted : transmit net protocol conn message sink = .returns sent) (handed : sent.handed = some bytes) :
    Carries net protocol conn message sink bytes := by
  by_cases isStream : protocol = "tcp" ∨ protocol = "kcp"
  · rcases transmit_stream_cases isStream transmitted with ⟨_, nothing⟩ | ⟨buffer, suits, encoded, took, whole⟩
    · cases nothing.symm.trans handed
    · obtain rfl : buffer = bytes := Option.some.inj (whole.symm.trans handed)
      exact .stream isStream suits encoded took
  · unfold transmit at transmitted
    rw [if_neg isStream] at transmitted
    split at transmitted
    · rename_i isUdp
      unfold sendUDPMessage at transmitted
      cases built : buildRawContent net.wire message with
      | none =>
          simp only [built] at transmitted
          cases transmitted
          simp at handed
      | some buffer =>
          by_cases suits : conn.kind = .udp
          · simp only [built, suits, ne_eq, not_true_eq_false, if_false] at transmitted
            cases transmitted
            cases failed : (sink.write buffer).2.1 with
            | true => simp [failed] at handed
            | false =>
                have same : buffer = bytes := by simpa [failed] using handed
                subst same
                exact .datagram isUdp suits built failed
          · simp [built, suits] at transmitted
    · split at transmitted
      · split at transmitted
        · simp at transmitted
        · simp at transmitted
        · cases transmitted
          simp at handed
      · cases transmitted
        simp at handed

end Transmit

def Passes (net : Network) (outbox : Outbox) (peerID : String) (message : Message) (conn : Conn) : Prop :=
  ∃ info bytes, parseAddress net.env.resolver net.env.address = some info ∧
    Carries net info.protocol conn (stamped outbox peerID message) (outbox.lines peerID).sink bytes

def Hands (net : Network) (outbox : Outbox) (peerID : String) (message : Message) (conn : Conn) : Prop :=
  ∃ after bytes, write net outbox peerID message = .returns after ∧ after.handed = some (conn, bytes)

section Write

variable {net : Network} {outbox : Outbox} {peerID : String} {message : Message} {conn : Conn}

theorem write_of_carries {info : AddressInfo} {bytes : Bytes} (connected : outbox.reg.connections peerID = some conn)
    (parses : parseAddress net.env.resolver net.env.address = some info)
    (carries : Carries net info.protocol conn (stamped outbox peerID message) (outbox.lines peerID).sink bytes) :
    write net outbox peerID message = .returns
      ⟨⟨outbox.reg, Function.update outbox.lines peerID
          ⟨((outbox.lines peerID).sink.write bytes).2.2, (outbox.lines peerID).messageNonce + 1⟩⟩,
        none, some (conn, bytes)⟩ := by
  simp [write, connected, parses, transmit_of_carries carries, settle]

def sentOn (outbox : Outbox) (peerID : String) (sent : Transmitted) : Outbox :=
  { outbox with
    lines := Function.update outbox.lines peerID ⟨sent.sink, (outbox.lines peerID).messageNonce + 1⟩ }

theorem write_returns {after : Written} (wrote : write net outbox peerID message = .returns after) :
    outbox.reg.connections peerID = none ∧ after = ⟨outbox, some .missing, none⟩ ∨
    ∃ conn info sent, outbox.reg.connections peerID = some conn ∧
      parseAddress net.env.resolver net.env.address = some info ∧
      transmit net info.protocol conn (stamped outbox peerID message) (outbox.lines peerID).sink =
        .returns sent ∧
      settle net (sentOn outbox peerID sent) peerID sent.error = .done after.outbox ∧
      after.error = sent.error ∧ after.handed = sent.handed.map fun bytes => (conn, bytes) := by
  unfold write at wrote
  cases connected : outbox.reg.connections peerID with
  | none =>
      simp only [connected] at wrote
      cases wrote
      exact Or.inl ⟨rfl, rfl⟩
  | some conn =>
      simp only [connected] at wrote
      cases parses : parseAddress net.env.resolver net.env.address with
      | none => simp [parses] at wrote
      | some info =>
          simp only [parses] at wrote
          split at wrote
          · simp at wrote
          · simp at wrote
          · rename_i sent transmitted
            split at wrote
            · simp at wrote
            · rename_i settled
              cases wrote
              exact Or.inr ⟨conn, info, sent, rfl, rfl, transmitted, settled, rfl, rfl⟩

theorem hands_iff : Hands net outbox peerID message conn ↔
    outbox.reg.connections peerID = some conn ∧ Passes net outbox peerID message conn := by
  constructor
  · rintro ⟨after, bytes, wrote, handed⟩
    rcases write_returns wrote with ⟨_, same⟩ | ⟨link, info, sent, connected, parses, transmitted, _, _, given⟩
    · rw [same] at handed
      simp at handed
    · rw [given] at handed
      obtain ⟨_, gave, same⟩ := Option.map_eq_some_iff.mp handed
      cases same
      exact ⟨connected, info, bytes, parses, carries_of_transmit transmitted gave⟩
  · rintro ⟨connected, info, bytes, parses, carries⟩
    exact ⟨_, bytes, write_of_carries connected parses carries, rfl⟩

end Write

/-! The frame on the wire. -/

structure Framed (wire : Wire) (codecs : Codecs) (settings : Settings) (message : Message) (bytes : Bytes)
    (info : UInt16) (body : Bytes) : Prop where
  marshalled : wire.marshal message = some bytes
  nonempty : bytes ≠ []
  info : genCompressInfo settings bytes.length = .done info
  body : bodyOf codecs settings bytes = some body

/-- The message has an encoding, the header has room for the algorithm, and
`Compress` knows it if the message is to be compressed. -/
def Encodable (wire : Wire) (settings : Settings) (message : Message) : Prop :=
  ∃ bytes, wire.marshal message = some bytes ∧ bytes ≠ [] ∧ settings.compressAlgo ≤ 0xFF ∧
    (settings.compresses bytes.length = true → settings.compressAlgo ∈ AlgoType.known)

section Frames

variable {wire : Wire} {codecs : Codecs} {settings : Settings} {message : Message} {bytes body : Bytes}
  {info : UInt16}

theorem known_of_compress {algo : AlgoType} (compressed : compress codecs algo bytes = some body) :
    algo ∈ AlgoType.known := by
  simp only [AlgoType.known, List.mem_cons, List.not_mem_nil, or_false]
  unfold compress at compressed
  split at compressed
  · rename_i isBzip; exact Or.inr (Or.inl isBzip)
  · split at compressed
    · rename_i isGzip; exact Or.inr (Or.inr (Or.inl isGzip))
    · split at compressed
      · rename_i isZlib; exact Or.inr (Or.inr (Or.inr (Or.inl isZlib)))
      · split at compressed
        · rename_i isLzw; exact Or.inr (Or.inr (Or.inr (Or.inr isLzw)))
        · split at compressed
          · rename_i isNone; exact Or.inl isNone
          · simp at compressed

theorem Framed.encodable (framed : Framed wire codecs settings message bytes info body) :
    Encodable wire settings message := by
  refine ⟨bytes, framed.marshalled, framed.nonempty, ?_, fun compressing => ?_⟩
  · have written := framed.info
    unfold genCompressInfo at written
    by_contra large
    simp [UInt16.not_le.mp large] at written
  · have built := framed.body
    rw [bodyOf, if_pos compressing] at built
    exact known_of_compress built

theorem Encodable.framed (codecs : Codecs) (encodable : Encodable wire settings message) :
    ∃ bytes info body, Framed wire codecs settings message bytes info body := by
  obtain ⟨bytes, marshalled, nonempty, small, known⟩ := encodable
  have built : ∃ body, bodyOf codecs settings bytes = some body := by
    unfold bodyOf
    by_cases compressing : settings.compresses bytes.length = true
    · rw [if_pos compressing]
      exact compress_known (known compressing) codecs bytes
    · exact ⟨bytes, if_neg compressing⟩
  obtain ⟨body, built⟩ := built
  exact ⟨bytes, _, body, marshalled, nonempty, if_neg (UInt16.not_lt.mpr small), built⟩

theorem Framed.encode (framed : Framed wire codecs settings message bytes info body) :
    encode wire codecs settings message = .done (.ok (frame settings.netID info body)) := by
  simp [Framing.encode, framed.marshalled, framed.nonempty, framed.info, framed.body]

/-- Under the mutex the QUIC sender gets stuck over every message it could frame. -/
theorem sendQuicMessage_blocks_iff (codecs : Codecs) (sink : Sink) :
    sendQuicMessage wire codecs settings true message sink = .blocks ↔ Encodable wire settings message := by
  constructor
  · intro blocked
    unfold sendQuicMessage at blocked
    split at blocked
    · simp at blocked
    · rename_i bytes marshalled
      split at blocked
      · simp at blocked
      · rename_i nonempty
        split at blocked
        · simp at blocked
        · rename_i body built
          split at blocked
          · simp at blocked
          · rename_i info written
            have framed : Framed wire codecs settings message bytes info body :=
              ⟨marshalled, fun empty => nonempty (by simp [empty]), written, built⟩
            exact framed.encodable
  · intro encodable
    obtain ⟨bytes, info, body, framed⟩ := encodable.framed codecs
    simp [sendQuicMessage, framed.marshalled, framed.nonempty, framed.info, framed.body]

/-- With the mutex free the QUIC sender writes what the stream sender writes. -/
theorem sendQuicMessage_eq_sendMessage (nonempty : wire.marshal message ≠ some []) (sink : Sink) :
    sendQuicMessage wire codecs settings false message sink =
      .of (sendMessage wire codecs settings message sink) := by
  unfold sendQuicMessage sendMessage Framing.encode
  cases marshalled : wire.marshal message with
  | none => rfl
  | some bytes =>
      have long : ¬ bytes.length = 0 := by
        intro short
        rw [marshalled, List.length_eq_zero_iff.mp short] at nonempty
        exact nonempty rfl
      simp only [long, if_false]
      cases bodyOf codecs settings bytes with
      | none => rfl
      | some body =>
          cases genCompressInfo settings bytes.length with
          | panic => rfl
          | done info => rfl

end Frames

def WritesFrame (net : Network) (outbox : Outbox) (peerID : String) (message : Message) : Prop :=
  ∃ after bytes info body, write net outbox peerID message = .returns after ∧ after.error = none ∧
    net.wire.marshal (stamped outbox peerID message) = some bytes ∧
    genCompressInfo net.settings bytes.length = .done info ∧ bodyOf net.codecs net.settings bytes = some body ∧
    (after.outbox.lines peerID).sink.written =
      (outbox.lines peerID).sink.written ++ frame net.settings.netID info body

section WriteFrame

variable {net : Network} {outbox : Outbox} {peerID : String} {message : Message} {conn : Conn} {info : AddressInfo}
  (connected : outbox.reg.connections peerID = some conn)
  (parses : parseAddress net.env.resolver net.env.address = some info)
include connected parses

theorem write_blocks_iff : write net outbox peerID message = .blocks ↔
    transmit net info.protocol conn (stamped outbox peerID message) (outbox.lines peerID).sink = .blocks := by
  simp only [write, connected, parses]
  cases transmit net info.protocol conn (stamped outbox peerID message) (outbox.lines peerID).sink with
  | panics => simp
  | blocks => simp
  | returns sent =>
      simp only [reduceCtorEq, iff_false]
      split <;> simp

theorem write_quic_blocks_iff (isQuic : info.protocol = "quic") :
    write net outbox peerID message = .blocks ↔
      Encodable net.wire net.settings (stamped outbox peerID message) := by
  rw [write_blocks_iff connected parses,
    ← sendQuicMessage_blocks_iff net.codecs (outbox.lines peerID).sink]
  unfold transmit
  rw [isQuic]
  simp only [String.reduceEq, or_self, if_false, if_true]
  split <;> simp_all

theorem write_stream (isStream : info.protocol = "tcp" ∨ info.protocol = "kcp") (suits : conn.kind ≠ .quic)
    (accepts : (outbox.lines peerID).sink.room = none) :
    WritesFrame net outbox peerID message ↔
      Encodable net.wire net.settings (stamped outbox peerID message) := by
  constructor
  · rintro ⟨after, bytes, header, body, wrote, _, marshalled, written, built, _⟩
    by_cases empty : bytes = []
    · -- An empty encoding stops the stream sender.
      subst empty
      simp [write, connected, parses, transmit, isStream, suits, sendMessage, encode, marshalled] at wrote
    · have framed : Framed net.wire net.codecs net.settings (stamped outbox peerID message) bytes header body :=
        ⟨marshalled, empty, written, built⟩
      exact framed.encodable
  · intro encodable
    obtain ⟨bytes, header, body, framed⟩ := encodable.framed net.codecs
    have took : ((outbox.lines peerID).sink.write (frame net.settings.netID header body)).2.1 = false := by
      simp [Sink.write, accepts]
    have wrote := write_of_carries connected parses (.stream isStream suits framed.encode took)
    refine ⟨_, bytes, header, body, wrote, rfl, framed.marshalled, framed.info, framed.body, ?_⟩
    simp [Sink.write, accepts]

theorem write_quic_unframed (isQuic : info.protocol = "quic") : ¬ WritesFrame net outbox peerID message := by
  rintro ⟨after, bytes, header, body, wrote, _, marshalled, written, built, framed⟩
  by_cases empty : bytes = []
  · -- An empty encoding is passed by without an error, and nothing is written.
    subst empty
    simp only [write, connected, parses, transmit, isQuic, String.reduceEq, or_self, if_false, if_true,
      sendQuicMessage, marshalled, List.length_nil, Option.map_none, settle] at wrote
    cases wrote
    have lengths := congrArg List.length framed
    simp [frame] at lengths
  · have stuck := (write_quic_blocks_iff connected parses isQuic).mpr
      (Framed.encodable ⟨marshalled, empty, written, built⟩)
    rw [stuck] at wrote
    simp at wrote

/-- On a node with a stream or a QUIC address, and with a connection of its kind and a
writer that takes everything: `Write` returns without an error and leaves the frame
behind exactly on the stream protocols and for the messages that can be framed. On
QUIC the messages that can be framed are the ones it gets stuck on, although the
sender itself writes the same frame. -/
theorem write_frame_iff (protocols : info.protocol ∈ ["tcp", "kcp", "quic"])
    (suits : closable info.protocol conn = true) (accepts : (outbox.lines peerID).sink.room = none) :
    (WritesFrame net outbox peerID message ↔
      info.protocol ≠ "quic" ∧ Encodable net.wire net.settings (stamped outbox peerID message)) ∧
    (info.protocol = "quic" → (write net outbox peerID message = .blocks ↔
      Encodable net.wire net.settings (stamped outbox peerID message))) ∧
    (∀ sink, net.wire.marshal message ≠ some [] →
      sendQuicMessage net.wire net.codecs net.settings false message sink =
        .of (sendMessage net.wire net.codecs net.settings message sink)) := by
  refine ⟨?_, write_quic_blocks_iff connected parses, fun sink nonempty =>
    sendQuicMessage_eq_sendMessage nonempty sink⟩
  by_cases isQuic : info.protocol = "quic"
  · exact iff_of_false (write_quic_unframed connected parses isQuic) fun both => both.1 isQuic
  · have isStream : info.protocol = "tcp" ∨ info.protocol = "kcp" := by
      simpa [isQuic] using protocols
    have kind : conn.kind ≠ .quic := by
      simpa [closable, isStream] using suits
    rw [write_stream connected parses isStream kind accepts]
    simp [isQuic]

end WriteFrame

def pingNetwork (scheme : String) : Network :=
  { env := { resolver := { localResolver with urlParse := fun _ => some (scheme, "a:1") },
             address := scheme ++ "://a:1", transports := [scheme] }
    wire := pingWire, codecs := pingCodecs, settings := gzipSettings }

def pingOutbox (scheme : String) (kind : ConnKind) : Outbox :=
  { reg := enter emptyRegistry ⟨scheme, "b", 1⟩ (scheme ++ "://b:1") "01" ⟨kind, 0⟩
    lines := fun _ => ⟨⟨[], none⟩, 0⟩ }

theorem ping_encodable : Encodable pingWire gzipSettings pingMessage :=
  ⟨pingBytes, by decide, by decide, by decide, fun _ => by decide⟩

theorem write_frame_iff_tcp : WritesFrame (pingNetwork "tcp") (pingOutbox "tcp" .net) "01" pingMessage := by
  have connected : (pingOutbox "tcp" .net).reg.connections "01" = some ⟨.net, 0⟩ := rfl
  have parses : parseAddress (pingNetwork "tcp").env.resolver (pingNetwork "tcp").env.address =
      some ⟨"tcp", "a", 1⟩ := rfl
  exact (write_frame_iff connected parses (by decide) (by decide) rfl).1.mpr ⟨by decide, ping_encodable⟩

/-- The same message to the same peer: over TCP it is written, over QUIC the call
waits for the mutex it holds. -/
theorem write_quic_waits_for_itself :
    WritesFrame (pingNetwork "tcp") (pingOutbox "tcp" .net) "01" pingMessage ∧
    write (pingNetwork "quic") (pingOutbox "quic" .quic) "01" pingMessage = .blocks ∧
    ¬ WritesFrame (pingNetwork "quic") (pingOutbox "quic" .quic) "01" pingMessage := by
  constructor
  · have connected : (pingOutbox "tcp" .net).reg.connections "01" = some ⟨.net, 0⟩ := rfl
    have parses : parseAddress (pingNetwork "tcp").env.resolver (pingNetwork "tcp").env.address =
        some ⟨"tcp", "a", 1⟩ := rfl
    exact (write_stream connected parses (Or.inl rfl) (by decide) rfl).mpr ping_encodable
  · have connected : (pingOutbox "quic" .quic).reg.connections "01" = some ⟨.quic, 0⟩ := rfl
    have parses : parseAddress (pingNetwork "quic").env.resolver (pingNetwork "quic").env.address =
        some ⟨"quic", "a", 1⟩ := rfl
    exact ⟨rfl, write_quic_unframed connected parses rfl⟩

end Carrier.Writing

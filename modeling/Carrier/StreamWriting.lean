import Carrier.Writing

/-! `Network.StreamWrite` and the goroutines of `loopStreamSend`. A stream message
gets its nonce when it is put into the queue of its client; its frame is written
later, by a goroutine of its own, under the mutex that `Write` uses too. -/
namespace Carrier.StreamWriting

open GoRuntime Identity Address Compression Framing Datagram ConnMgr AcceptLoops RegistryOps Writing
  TransitionSystem

/-- The connection, the writer and the mutex of an item are those of the state
registered under its key. -/
structure StreamSendItem where
  conn : Conn
  message : Message
  peerID : String
  streamID : String
  deriving DecidableEq, Repr

structure Mailbox where
  outbox : Outbox
  queues : ClientRef → List StreamSendItem

def Mailbox.enqueue (mailbox : Mailbox) (ref : ClientRef) (item : StreamSendItem) : Mailbox :=
  { mailbox with queues := Function.update mailbox.queues ref (mailbox.queues ref ++ [item]) }

structure StreamWritten where
  mailbox : Mailbox
  error : Option WriteError

def numbered (outbox : Outbox) (peerID : String) : Outbox :=
  { outbox with
    lines := Function.update outbox.lines peerID
      ⟨(outbox.lines peerID).sink, (outbox.lines peerID).messageNonce + 1⟩ }

def streamItem (outbox : Outbox) (conn : Conn) (streamID peerID : String) (message : Message) : StreamSendItem :=
  ⟨conn, stamped outbox peerID message, peerID, streamID⟩

/-- `StreamWrite`. A client that is not there is logged only. A full queue makes the
call wait until `loopStreamSend` takes an item. -/
def streamWrite (net : Network) (streamQueueLen : Nat) (mailbox : Mailbox) (streamID peerID : String)
    (message : Message) : Progress StreamWritten :=
  match mailbox.outbox.reg.connections peerID with
  | none => .returns ⟨mailbox, some .missing⟩
  | some conn =>
      match parseAddress net.env.resolver net.env.address with
      -- `log.Fatal`
      | none => .panics
      | some info =>
          let next := { mailbox with outbox := numbered mailbox.outbox peerID }
          if info.protocol = "tcp" ∨ info.protocol = "kcp" then
            if conn.kind = .quic then .returns ⟨next, some .nilConnection⟩
            else match mailbox.outbox.reg.peers peerID with
              | none => .returns ⟨next, none⟩
              | some ref =>
                  if (mailbox.queues ref).length < streamQueueLen then
                    .returns ⟨next.enqueue ref (streamItem mailbox.outbox conn streamID peerID message), none⟩
                  else .blocks
          else .returns ⟨next, none⟩

/-! What a nil error says. -/

/-- Without an error, the writer of the connection has taken the whole encoding of
the message for the node's protocol. -/
def WriteReports (net : Network) (outbox : Outbox) (peerID : String) (message : Message) : Prop :=
  ∀ after, write net outbox peerID message = .returns after → after.error = none →
    ∃ conn info bytes, outbox.reg.connections peerID = some conn ∧
      parseAddress net.env.resolver net.env.address = some info ∧
      Carries net info.protocol conn (stamped outbox peerID message) (outbox.lines peerID).sink bytes ∧
      after.handed = some (conn, bytes)

/-- Without an error, the item is at the end of the queue of the peer's client. -/
def StreamWriteReports (net : Network) (streamQueueLen : Nat) (mailbox : Mailbox) (streamID peerID : String)
    (message : Message) : Prop :=
  ∀ after, streamWrite net streamQueueLen mailbox streamID peerID message = .returns after →
    after.error = none →
    ∃ conn ref, mailbox.outbox.reg.connections peerID = some conn ∧
      mailbox.outbox.reg.peers peerID = some ref ∧
      after.mailbox.queues ref =
        mailbox.queues ref ++ [streamItem mailbox.outbox conn streamID peerID message]

/-- The protocols whose sender reports what it did not send. Over UDP the packet has
to be built and written, and QUIC passes by an empty encoding. -/
def Accounts (net : Network) (protocol : String) (conn : Conn) (message : Message) (sink : Sink) : Prop :=
  (protocol = "tcp" ∨ protocol = "kcp") ∨
  (protocol = "udp" ∧ ∃ bytes, buildRawContent net.wire message = some bytes ∧
    (conn.kind = .udp → (sink.write bytes).2.1 = false)) ∨
  (protocol = "quic" ∧ net.wire.marshal message ≠ some [])

section Transmit

variable {net : Network} {protocol : String} {conn : Conn} {message : Message} {sink : Sink}

theorem transmit_stream_handed (isStream : protocol = "tcp" ∨ protocol = "kcp") {sent : Transmitted}
    (transmitted : transmit net protocol conn message sink = .returns sent) (clean : sent.error = none) :
    sent.handed ≠ none := by
  rcases transmit_stream_cases isStream transmitted with ⟨error, _⟩ | ⟨buffer, _, _, _, handed⟩
  · exact absurd clean error
  · rw [handed]
    exact Option.some_ne_none buffer

theorem transmit_udp_handed (isUdp : protocol = "udp") :
    (∀ sent, transmit net protocol conn message sink = .returns sent → sent.error = none →
      sent.handed ≠ none) ↔
    ∃ bytes, buildRawContent net.wire message = some bytes ∧
      (conn.kind = .udp → (sink.write bytes).2.1 = false) := by
  subst isUdp
  simp only [transmit, String.reduceEq, or_self, if_false, if_true, sendUDPMessage]
  cases built : buildRawContent net.wire message with
  | none => simp
  | some buffer =>
      by_cases suits : conn.kind = .udp
      · cases failed : (sink.write buffer).2.1 <;> simp [suits, failed]
      · simp [suits]

theorem transmit_quic_handed (isQuic : protocol = "quic") :
    (∀ sent, transmit net protocol conn message sink = .returns sent → sent.error = none →
      sent.handed ≠ none) ↔ net.wire.marshal message ≠ some [] := by
  subst isQuic
  simp only [transmit, String.reduceEq, or_self, if_false, if_true, sendQuicMessage]
  cases marshalled : net.wire.marshal message with
  | none => simp
  | some bytes =>
      by_cases empty : bytes = []
      · simp [empty]
      · have long : ¬ bytes.length = 0 := fun short => empty (List.length_eq_zero_iff.mp short)
        simp only [long, if_false, ne_eq, Option.some.injEq, empty, not_false_eq_true, iff_true]
        cases bodyOf net.codecs net.settings bytes with
        | none => simp
        | some body =>
            cases genCompressInfo net.settings bytes.length <;> simp

theorem transmit_accounts_iff :
    (∀ sent, transmit net protocol conn message sink = .returns sent → sent.error = none →
      sent.handed ≠ none) ↔ Accounts net protocol conn message sink := by
  by_cases isStream : protocol = "tcp" ∨ protocol = "kcp"
  · exact iff_of_true (fun sent => transmit_stream_handed isStream) (Or.inl isStream)
  · by_cases isUdp : protocol = "udp"
    · rw [transmit_udp_handed isUdp]
      simp [Accounts, isUdp]
    · by_cases isQuic : protocol = "quic"
      · rw [transmit_quic_handed isQuic]
        simp [Accounts, isQuic]
      · simp [Accounts, transmit, isStream, isUdp, isQuic]

end Transmit

theorem write_of_clean {net : Network} {outbox : Outbox} {peerID : String} {message : Message} {conn : Conn}
    {info : AddressInfo} {sent : Transmitted} (connected : outbox.reg.connections peerID = some conn)
    (parses : parseAddress net.env.resolver net.env.address = some info)
    (transmitted : transmit net info.protocol conn (stamped outbox peerID message)
      (outbox.lines peerID).sink = .returns sent) (clean : sent.error = none) :
    write net outbox peerID message =
      .returns ⟨sentOn outbox peerID sent, none, sent.handed.map fun bytes => (conn, bytes)⟩ := by
  simp [write, connected, parses, transmitted, clean, settle, sentOn]

theorem writeReports_iff (net : Network) (outbox : Outbox) (peerID : String) (message : Message) :
    WriteReports net outbox peerID message ↔
      ∀ conn info, outbox.reg.connections peerID = some conn →
        parseAddress net.env.resolver net.env.address = some info →
        Accounts net info.protocol conn (stamped outbox peerID message) (outbox.lines peerID).sink := by
  constructor
  · intro reports conn info connected parses
    apply transmit_accounts_iff.mp
    intro sent transmitted clean nothing
    obtain ⟨_, _, _, _, _, _, given⟩ :=
      reports _ (write_of_clean connected parses transmitted clean) rfl
    simp [nothing] at given
  · intro accounts after wrote clean
    rcases write_returns wrote with ⟨_, same⟩ | ⟨conn, info, sent, connected, parses, transmitted, _, error, given⟩
    · rw [same] at clean
      simp at clean
    · have honest := transmit_accounts_iff.mpr (accounts conn info connected parses)
      obtain ⟨bytes, handed⟩ := Option.ne_none_iff_exists'.mp
        (honest sent transmitted (error.symm.trans clean))
      refine ⟨conn, info, bytes, connected, parses, carries_of_transmit transmitted handed, ?_⟩
      simp [given, handed]

/-- `StreamWrite` can tell only where a client of the key takes the item. -/
theorem streamWriteReports_iff (net : Network) (streamQueueLen : Nat) (mailbox : Mailbox)
    (streamID peerID : String) (message : Message) :
    StreamWriteReports net streamQueueLen mailbox streamID peerID message ↔
      ∀ conn info, mailbox.outbox.reg.connections peerID = some conn →
        parseAddress net.env.resolver net.env.address = some info →
        (info.protocol = "tcp" ∨ info.protocol = "kcp") ∧
          (conn.kind ≠ .quic → mailbox.outbox.reg.peers peerID ≠ none) := by
  constructor
  · intro reports conn info connected parses
    by_cases isStream : info.protocol = "tcp" ∨ info.protocol = "kcp"
    · refine ⟨isStream, fun suits absent => ?_⟩
      have returned : streamWrite net streamQueueLen mailbox streamID peerID message =
          .returns ⟨{ mailbox with outbox := numbered mailbox.outbox peerID }, none⟩ := by
        simp [streamWrite, connected, parses, isStream, suits, absent]
      obtain ⟨_, ref, _, found, _⟩ := reports _ returned rfl
      simp [absent] at found
    · have returned : streamWrite net streamQueueLen mailbox streamID peerID message =
          .returns ⟨{ mailbox with outbox := numbered mailbox.outbox peerID }, none⟩ := by
        simp [streamWrite, connected, parses, isStream]
      obtain ⟨_, ref, _, _, queued⟩ := reports _ returned rfl
      have longer := congrArg List.length queued
      simp at longer
  · intro told after wrote clean
    cases connected : mailbox.outbox.reg.connections peerID with
    | none =>
        simp only [streamWrite, connected] at wrote
        cases wrote
        simp at clean
    | some conn =>
        cases parses : parseAddress net.env.resolver net.env.address with
        | none => simp [streamWrite, connected, parses] at wrote
        | some info =>
            obtain ⟨isStream, present⟩ := told conn info connected parses
            simp only [streamWrite, connected, parses, isStream, if_true] at wrote
            split at wrote
            · cases wrote
              simp at clean
            · rename_i suits
              cases found : mailbox.outbox.reg.peers peerID with
              | none => exact absurd found (present suits)
              | some ref =>
                  simp only [found] at wrote
                  split at wrote
                  · cases wrote
                    exact ⟨conn, ref, rfl, rfl, by simp [Mailbox.enqueue]⟩
                  · simp at wrote

/-- When the two calls tell the truth. Both have nothing to say about a node whose
protocol they do not know, `StreamWrite` about all but the stream protocols. -/
theorem nil_error_iff (net : Network) (streamQueueLen : Nat) (mailbox : Mailbox) (streamID peerID : String)
    (message : Message) :
    (WriteReports net mailbox.outbox peerID message ↔
      ∀ conn info, mailbox.outbox.reg.connections peerID = some conn →
        parseAddress net.env.resolver net.env.address = some info →
        Accounts net info.protocol conn (stamped mailbox.outbox peerID message)
          (mailbox.outbox.lines peerID).sink) ∧
    (StreamWriteReports net streamQueueLen mailbox streamID peerID message ↔
      ∀ conn info, mailbox.outbox.reg.connections peerID = some conn →
        parseAddress net.env.resolver net.env.address = some info →
        (info.protocol = "tcp" ∨ info.protocol = "kcp") ∧
          (conn.kind ≠ .quic → mailbox.outbox.reg.peers peerID ≠ none)) :=
  ⟨writeReports_iff net mailbox.outbox peerID message,
    streamWriteReports_iff net streamQueueLen mailbox streamID peerID message⟩

def pingMailbox (scheme : String) (kind : ConnKind) : Mailbox := ⟨pingOutbox scheme kind, fun _ => []⟩

theorem nil_error_iff_tcp :
    WriteReports (pingNetwork "tcp") (pingOutbox "tcp" .net) "01" pingMessage ∧
    StreamWriteReports (pingNetwork "tcp") 1 (pingMailbox "tcp" .net) "tcp://b:1:1" "01" pingMessage := by
  have parses : parseAddress (pingNetwork "tcp").env.resolver (pingNetwork "tcp").env.address =
      some ⟨"tcp", "a", 1⟩ := rfl
  obtain ⟨wrote, streamed⟩ :=
    nil_error_iff (pingNetwork "tcp") 1 (pingMailbox "tcp" .net) "tcp://b:1:1" "01" pingMessage
  constructor
  · apply wrote.mpr
    intro conn info _ parsed
    cases parses.symm.trans parsed
    exact Or.inl (Or.inl rfl)
  · apply streamed.mpr
    intro conn info _ parsed
    cases parses.symm.trans parsed
    refine ⟨Or.inl rfl, fun _ => ?_⟩
    have client : (pingMailbox "tcp" .net).outbox.reg.peers "01" = some 0 := rfl
    rw [client]
    simp

theorem transmit_udp_unbuilt {net : Network} {conn : Conn} {message : Message} {sink : Sink}
    (unbuilt : buildRawContent net.wire message = none) :
    transmit net "udp" conn message sink = .returns ⟨none, sink, none⟩ := by
  simp [transmit, sendUDPMessage, unbuilt]

def largeMessage : Message := { pingMessage with message := List.replicate maxPackageSize 0 }

def plainNetwork (scheme : String) : Network := { pingNetwork scheme with settings := plainSettings }

theorem plainNetwork_unbuilt (scheme : String) {message : Message}
    (large : maxPackageSize ≤ message.message.length) :
    buildRawContent (plainNetwork scheme).wire message = none := by
  apply if_pos
  have whole := marshalMessage_length message
  rw [List.length_append, BigEndian.put_length, show storePackageRealSize = 2 from rfl]
  omega

/-- Over UDP the packet cannot be built and `Write` returns nil; `StreamWrite` returns
nil and has no queue to put the message into. -/
theorem udp_drops_silently :
    (∃ after, write (plainNetwork "udp") (pingOutbox "udp" .udp) "01" largeMessage = .returns after ∧
      after.error = none ∧ after.handed = none) ∧
    ∃ after, streamWrite (plainNetwork "udp") 1 (pingMailbox "udp" .udp) "udp://b:1:1" "01" largeMessage =
      .returns after ∧ after.error = none ∧ ∀ ref, after.mailbox.queues ref = [] := by
  have connected : (pingOutbox "udp" .udp).reg.connections "01" = some ⟨.udp, 0⟩ := rfl
  have parses : parseAddress (plainNetwork "udp").env.resolver (plainNetwork "udp").env.address =
      some ⟨"udp", "a", 1⟩ := rfl
  constructor
  · have unbuilt : buildRawContent (plainNetwork "udp").wire (stamped (pingOutbox "udp" .udp) "01" largeMessage) =
        none :=
      plainNetwork_unbuilt "udp" (Nat.le_of_eq List.length_replicate.symm)
    exact ⟨_, write_of_clean connected parses (transmit_udp_unbuilt unbuilt) rfl, rfl, rfl⟩
  · have returned : streamWrite (plainNetwork "udp") 1 (pingMailbox "udp" .udp) "udp://b:1:1" "01" largeMessage =
        .returns ⟨⟨numbered (pingOutbox "udp" .udp) "01", fun _ => []⟩, none⟩ := by
      simp [streamWrite, pingMailbox, connected, parses]
    exact ⟨_, returned, rfl, fun _ => rfl⟩

/-! The numbers on one stream connection. The steps are what a goroutine does while
it holds a mutex, and what `loopStreamSend` does with the queue. The counter, the writer
and the mutex belong to a `ConnState`, and a connection that is registered under several
keys, or again, has several of them. -/

/-- A message in a queue, with the `ConnState` whose writer and mutex it takes along. -/
structure Queued where
  state : Nat
  item : StreamSendItem
  deriving DecidableEq, Repr

def Queued.number (queued : Queued) : UInt64 := queued.item.message.messageNonce

/-- The states of the connection, the messages its clients have queued, the goroutines
that wait for a mutex, and the numbers of the frames written so far. -/
structure Channel where
  lines : Nat → Line
  queues : ClientRef → List Queued
  goroutines : List Queued
  frames : List UInt64

/-- Calls of `Write` and `StreamWrite` that find a state of the connection, the latter
with or without a client to queue the message for; `loopStreamSend` of a client takes an
item and finds its stream or not; a goroutine has the mutex, and `found` is what it sees
of its stream: nothing, so that it gives up, or what `streamSendMessage` then finds in the
maps. -/
inductive Event where
  | write (state : Nat) (message : Message)
  | streamWrite (state : Nat) (client : ClientRef) (conn : Conn) (peerID streamID : String) (message : Message)
  | streamWriteUnqueued (state : Nat)
  | take (client : ClientRef) (streamExist : Bool)
  | send (index : Nat) (found : Option StreamLookup)

def Event.Uses (state : Nat) : Event → Prop
  | .write used _ | .streamWrite used _ _ _ _ _ | .streamWriteUnqueued used => used = state
  | .take _ _ | .send _ _ => True

namespace Channel

def counters (channel : Channel) (state : Nat) : UInt64 := (channel.lines state).messageNonce

def nextNonce (channel : Channel) (state : Nat) : UInt64 := channel.counters state + 1

def Waits (channel : Channel) (queued : Queued) : Prop :=
  queued ∈ channel.goroutines ∨ ∃ client, queued ∈ channel.queues client

def complete (nonce : UInt64) : Option SendError → List UInt64
  | none => [nonce]
  | some _ => []

def setLine (channel : Channel) (state : Nat) (line : Line) : Channel :=
  { channel with lines := Function.update channel.lines state line }

/-- A call that panics ends the run. The bound of the queue is left out: it only
delays a `StreamWrite`. -/
def step (net : Network) (channel : Channel) : Event → Option Channel
  | .write state message =>
      match sendMessage net.wire net.codecs net.settings { message with messageNonce := channel.nextNonce state }
          (channel.lines state).sink with
      | .panic => none
      | .done (error, sink) => some { channel.setLine state ⟨sink, channel.nextNonce state⟩ with
          frames := channel.frames ++ complete (channel.nextNonce state) error }
  | .streamWrite state client conn peerID streamID message =>
      some { channel.setLine state ⟨(channel.lines state).sink, channel.nextNonce state⟩ with
        queues := Function.update channel.queues client (channel.queues client ++
          [⟨state, ⟨conn, { message with messageNonce := channel.nextNonce state }, peerID, streamID⟩⟩]) }
  | .streamWriteUnqueued state =>
      some (channel.setLine state ⟨(channel.lines state).sink, channel.nextNonce state⟩)
  | .take client streamExist =>
      match channel.queues client with
      | [] => none
      | queued :: rest => some { channel with
          queues := Function.update channel.queues client rest
          goroutines := if streamExist then channel.goroutines ++ [queued] else channel.goroutines }
  | .send index found =>
      match channel.goroutines[index]? with
      | none => none
      | some queued =>
          let left := { channel with goroutines := channel.goroutines.eraseIdx index }
          match found with
          | none => some left
          | some found =>
              match streamSendMessage net.wire net.codecs net.settings queued.item.message found
                  (channel.lines queued.state).sink with
              | .panic => none
              | .done (error, sink) => some { left.setLine queued.state ⟨sink, channel.counters queued.state⟩ with
                  frames := channel.frames ++ complete queued.number error }

inductive Moves (state : Nat) (channel next : Channel) : Prop where
  | writes (error : Option SendError) :
      next.counters = Function.update channel.counters state (channel.nextNonce state) →
      next.frames = channel.frames ++ complete (channel.nextNonce state) error →
      (∀ queued, next.Waits queued ↔ channel.Waits queued) → Moves state channel next
  | skips : next.counters = Function.update channel.counters state (channel.nextNonce state) →
      next.frames = channel.frames → (∀ queued, next.Waits queued → channel.Waits queued) →
      Moves state channel next
  | queues (added : Queued) :
      next.counters = Function.update channel.counters state (channel.nextNonce state) →
      next.frames = channel.frames → added.number = channel.nextNonce state →
      (∀ queued, next.Waits queued → channel.Waits queued ∨ queued = added) → Moves state channel next
  | passes : next.counters = channel.counters → next.frames = channel.frames →
      (∀ queued, next.Waits queued → channel.Waits queued) → Moves state channel next
  | sends (sent : Queued) (error : Option SendError) : next.counters = channel.counters → channel.Waits sent →
      next.frames = channel.frames ++ complete sent.number error →
      (∀ queued, next.Waits queued → channel.Waits queued) → Moves state channel next

theorem counters_setLine (channel : Channel) (state : Nat) (line : Line) :
    (channel.setLine state line).counters = Function.update channel.counters state line.messageNonce := by
  funext other
  by_cases same : other = state
  · subst same
    simp [counters, setLine]
  · simp [counters, setLine, same]

theorem waits_take {channel : Channel} {client : ClientRef} {first : Queued} {rest : List Queued}
    (front : channel.queues client = first :: rest) (streamExist : Bool) {queued : Queued}
    (waits : Waits { channel with
      queues := Function.update channel.queues client rest
      goroutines := if streamExist then channel.goroutines ++ [first] else channel.goroutines } queued) :
    channel.Waits queued := by
  rcases waits with running | ⟨other, member⟩
  · cases streamExist with
    | false => exact Or.inl running
    | true =>
        rcases List.mem_append.mp running with old | new
        · exact Or.inl old
        · refine Or.inr ⟨client, ?_⟩
          rw [front, List.mem_singleton.mp new]
          exact List.mem_cons_self
  · refine Or.inr ⟨other, ?_⟩
    by_cases same : other = client
    · subst same
      simp only [Function.update_self] at member
      rw [front]
      exact List.mem_cons_of_mem first member
    · simpa [same] using member

theorem step_moves {net : Network} {state : Nat} {channel next : Channel} {event : Event}
    (stepped : channel.step net event = some next) (uses : event.Uses state) : Moves state channel next := by
  cases event with
  | write used message =>
      obtain rfl : used = state := uses
      simp only [step] at stepped
      split at stepped
      · simp at stepped
      · rename_i error sink sent
        cases stepped
        exact .writes error (counters_setLine channel used _) rfl fun queued => Iff.rfl
  | streamWrite used client conn peerID streamID message =>
      obtain rfl : used = state := uses
      cases stepped
      refine .queues ⟨used, ⟨conn, { message with messageNonce := channel.nextNonce used }, peerID, streamID⟩⟩
        (counters_setLine channel used _) rfl rfl ?_
      rintro queued (running | ⟨other, member⟩)
      · exact Or.inl (Or.inl running)
      · by_cases same : other = client
        · subst same
          simp only [Function.update_self, List.mem_append, List.mem_singleton] at member
          exact member.imp (fun old => Or.inr ⟨other, old⟩) id
        · exact Or.inl (Or.inr ⟨other, by simpa [same] using member⟩)
  | streamWriteUnqueued used =>
      obtain rfl : used = state := uses
      cases stepped
      exact .skips (counters_setLine channel used _) rfl fun queued => id
  | take client streamExist =>
      cases front : channel.queues client with
      | nil => simp [step, front] at stepped
      | cons first rest =>
          simp only [step, front, Option.some.injEq] at stepped
          subst stepped
          exact .passes rfl rfl fun queued => waits_take front streamExist
  | send index found =>
      cases running : channel.goroutines[index]? with
      | none => simp [step, running] at stepped
      | some sent =>
          have rest : ∀ queued, queued ∈ channel.goroutines.eraseIdx index ∨
              (∃ client, queued ∈ channel.queues client) → channel.Waits queued :=
            fun queued => Or.imp List.mem_of_mem_eraseIdx id
          simp only [step, running] at stepped
          cases found with
          | none =>
              cases stepped
              exact .passes rfl rfl rest
          | some lookup =>
              simp only at stepped
              split at stepped
              · simp at stepped
              · rename_i error sink wrote
                cases stepped
                refine .sends sent error ?_ (Or.inl (List.mem_of_getElem? running)) rfl rest
                exact (counters_setLine _ sent.state _).trans (Function.update_eq_self sent.state channel.counters)

/-- The numbers so far increase, and none of the messages that still wait has been
overtaken: writing it would break the order. -/
structure InOrder (channel : Channel) : Prop where
  frames : channel.frames.Pairwise (· < ·)
  waiting : ∀ queued, channel.Waits queued → ∀ nonce ∈ channel.frames, nonce < queued.number

/-- Every number is one that the counter of the state has passed, and the other states
have not been used. -/
structure Counted (state : Nat) (channel : Channel) : Prop where
  frames : ∀ nonce ∈ channel.frames, 0 < nonce ∧ nonce ≤ channel.counters state
  waiting : ∀ queued, channel.Waits queued → 0 < queued.number ∧ queued.number ≤ channel.counters state
  others : ∀ other, other ≠ state → channel.counters other = 0

/-- A frame that this step completes overtakes no waiting message. -/
def Orderly (channel next : Channel) : Prop :=
  ∀ nonce, next.frames = channel.frames ++ [nonce] → ∀ queued, next.Waits queued → nonce < queued.number

def Countable (state : Nat) (channel : Channel) : Prop := channel.counters state < channel.nextNonce state

instance (state : Nat) (channel : Channel) : Decidable (Countable state channel) := inferInstanceAs (Decidable (_ < _))

theorem mem_completed {frames : List UInt64} {number nonce : UInt64} {error : Option SendError}
    (member : nonce ∈ frames ++ complete number error) : nonce ∈ frames ∨ nonce = number := by
  cases error with
  | none => simpa [complete] using member
  | some error => exact Or.inl (by simpa [complete] using member)

/-- A call raises the counter of its own state only, and gives no other number than the new one. -/
theorem counted_raised {state : Nat} {channel next : Channel} (countable : Countable state channel)
    (counted : Counted state channel)
    (counter : next.counters = Function.update channel.counters state (channel.nextNonce state))
    (frames : ∀ nonce ∈ next.frames, nonce ∈ channel.frames ∨ nonce = channel.nextNonce state)
    (waiting : ∀ queued, next.Waits queued → channel.Waits queued ∨ queued.number = channel.nextNonce state) :
    Counted state next := by
  have own : next.counters state = channel.nextNonce state := by rw [counter, Function.update_self]
  have grown : ∀ nonce : UInt64, 0 < nonce ∧ nonce ≤ channel.counters state →
      0 < nonce ∧ nonce ≤ channel.nextNonce state :=
    fun _ bound => ⟨bound.1, UInt64.le_trans bound.2 (UInt64.le_of_lt countable)⟩
  have newest : 0 < channel.nextNonce state ∧ channel.nextNonce state ≤ channel.nextNonce state :=
    ⟨UInt64.lt_of_le_of_lt (UInt64.le_iff_toNat_le.mpr (Nat.zero_le _)) countable, UInt64.le_refl _⟩
  refine ⟨fun nonce member => ?_, fun queued waits => ?_, fun other different => ?_⟩
  · rw [own]
    rcases frames nonce member with old | new
    · exact grown nonce (counted.frames nonce old)
    · exact new ▸ newest
  · rw [own]
    rcases waiting queued waits with old | new
    · exact grown _ (counted.waiting queued old)
    · exact new ▸ newest
  · rw [counter, Function.update_of_ne different, counted.others other different]

theorem counted_moves {state : Nat} {channel next : Channel} (moves : Moves state channel next)
    (countable : Countable state channel) (counted : Counted state channel) : Counted state next := by
  cases moves with
  | writes error counter frames waiting =>
      refine counted_raised countable counted counter (fun nonce member => ?_)
        fun queued waits => .inl ((waiting queued).mp waits)
      rw [frames] at member
      exact mem_completed member
  | skips counter frames waiting =>
      exact counted_raised countable counted counter (fun nonce member => .inl (frames ▸ member))
        fun queued waits => .inl (waiting queued waits)
  | queues added counter frames number waiting =>
      refine counted_raised countable counted counter (fun nonce member => .inl (frames ▸ member))
        fun queued waits => ?_
      rcases waiting queued waits with old | rfl
      · exact .inl old
      · exact .inr number
  | passes counter frames waiting =>
      refine ⟨?_, ?_, counter ▸ counted.others⟩
      · rw [frames, counter]
        exact counted.frames
      · rw [counter]
        exact fun queued waits => counted.waiting queued (waiting queued waits)
  | sends sent error counter present frames waiting =>
      refine ⟨fun nonce member => ?_, ?_, counter ▸ counted.others⟩
      · rw [frames] at member
        rw [counter]
        rcases mem_completed member with old | new
        · exact counted.frames nonce old
        · exact new ▸ counted.waiting sent present
      · rw [counter]
        exact fun queued waits => counted.waiting queued (waiting queued waits)

theorem inOrder_completed {channel next : Channel} {number : UInt64} {error : Option SendError}
    (order : InOrder channel) (orderly : Orderly channel next)
    (frames : next.frames = channel.frames ++ complete number error)
    (above : ∀ nonce ∈ channel.frames, nonce < number)
    (waiting : ∀ queued, next.Waits queued → channel.Waits queued) : InOrder next := by
  have ahead : ∀ queued, next.Waits queued → ∀ nonce ∈ channel.frames, nonce < queued.number :=
    fun queued waits => order.waiting queued (waiting queued waits)
  cases error with
  | some error =>
      have same : next.frames = channel.frames := by simpa [complete] using frames
      exact ⟨same ▸ order.frames, same ▸ ahead⟩
  | none =>
      have longer : next.frames = channel.frames ++ [number] := frames
      constructor
      · rw [longer]
        exact List.pairwise_append.mpr ⟨order.frames, List.pairwise_singleton _ _,
          fun nonce member last same => List.mem_singleton.mp same ▸ above nonce member⟩
      · intro queued waits nonce written
        rw [longer] at written
        rcases List.mem_append.mp written with old | new
        · exact ahead queued waits nonce old
        · exact List.mem_singleton.mp new ▸ orderly number longer queued waits

theorem inOrder_moves_iff {state : Nat} {channel next : Channel} (moves : Moves state channel next)
    (countable : Countable state channel) (counted : Counted state channel) (order : InOrder channel) :
    InOrder next ↔ Orderly channel next := by
  have fresh : ∀ nonce ∈ channel.frames, nonce < channel.nextNonce state :=
    fun nonce member => UInt64.lt_of_le_of_lt (counted.frames nonce member).2 countable
  constructor
  · intro after nonce frames queued waits
    apply after.waiting queued waits
    rw [frames]
    exact List.mem_append_right _ (List.mem_singleton_self nonce)
  · intro orderly
    cases moves with
    | writes error counter frames waiting =>
        exact inOrder_completed order orderly frames fresh fun queued => (waiting queued).mp
    | skips counter frames waiting | passes counter frames waiting =>
        exact ⟨frames ▸ order.frames, fun queued waits => frames ▸ order.waiting queued (waiting queued waits)⟩
    | queues added counter frames number waiting =>
        refine ⟨frames ▸ order.frames, fun queued waits nonce written => ?_⟩
        rw [frames] at written
        rcases waiting queued waits with old | rfl
        · exact order.waiting queued old nonce written
        · rw [number]
          exact fresh nonce written
    | sends sent error counter present frames waiting =>
        exact inOrder_completed order orderly frames (order.waiting sent present) waiting

theorem step_write {net : Network} {state : Nat} {channel next : Channel} {message : Message}
    (stepped : channel.step net (.write state message) = some next) (wrote : next.frames ≠ channel.frames) :
    next.frames = channel.frames ++ [channel.nextNonce state] ∧ ∀ queued, next.Waits queued ↔ channel.Waits queued := by
  simp only [step] at stepped
  split at stepped
  · simp at stepped
  · rename_i error sink sent
    cases stepped
    cases error with
    | some error => simp [complete] at wrote
    | none => exact ⟨rfl, fun queued => Iff.rfl⟩

/-- Every waiting message is older than a frame that `Write` has just numbered. -/
theorem orderly_write_iff {net : Network} {state : Nat} {channel next : Channel} {message : Message}
    (counted : Counted state channel) (countable : Countable state channel)
    (stepped : channel.step net (.write state message) = some next) (wrote : next.frames ≠ channel.frames) :
    Orderly channel next ↔ ∀ queued, ¬ channel.Waits queued := by
  obtain ⟨frames, waiting⟩ := step_write stepped wrote
  constructor
  · intro orderly queued waits
    have older := UInt64.lt_of_le_of_lt (counted.waiting queued waits).2 countable
    exact UInt64.lt_asymm older (orderly _ frames queued ((waiting queued).mpr waits))
  · intro nobody nonce _ queued waits
    exact absurd ((waiting queued).mp waits) (nobody queued)

/-- Another state of the connection begins to count at one again. -/
theorem other_state_repeats {net : Network} {state other : Nat} {channel next : Channel} {message : Message}
    (counted : Counted state channel) (different : other ≠ state)
    (stepped : channel.step net (.write other message) = some next) (wrote : next.frames ≠ channel.frames)
    (before : channel.frames ≠ []) : ¬ next.frames.Pairwise (· < ·) := by
  obtain ⟨first, member⟩ := List.exists_mem_of_ne_nil _ before
  obtain ⟨frames, _⟩ := step_write stepped wrote
  have one : channel.nextNonce other = 1 := by simp [nextNonce, counted.others other different]
  intro increasing
  rw [frames, one] at increasing
  have below : first < 1 := (List.pairwise_append.mp increasing).2.2 first member 1 (List.mem_singleton_self 1)
  have positive := (counted.frames first member).1
  rw [UInt64.lt_iff_toNat_lt] at below positive
  simp at below positive
  omega

def fresh (sinks : Nat → Sink) : Channel := ⟨fun state => ⟨sinks state, 0⟩, fun _ => [], [], []⟩

/-- The numbers increase as long as all calls go by one state of the connection, every
frame is written before all messages with higher numbers and the counter does not wrap
around: a `Write` puts its frame on the wire only when no stream message waits, and of
the stream messages the oldest one goes first. A `Write` by another state that completes
a frame breaks the order. -/
theorem frames_increase_while_orderly {net : Network} {sinks : Nat → Sink} {state : Nat} {events : List Event}
    {channel : Channel}
    (run : Run (fun channel event next => channel.step net event = some next ∧ event.Uses state ∧
      Countable state channel ∧ Orderly channel next) (fresh sinks) events channel) :
    channel.frames.Pairwise (· < ·) ∧
      (∀ event next, channel.step net event = some next → event.Uses state → Countable state channel →
        (InOrder next ↔ Orderly channel next)) ∧
      (∀ message next, channel.step net (.write state message) = some next → Countable state channel →
        next.frames ≠ channel.frames → (Orderly channel next ↔ ∀ queued, ¬ channel.Waits queued)) ∧
      ∀ other message next, other ≠ state → channel.step net (.write other message) = some next →
        next.frames ≠ channel.frames → channel.frames ≠ [] → ¬ next.frames.Pairwise (· < ·) := by
  obtain ⟨counted, order⟩ : Counted state channel ∧ InOrder channel :=
    run.invariant (fun channel => Counted state channel ∧ InOrder channel)
      (fun _ _ _ ⟨stepped, uses, countable, orderly⟩ kept =>
        ⟨counted_moves (step_moves stepped uses) countable kept.1,
          (inOrder_moves_iff (step_moves stepped uses) countable kept.1 kept.2).mpr orderly⟩)
      ⟨⟨by simp [fresh], by simp [fresh, Waits], fun _ _ => rfl⟩, ⟨by simp [fresh], by simp [fresh]⟩⟩
  exact ⟨order.frames,
    fun event next stepped uses countable => inOrder_moves_iff (step_moves stepped uses) countable counted order,
    fun message next stepped countable => orderly_write_iff counted countable stepped,
    fun other message next different stepped => other_state_repeats counted different stepped⟩

/-- Two stream messages and then a `Write`, in the order of their numbers. -/
def inTurn : List Event :=
  [.streamWrite 0 0 ⟨.net, 0⟩ "01" "tcp://b:1:1" pingMessage,
    .streamWrite 0 0 ⟨.net, 0⟩ "01" "tcp://b:1:1" pingMessage,
    .take 0 true, .take 0 true, .send 0 (some .opened), .send 0 (some .opened), .write 0 pingMessage]

theorem orderly_of_quiet {channel next : Channel} (quiet : next.frames = channel.frames) : Orderly channel next := by
  intro nonce frames
  simp [quiet] at frames

theorem orderly_of_drained {channel next : Channel} {number : UInt64} (drained : ∀ client, next.queues client = [])
    (frames : next.frames = channel.frames ++ [number])
    (ahead : ∀ queued ∈ next.goroutines, number < queued.number) : Orderly channel next := by
  intro nonce written queued waits
  obtain rfl : number = nonce := by simpa using frames.symm.trans written
  rcases waits with running | ⟨client, member⟩
  · exact ahead queued running
  · simp [drained client] at member

theorem frames_increase_in_turn :
    ∃ channel, Run (fun channel event next => channel.step (plainNetwork "tcp") event = some next)
        (fresh fun _ => ⟨[], none⟩) inTurn channel ∧
      channel.frames = [1, 2, 3] ∧ channel.frames.Pairwise (· < ·) := by
  have taken : ∀ (first second : Queued) client, Function.update (Function.update (Function.update
      (Function.update (fun _ => []) 0 [first]) 0 [first, second]) 0 [second]) 0 [] client = ([] : List Queued) := by
    intro first second client
    by_cases same : client = 0 <;> simp [same]
  obtain ⟨channel, run, frames⟩ : ∃ channel,
      Run (fun channel event next => channel.step (plainNetwork "tcp") event = some next ∧ event.Uses 0 ∧
        Countable 0 channel ∧ Orderly channel next) (fresh fun _ => ⟨[], none⟩) inTurn channel ∧
      channel.frames = [1, 2, 3] := by
    refine ⟨_, .cons ⟨rfl, rfl, by decide, orderly_of_quiet rfl⟩ <|
      .cons ⟨rfl, rfl, by decide, orderly_of_quiet rfl⟩ <|
      .cons ⟨rfl, trivial, by decide, orderly_of_quiet rfl⟩ <|
      .cons ⟨rfl, trivial, by decide, orderly_of_quiet rfl⟩ <|
      .cons ⟨rfl, trivial, by decide, orderly_of_drained (taken _ _) rfl (by decide)⟩ <|
      .cons ⟨rfl, trivial, by decide, orderly_of_drained (taken _ _) rfl (by decide)⟩ <|
      .cons ⟨rfl, rfl, by decide, orderly_of_drained (taken _ _) rfl (by decide)⟩ <|
      .nil _, by decide⟩
  exact ⟨channel, run.mono fun _ _ _ step => step.1, frames, (frames_increase_while_orderly run).1⟩

/-- A stream message is numbered first, a `Write` comes in between, and the goroutine
of the stream message is late. -/
theorem stream_frame_overtaken :
    ∃ queued written started sent,
      (fresh fun _ => ⟨[], none⟩).step (plainNetwork "tcp")
        (.streamWrite 0 0 ⟨.net, 0⟩ "01" "tcp://b:1:1" pingMessage) = some queued ∧
      queued.step (plainNetwork "tcp") (.write 0 pingMessage) = some written ∧
      written.step (plainNetwork "tcp") (.take 0 true) = some started ∧
      started.step (plainNetwork "tcp") (.send 0 (some .opened)) = some sent ∧ sent.frames = [2, 1] :=
  ⟨_, _, _, _, rfl, rfl, rfl, rfl, by decide⟩

end Channel

/-! The two calls on a stream node are steps of the channel. -/

theorem settle_lines {net : Network} {outbox next : Outbox} {peerID : String} {error : Option WriteError}
    (settled : settle net outbox peerID error = .done next) : next.lines = outbox.lines := by
  unfold settle at settled
  split at settled
  · split at settled
    · cases settled
      rfl
    · obtain ⟨reg, _, same⟩ := Outcome.bind_eq_done.mp settled
      cases same
      rfl
  · cases settled
    rfl

section Calls

variable {net : Network} {conn : Conn} {info : AddressInfo} {peerID streamID : String} {message : Message}
  (parses : parseAddress net.env.resolver net.env.address = some info)
  (isStream : info.protocol = "tcp" ∨ info.protocol = "kcp") (suits : conn.kind ≠ .quic)
  {channel : Channel} {state : Nat}

include parses isStream suits

theorem write_is_step {outbox : Outbox} {after : Written} (connected : outbox.reg.connections peerID = some conn)
    (line : channel.lines state = outbox.lines peerID) (wrote : write net outbox peerID message = .returns after) :
    ∃ next, channel.step net (.write state message) = some next ∧ next.lines state = after.outbox.lines peerID ∧
      (after.error = none ↔ next.frames = channel.frames ++ [channel.nextNonce state]) := by
  rcases write_returns wrote with ⟨absent, _⟩ | ⟨link, address, sent, linked, parsed, transmitted, settled, error, _⟩
  · simp [connected] at absent
  · cases connected.symm.trans linked
    cases parses.symm.trans parsed
    have number : channel.nextNonce state = (outbox.lines peerID).messageNonce + 1 := by
      simp [Channel.nextNonce, Channel.counters, line]
    simp only [transmit, isStream, suits, if_true, if_false] at transmitted
    split at transmitted
    · simp at transmitted
    · rename_i failure sink sending
      cases transmitted
      have sameMessage : { message with messageNonce := channel.nextNonce state } = stamped outbox peerID message := by
        simp [stamped, number]
      refine ⟨_, by simp only [Channel.step, sameMessage, line, sending]; rfl, ?_, ?_⟩
      · rw [settle_lines settled]
        simp [sentOn, number, Channel.setLine]
      · rw [error]
        cases failure <;> simp [Channel.complete]

theorem streamWrite_is_step {streamQueueLen : Nat} {mailbox : Mailbox} {ref : ClientRef} {after : StreamWritten}
    (connected : mailbox.outbox.reg.connections peerID = some conn)
    (found : mailbox.outbox.reg.peers peerID = some ref)
    (line : channel.lines state = mailbox.outbox.lines peerID)
    (queue : (channel.queues ref).map Queued.item = mailbox.queues ref)
    (wrote : streamWrite net streamQueueLen mailbox streamID peerID message = .returns after) :
    ∃ next, channel.step net (.streamWrite state ref conn peerID streamID message) = some next ∧
      next.lines state = after.mailbox.outbox.lines peerID ∧
      (next.queues ref).map Queued.item = after.mailbox.queues ref := by
  simp only [streamWrite, connected, parses, isStream, suits, found, if_true, if_false] at wrote
  split at wrote
  · cases wrote
    refine ⟨_, rfl, ?_, ?_⟩
    · simp [numbered, Mailbox.enqueue, Channel.setLine, Channel.nextNonce, Channel.counters, line]
    · simp [Mailbox.enqueue, streamItem, stamped, Channel.nextNonce, Channel.counters, line, queue]
  · simp at wrote

end Calls

end Carrier.StreamWriting

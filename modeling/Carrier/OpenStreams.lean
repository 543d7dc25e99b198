import Carrier.RegistryClients
import Mathlib.Algebra.Group.Nat.Defs

/-! The streams opened over one connection, in `network/multiplex.go`. The table of
the streams, a `MultiStream`, is found through the key the client has at the time of
the call; the IDs in it are numbered by a 32-bit counter. -/
namespace Carrier.OpenStreams

open GoRuntime Identity Address ConnMgr AcceptLoops RegistryOps RegistryClients TransitionSystem

/-- `serial` is not in the source: it counts the `OpenStream` calls on the table up to
the one that made the stream. -/
structure Stream where
  id : String
  client : ClientRef
  serial : Nat

/-- `opened` is not in the source: it counts the `OpenStream` calls made. -/
structure MultiStream where
  idIncCounter : UInt32
  stream : SyncMap Stream
  opened : Nat

def newMultiStream : MultiStream := { idIncCounter := 0, stream := fun _ => none, opened := 0 }

/-- The registry with the tables its `streams` entries name. -/
structure World where
  reg : Registry
  multis : ClientRef → MultiStream

def World.withMulti (world : World) (name : ClientRef) (multi : MultiStream) : World :=
  { world with multis := Function.update world.multis name multi }

def start : World := { reg := emptyRegistry, multis := fun _ => newMultiStream }

/-- The text `"%s:%d"` of an address and a number. -/
def streamID (address : String) (counter : UInt32) : String := address ++ ":" ++ toString counter.toNat

def MultiStream.next (multi : MultiStream) (ref : ClientRef) (client : PeerClient) : Stream :=
  { id := streamID client.address (multi.idIncCounter + 1), client := ref, serial := multi.opened + 1 }

def MultiStream.add (multi : MultiStream) (made : Stream) : MultiStream :=
  { idIncCounter := multi.idIncCounter + 1, stream := store multi.stream made.id made,
    opened := multi.opened + 1 }

/-- `OpenStream`. Without an entry under the client's key the counter of a nil table
is incremented. -/
def openStream (world : World) (ref : ClientRef) : Outcome (Stream × World) :=
  match world.reg.clients[ref]? with
  | none => .panic
  | some client =>
      match world.reg.streams client.peerID with
      | none => .panic
      | some name =>
          let made := (world.multis name).next ref client
          .done (made, world.withMulti name ((world.multis name).add made))

def MultiStream.remove (multi : MultiStream) (id : String) : MultiStream :=
  { multi with stream := delete multi.stream id }

def closeStream (world : World) (ref : ClientRef) (id : String) : Outcome World :=
  match world.reg.clients[ref]? with
  | none => .panic
  | some client =>
      match world.reg.streams client.peerID with
      | none => .done world
      | some name =>
          if (world.multis name).stream id = none then .done world
          else .done (world.withMulti name ((world.multis name).remove id))

inductive Event where
  | registry (op : Op)
  | openStream (ref : ClientRef)
  | closeStream (ref : ClientRef) (id : String)
  deriving DecidableEq, Repr

/-- A table that has not been named yet is a new one. -/
def World.withRegistry (world : World) (reg : Registry) : World :=
  { reg := reg
    multis := fun name => if name < world.reg.clients.length then world.multis name else newMultiStream }

def step (env : Env) (world : World) : Event → Outcome World
  | .registry op => (perform env world.reg op).map world.withRegistry
  | .openStream ref => (openStream world ref).map (·.2)
  | .closeStream ref id => closeStream world ref id

def Steps (env : Env) (before : World) (event : Event) (after : World) : Prop :=
  step env before event = .done after

/-! The IDs tell the address and the number. -/

/-- The counter is the number of calls cut to 32 bits, and every stream is kept under
the ID its number gives. -/
structure Numbered (reg : Registry) (multi : MultiStream) : Prop where
  counter : multi.idIncCounter = UInt32.ofNat multi.opened
  tabled : ∀ id stream, multi.stream id = some stream → ∃ client,
    reg.clients[stream.client]? = some client ∧ stream.id = streamID client.address (UInt32.ofNat stream.serial)

section Tables

variable {env : Env} {reg : Registry} {multi : MultiStream}

theorem Numbered.performs {next : Registry} {op : Op} (numbered : Numbered reg multi)
    (performed : Performs env reg op next) : Numbered next multi where
  counter := numbered.counter
  tabled id stream held := by
    obtain ⟨client, found, named⟩ := numbered.tabled id stream held
    obtain ⟨after, present, same⟩ := performs_address performed found
    exact ⟨after, present, same ▸ named⟩

theorem Numbered.next_id {ref : ClientRef} {client : PeerClient} (numbered : Numbered reg multi) :
    (multi.next ref client).id = streamID client.address (UInt32.ofNat (multi.opened + 1)) := by
  rw [MultiStream.next, numbered.counter, UInt32.ofNat_add]
  rfl

theorem Numbered.add {ref : ClientRef} {client : PeerClient} (numbered : Numbered reg multi)
    (found : reg.clients[ref]? = some client) : Numbered reg (multi.add (multi.next ref client)) where
  counter := by
    rw [MultiStream.add, numbered.counter, UInt32.ofNat_add]
    rfl
  tabled id stream held := by
    rcases store_eq_some.mp held with ⟨_, rfl⟩ | ⟨_, kept⟩
    · exact ⟨client, found, numbered.next_id⟩
    · exact numbered.tabled id stream kept

theorem Numbered.remove (numbered : Numbered reg multi) (gone : String) : Numbered reg (multi.remove gone) where
  counter := numbered.counter
  tabled id stream held := by
    by_cases here : id = gone
    · simp [MultiStream.remove, delete, here] at held
    · exact numbered.tabled id stream (by simpa [MultiStream.remove, delete, here] using held)

end Tables

section Calls

variable {world next : World} {ref : ClientRef}

end Calls

section Rounds

variable {env : Env} {world : World} {ref name : ClientRef} {client : PeerClient}

end Rounds

end Carrier.OpenStreams

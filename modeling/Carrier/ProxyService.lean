import Carrier.GoRuntime
import Carrier.Threads
import Mathlib.Algebra.Group.Nat.Defs

/-! The proxy service of a network: the list of servers with the number of the one in
use, `network/network.go`, and the `Finish` channels that the components of
`network/components/proxy` close when a `ProxyResponse` arrives. -/
namespace Carrier.ProxyService

open GoRuntime Threads TransitionSystem

/-! The server in use. -/

structure ProxyServer where
  ip : String
  peerID : String
  deriving DecidableEq, Repr

structure Proxy where
  enable : Bool
  servers : List ProxyServer
  workID : UInt16
  deriving DecidableEq, Repr

def built : Proxy := { enable := false, servers := [], workID := 0 }

inductive Call where
  | setProxyServer (proxies : List ProxyServer)
  | enableProxyMode (enable : Bool)
  | updateProxyWorkID
  deriving DecidableEq, Repr

/-- The length of the list is cut to sixteen bits, and dividing by zero panics. -/
def Proxy.updateProxyWorkID (proxy : Proxy) : Outcome Proxy :=
  if UInt16.ofNat proxy.servers.length = 0 then .panic
  else .done { proxy with workID := (proxy.workID + 1) % UInt16.ofNat proxy.servers.length }

def Call.apply (proxy : Proxy) : Call → Outcome Proxy
  | .setProxyServer proxies => .done { proxy with servers := proxies }
  | .enableProxyMode enable => .done { proxy with enable := enable }
  | .updateProxyWorkID => proxy.updateProxyWorkID

def Proxy.getWorkingProxyServer (proxy : Proxy) : Outcome (String × String) :=
  if proxy.enable = false then .done ("", "")
  else
    match proxy.servers[proxy.workID.toNat]? with
    | none => .panic
    | some server => .done (server.ip, server.peerID)

/-- What the handler of a `ProxyResponse` over TCP does last. -/
def Proxy.storePeerID (proxy : Proxy) (peerID : String) : Outcome Proxy :=
  match proxy.servers[proxy.workID.toNat]? with
  | none => .panic
  | some server =>
      .done { proxy with servers := proxy.servers.set proxy.workID.toNat { server with peerID := peerID } }

def InRange (proxy : Proxy) : Prop := proxy.enable = true → proxy.workID.toNat < proxy.servers.length

/-- A list that still has the server in use, an enabling that finds one, and a list whose
length is not cut to zero. -/
def Allowed (proxy : Proxy) : Call → Prop
  | .setProxyServer proxies => proxy.enable = true → proxy.workID.toNat < proxies.length
  | .enableProxyMode enable => enable = true → proxy.workID.toNat < proxy.servers.length
  | .updateProxyWorkID => proxy.servers.length % 2 ^ 16 ≠ 0

theorem ofNat_eq_zero_iff (length : Nat) : UInt16.ofNat length = 0 ↔ length % 2 ^ 16 = 0 := by
  rw [← UInt16.toNat_inj, UInt16.toNat_ofNat', UInt16.toNat_zero]

theorem updateProxyWorkID_done {proxy : Proxy} (divides : proxy.servers.length % 2 ^ 16 ≠ 0) :
    ∃ next, proxy.updateProxyWorkID = .done next ∧ next.workID.toNat < next.servers.length := by
  have nonzero : UInt16.ofNat proxy.servers.length ≠ 0 := fun zero => divides ((ofNat_eq_zero_iff _).mp zero)
  refine ⟨_, if_neg nonzero, ?_⟩
  change ((proxy.workID + 1) % UInt16.ofNat proxy.servers.length).toNat < proxy.servers.length
  rw [UInt16.toNat_mod, UInt16.toNat_ofNat']
  exact Nat.lt_of_lt_of_le (Nat.mod_lt _ (Nat.pos_of_ne_zero divides)) (Nat.mod_le _ _)

theorem getWorkingProxyServer_done {proxy : Proxy} (inside : proxy.workID.toNat < proxy.servers.length) :
    ∃ server, proxy.getWorkingProxyServer = .done server := by
  unfold Proxy.getWorkingProxyServer
  split
  · exact ⟨_, rfl⟩
  · rw [List.getElem?_eq_getElem inside]
    exact ⟨_, rfl⟩

theorem storePeerID_done {proxy : Proxy} (inside : proxy.workID.toNat < proxy.servers.length) (peerID : String) :
    ∃ next, proxy.storePeerID peerID = .done next := by
  unfold Proxy.storePeerID
  rw [List.getElem?_eq_getElem inside]
  exact ⟨_, rfl⟩

theorem apply_inRange_iff {proxy : Proxy} (call : Call) :
    (∃ next, call.apply proxy = .done next ∧ InRange next) ↔ Allowed proxy call := by
  cases call with
  | setProxyServer proxies =>
      constructor
      · rintro ⟨next, done, inRange⟩
        cases done
        exact inRange
      · exact fun allowed => ⟨_, rfl, allowed⟩
  | enableProxyMode enable =>
      constructor
      · rintro ⟨next, done, inRange⟩
        cases done
        exact inRange
      · exact fun allowed => ⟨_, rfl, allowed⟩
  | updateProxyWorkID =>
      constructor
      · rintro ⟨next, done, _⟩ zero
        simp only [Call.apply, Proxy.updateProxyWorkID, (ofNat_eq_zero_iff _).mpr zero, if_true] at done
        cases done
      · intro divides
        obtain ⟨next, done, inRange⟩ := updateProxyWorkID_done divides
        exact ⟨next, done, fun _ => inRange⟩

/-- Runs of allowed calls: while the mode is enabled there is a server in use, to be read
and to be given its ID. The next call divides by a number other than zero and keeps to
that exactly if it is allowed. -/
theorem working_server_in_range {calls : List Call} {proxy : Proxy}
    (run : Run (fun before call after => Call.apply before call = .done after ∧ Allowed before call) built calls
      proxy) :
    (proxy.enable = true → (∃ server, proxy.getWorkingProxyServer = .done server) ∧
      ∀ peerID, ∃ next, proxy.storePeerID peerID = .done next) ∧
    ∀ call, (∃ next, Call.apply proxy call = .done next ∧ InRange next) ↔ Allowed proxy call := by
  have inRange : InRange proxy := by
    refine run.invariant InRange ?_ (fun enabled => by cases enabled)
    rintro before call after ⟨applied, allowed⟩ _
    obtain ⟨next, done, kept⟩ := (apply_inRange_iff call).mpr allowed
    rw [applied] at done
    cases done
    exact kept
  refine ⟨fun enabled => ?_, fun call => apply_inRange_iff call⟩
  exact ⟨getWorkingProxyServer_done (inRange enabled), storePeerID_done (inRange enabled)⟩

/-! Two servers, of which the second is in use after a failover. -/

def twoServers : List ProxyServer := [⟨"tcp://10.0.0.1:1", "01"⟩, ⟨"tcp://10.0.0.2:1", "02"⟩]

theorem working_server_in_range_failover :
    ∃ proxy, Run (fun before call after => Call.apply before call = .done after ∧ Allowed before call) built
        [.setProxyServer twoServers, .enableProxyMode true, .updateProxyWorkID] proxy ∧
      proxy.enable = true ∧ proxy.workID = 1 ∧ ∃ server, proxy.getWorkingProxyServer = .done server := by
  have run : Run (fun before call after => Call.apply before call = .done after ∧ Allowed before call) built
      [.setProxyServer twoServers, .enableProxyMode true, .updateProxyWorkID] ⟨true, twoServers, 1⟩ := by
    refine .cons ⟨rfl, fun enabled => by cases enabled⟩ (.cons ⟨rfl, fun _ => ?_⟩ (.cons ⟨by decide, ?_⟩ (.nil _)))
    · decide
    · change twoServers.length % 2 ^ 16 ≠ 0
      decide
  exact ⟨_, run, rfl, rfl, ((working_server_in_range run).1 rfl).1⟩

/-- The second server is in use when the list is replaced by one server. Without servers
the mode can be enabled all the same, and the failover divides by zero. -/
theorem working_server_out_of_range :
    (∃ proxy, Run (fun before call after => Call.apply before call = .done after) built
        [.setProxyServer twoServers, .enableProxyMode true, .updateProxyWorkID,
          .setProxyServer [⟨"tcp://10.0.0.3:1", "03"⟩]] proxy ∧
      proxy.enable = true ∧ proxy.getWorkingProxyServer = .panic ∧ proxy.storePeerID "03" = .panic) ∧
    Call.apply built .updateProxyWorkID = .panic := by
  have failover : Call.apply ⟨true, twoServers, 0⟩ .updateProxyWorkID = .done ⟨true, twoServers, 1⟩ := by decide
  exact ⟨⟨⟨true, [⟨"tcp://10.0.0.3:1", "03"⟩], 1⟩, .cons rfl (.cons rfl (.cons failover (.cons rfl (.nil _)))),
    rfl, rfl, rfl⟩, rfl⟩

/-! The `Finish` channels. Responses are handled and channels are installed in goroutines
of their own, so that all of them interleave. -/

inductive Protocol where
  | tcp
  | kcp
  | udp
  | quic
  deriving DecidableEq, Repr

def Protocol.scheme : Protocol → String
  | .tcp => "tcp://"
  | .kcp => "kcp://"
  | .udp => "udp://"
  | .quic => "quic://"

/-- A `ProxyResponse` as the component of the protocol gets it; `peerID` is the key of
its sender. -/
structure Response where
  protocol : Protocol
  proxyAddress : String
  peerID : String
  deriving DecidableEq, Repr

def Response.url (response : Response) : String := response.protocol.scheme ++ response.proxyAddress

/-- Channels are numbered in the order in which they are made. `taken` records those that
`FinishProxyServer` has come upon. -/
structure Shared where
  address : String
  proxy : Proxy
  finish : Protocol → Option Nat
  made : Nat
  closed : Nat → Bool
  taken : Nat → Bool

/-- `closedTwice` and `outOfRange` are panics. -/
inductive Stage where
  | idle
  | received (response : Response)
  | changing (response : Response)
  | finishing (response : Response)
  | closing (response : Response) (channel : Nat)
  | storing (response : Response)
  | done
  | closedTwice
  | outOfRange
  /-- A restart is about to install a channel. -/
  | restarting (protocol : Protocol)
  deriving DecidableEq, Repr

/-- Only the handler for TCP goes on after `FinishProxyServer`. -/
def finished (response : Response) : Stage := if response.protocol = .tcp then .storing response else .done

/-- `Receive` of the four components, one operation a step. From `finishing` to `closing`
it is in `FinishProxyServer`. A restart is the store of its new channel. -/
def receive (shared : Shared) : Stage → Option (Shared × Stage)
  | .received response =>
      -- the handlers for the other protocols do not look at the address
      if response.protocol = .tcp ∧ response.url = shared.address then some (shared, .done)
      else some (shared, .changing response)
  | .changing response => some ({ shared with address := response.url }, .finishing response)
  | .finishing response =>
      match shared.finish response.protocol with
      | none => some (shared, finished response)
      | some channel =>
          some ({ shared with taken := Function.update shared.taken channel true }, .closing response channel)
  | .closing response channel =>
      if shared.closed channel then some (shared, .closedTwice)
      else some ({ shared with closed := Function.update shared.closed channel true }, finished response)
  | .storing response =>
      match shared.proxy.storePeerID response.peerID with
      | .done proxy => some ({ shared with proxy := proxy }, .done)
      | .panic => some (shared, .outOfRange)
  | .restarting protocol =>
      some ({ shared with
        finish := Function.update shared.finish protocol (some shared.made)
        made := shared.made + 1 }, .done)
  | .idle | .done | .closedTwice | .outOfRange => none

def program : Program Shared Stage Unit := fun _ shared stage _ => receive shared stage

def Stage.claim : Stage → Option Nat
  | .closing _ channel => some channel
  | _ => none

theorem finished_claim (response : Response) :
    (finished response).claim = none ∧ finished response ≠ .closedTwice := by
  unfold finished
  split <;> exact ⟨rfl, by simp⟩

def unclaimed (shared : Shared) : Stage → Bool
  | .finishing response => ((shared.finish response.protocol).map fun channel => !shared.taken channel).getD true
  | _ => true

inductive Acts (shared : Shared) : Stage → Shared → Stage → Prop where
  | passes {stage now : Stage} {next : Shared} : next.closed = shared.closed → next.taken = shared.taken →
      stage.claim = none → now.claim = none → now ≠ .closedTwice → unclaimed shared stage = true →
      Acts shared stage next now
  | takes {response : Response} {channel : Nat} : shared.finish response.protocol = some channel →
      Acts shared (.finishing response)
        { shared with taken := Function.update shared.taken channel true } (.closing response channel)
  | closes {response : Response} {channel : Nat} : shared.closed channel = false →
      Acts shared (.closing response channel)
        { shared with closed := Function.update shared.closed channel true } (finished response)
  | breaks {response : Response} {channel : Nat} : shared.closed channel = true →
      Acts shared (.closing response channel) shared .closedTwice

theorem receive_acts {shared next : Shared} {stage now : Stage} (stepped : receive shared stage = some (next, now)) :
    Acts shared stage next now := by
  cases stage with
  | received response =>
      simp only [receive] at stepped
      split at stepped <;> cases stepped <;> exact .passes rfl rfl rfl rfl (by simp) rfl
  | changing response =>
      cases stepped
      exact .passes rfl rfl rfl rfl (by simp) rfl
  | finishing response =>
      cases found : shared.finish response.protocol with
      | none =>
          simp only [receive, found] at stepped
          cases stepped
          obtain ⟨unclaims, whole⟩ := finished_claim response
          exact .passes rfl rfl rfl unclaims whole (by simp [unclaimed, found])
      | some channel =>
          simp only [receive, found] at stepped
          cases stepped
          exact .takes found
  | closing response channel =>
      cases state : shared.closed channel with
      | true =>
          simp only [receive, state, if_true] at stepped
          cases stepped
          exact .breaks state
      | false =>
          simp only [receive, state] at stepped
          cases stepped
          exact .closes state
  | storing response =>
      simp only [receive] at stepped
      split at stepped <;> cases stepped <;> exact .passes rfl rfl rfl rfl (by simp) rfl
  | restarting protocol =>
      cases stepped
      exact .passes rfl rfl rfl rfl (by simp) rfl
  | idle | done | closedTwice | outOfRange => cases stepped

theorem claim_set {world : World Shared Stage} {thread : Nat} {shared : Shared} {now : Stage}
    (other channel : Nat) :
    ((world.set thread shared now).locals other).claim = some channel ↔
      (other = thread ∧ now.claim = some channel) ∨
      (other ≠ thread ∧ (world.locals other).claim = some channel) := by
  exact World.read_set_eq_iff

/-- No channel has been closed twice, and none is bound to be: a channel about to be
closed is open, and one goroutine is about to close it. -/
structure Sound (world : World Shared Stage) : Prop where
  once : ∀ thread, world.locals thread ≠ .closedTwice
  unclosed : ∀ thread channel, (world.locals thread).claim = some channel → world.shared.closed channel = false
  single : ∀ thread other channel, (world.locals thread).claim = some channel →
    (world.locals other).claim = some channel → thread = other

structure Inv (world : World Shared Stage) : Prop extends Sound world where
  taken : ∀ channel, world.shared.taken channel = true ↔
    world.shared.closed channel = true ∨ ∃ thread, (world.locals thread).claim = some channel

theorem Sound.once_set {world : World Shared Stage} (sound : Sound world) {thread : Nat} {shared : Shared}
    {now : Stage} (whole : now ≠ .closedTwice) (other : Nat) :
    (world.set thread shared now).locals other ≠ .closedTwice := by
  by_cases same : other = thread
  · subst same
    rwa [World.set_self]
  · rw [World.set_other world shared now same]
    exact sound.once other

theorem Inv.pass {world : World Shared Stage} (inv : Inv world) {thread : Nat} {next : Shared} {now : Stage}
    (closed : next.closed = world.shared.closed) (taken : next.taken = world.shared.taken)
    (before : (world.locals thread).claim = none) (after : now.claim = none) (whole : now ≠ .closedTwice) :
    Inv (world.set thread next now) := by
  -- a goroutine that claims nothing before and after is none of those that claim
  have same (other channel : Nat) : ((world.set thread next now).locals other).claim = some channel ↔
      (world.locals other).claim = some channel := by
    rw [claim_set]
    constructor
    · rintro (⟨_, claims⟩ | ⟨_, claims⟩)
      · rw [after] at claims
        cases claims
      · exact claims
    · intro claims
      refine Or.inr ⟨?_, claims⟩
      rintro rfl
      rw [before] at claims
      cases claims
  refine ⟨⟨inv.once_set whole, ?_, ?_⟩, ?_⟩
  · intro other channel claims
    rw [World.set_shared, closed]
    exact inv.unclosed other channel ((same other channel).mp claims)
  · intro first second channel one two
    exact inv.single first second channel ((same first channel).mp one) ((same second channel).mp two)
  · intro channel
    simp only [same, World.set_shared, closed, taken]
    exact inv.taken channel

theorem Inv.take {world : World Shared Stage} (inv : Inv world) {thread : Nat} {response : Response} {channel : Nat}
    (before : (world.locals thread).claim = none) (untaken : world.shared.taken channel = false) :
    Inv (world.set thread { world.shared with taken := Function.update world.shared.taken channel true }
      (.closing response channel)) := by
  have nothing : ¬(world.shared.closed channel = true ∨ ∃ other, (world.locals other).claim = some channel) := by
    rw [← inv.taken, untaken]
    exact Bool.false_ne_true
  obtain ⟨unclosed, alone⟩ := not_or.mp nothing
  refine ⟨⟨inv.once_set (by simp), ?_, ?_⟩, ?_⟩
  · intro other claimed claims
    rcases (claim_set other claimed).mp claims with ⟨_, own⟩ | ⟨_, claims⟩
    · cases own
      exact eq_false_of_ne_true unclosed
    · exact inv.unclosed other claimed claims
  · intro first second claimed one two
    rcases (claim_set first claimed).mp one with ⟨here, own⟩ | ⟨_, former⟩ <;>
      rcases (claim_set second claimed).mp two with ⟨there, new⟩ | ⟨_, latter⟩
    · rw [here, there]
    · cases own
      exact absurd ⟨second, latter⟩ alone
    · cases new
      exact absurd ⟨first, former⟩ alone
    · exact inv.single first second claimed former latter
  · intro claimed
    simp only [claim_set, World.set_shared]
    by_cases same : claimed = channel
    · subst same
      simp [Stage.claim]
    · rw [Function.update_of_ne same, inv.taken]
      refine or_congr_right (exists_congr fun other => ⟨fun claims => Or.inr ⟨?_, claims⟩, ?_⟩)
      · rintro rfl
        rw [before] at claims
        cases claims
      · rintro (⟨_, own⟩ | ⟨_, claims⟩)
        · cases own
          exact absurd rfl same
        · exact claims

theorem Inv.close {world : World Shared Stage} (inv : Inv world) {thread : Nat} {response : Response} {channel : Nat}
    (holds : world.locals thread = .closing response channel) :
    Inv (world.set thread { world.shared with closed := Function.update world.shared.closed channel true }
      (finished response)) := by
  obtain ⟨unclaims, whole⟩ := finished_claim response
  have claims : (world.locals thread).claim = some channel := by rw [holds]; rfl
  have left {other claimed : Nat} (set : ((world.set thread { world.shared with
        closed := Function.update world.shared.closed channel true } (finished response)).locals other).claim =
      some claimed) : other ≠ thread ∧ (world.locals other).claim = some claimed := by
    rcases (claim_set other claimed).mp set with ⟨_, own⟩ | kept
    · rw [unclaims] at own
      cases own
    · exact kept
  refine ⟨⟨inv.once_set whole, ?_, ?_⟩, ?_⟩
  · intro other claimed set
    obtain ⟨different, kept⟩ := left set
    have apart : claimed ≠ channel := by
      rintro rfl
      exact different (inv.single other thread claimed kept claims)
    simp only [World.set_shared, Function.update_of_ne apart]
    exact inv.unclosed other claimed kept
  · exact fun first second claimed one two => inv.single first second claimed (left one).2 (left two).2
  · intro claimed
    simp only [World.set_shared]
    rw [inv.taken]
    by_cases same : claimed = channel
    · subst same
      simp only [Function.update_self, true_or, iff_true]
      exact Or.inr ⟨thread, claims⟩
    · rw [Function.update_of_ne same]
      refine or_congr_right (exists_congr fun other => ⟨fun kept => ?_, fun set => (left set).2⟩)
      refine (claim_set other claimed).mpr (Or.inr ⟨?_, kept⟩)
      rintro rfl
      rw [claims] at kept
      cases kept
      exact same rfl

theorem not_sound_of_taken {world : World Shared Stage} (inv : Inv world) {thread : Nat} {shared : Shared}
    {response : Response} {channel : Nat} (before : (world.locals thread).claim = none)
    (closed : shared.closed = world.shared.closed) (taken : world.shared.taken channel = true) :
    ¬Sound (world.set thread shared (.closing response channel)) := by
  intro sound
  have own : ((world.set thread shared (.closing response channel)).locals thread).claim = some channel := by
    rw [World.set_self]
    rfl
  rcases (inv.taken channel).mp taken with already | ⟨other, claims⟩
  · have unclosed := sound.unclosed thread channel own
    rw [World.set_shared, closed, already] at unclosed
    cases unclosed
  · have different : other ≠ thread := by
      rintro rfl
      rw [before] at claims
      cases claims
    exact different (sound.single other thread channel ((claim_set other channel).mpr (Or.inr ⟨different, claims⟩)) own)

/-- `FinishProxyServer` comes upon no channel that it has come upon before. -/
def Once (world : World Shared Stage) (move : Nat × Unit) : Prop :=
  unclaimed world.shared (world.locals move.1) = true

instance (world : World Shared Stage) (move : Nat × Unit) : Decidable (Once world move) :=
  inferInstanceAs (Decidable (_ = true))

theorem once_finishing_iff {world : World Shared Stage} {thread : Nat} {response : Response} {channel : Nat}
    (stage : world.locals thread = .finishing response)
    (found : world.shared.finish response.protocol = some channel) :
    Once world (thread, ()) ↔ world.shared.taken channel = false := by
  simp [Once, stage, unclaimed, found]

theorem steps_inv {world next : World Shared Stage} {move : Nat × Unit} (step : Steps program world move next)
    (inv : Inv world) : (Once world move → Inv next) ∧ (¬Once world move → ¬Sound next) := by
  obtain ⟨stepped⟩ := step
  rename_i thread _ shared now
  have acts := receive_acts stepped
  generalize stage : world.locals thread = before at acts
  cases acts with
  | passes closed taken claims after whole free =>
      refine ⟨fun _ => inv.pass closed taken (by rw [stage]; exact claims) after whole, fun often => ?_⟩
      exact absurd (by rw [Once, stage]; exact free) often
  | @takes response channel found =>
      have claims : (world.locals thread).claim = none := by rw [stage]; rfl
      have free := once_finishing_iff stage found
      refine ⟨fun once => inv.take claims (free.mp once), fun often => ?_⟩
      exact not_sound_of_taken inv claims rfl (eq_true_of_ne_false fun untaken => often (free.mpr untaken))
  | closes unclosed =>
      exact ⟨fun _ => inv.close stage, fun often => absurd (by rw [Once, stage]; rfl) often⟩
  | @breaks response channel closed =>
      have unclosed := inv.unclosed thread channel (by rw [stage]; rfl)
      rw [closed] at unclosed
      cases unclosed

theorem panics {world : World Shared Stage} {thread : Nat} {response : Response} {channel : Nat}
    (holds : world.locals thread = .closing response channel) (closed : world.shared.closed channel = true) :
    Steps program world (thread, ()) (world.set thread world.shared .closedTwice) := by
  refine .move ?_
  rw [program, holds, receive, if_pos closed]

theorem closes {world : World Shared Stage} {thread : Nat} {response : Response} {channel : Nat}
    (holds : world.locals thread = .closing response channel) (unclosed : world.shared.closed channel = false) :
    Steps program world (thread, ()) (world.set thread
      { world.shared with closed := Function.update world.shared.closed channel true } (finished response)) := by
  refine .move ?_
  rw [program, holds, receive, if_neg (by simp [unclosed])]

theorem closing_of_claim {stage : Stage} {channel : Nat} (claims : stage.claim = some channel) :
    ∃ response, stage = .closing response channel := by
  cases stage with
  | closing response claimed =>
      cases claims
      exact ⟨response, rfl⟩
  | idle | received _ | changing _ | finishing _ | storing _ | done | closedTwice | outOfRange | restarting _ =>
      cases claims

theorem both_close {world : World Shared Stage} {thread other : Nat} {response earlier : Response} {channel : Nat}
    (waits : world.locals thread = .closing response channel)
    (holds : world.locals other = .closing earlier channel) (different : other ≠ thread)
    (unclosed : world.shared.closed channel = false) :
    ∃ last, Run (Steps program) world [(other, ()), (thread, ())] last ∧ last.locals thread = .closedTwice := by
  have first := closes holds unclosed
  have still := (World.set_other world { world.shared with
    closed := Function.update world.shared.closed channel true } (finished earlier) different.symm).trans waits
  exact ⟨_, .cons first (.cons (panics still (Function.update_self ..)) (.nil _)), World.set_self ..⟩

/-- A goroutine that came upon a channel for the second time panics, at the latest after
the one that is about to close it. -/
theorem closedTwice_of_taken {world next : World Shared Stage} {move : Nat × Unit}
    (step : Steps program world move next) (inv : Inv world) (often : ¬Once world move) :
    ∃ moves last, Run (Steps program) next moves last ∧ last.locals move.1 = .closedTwice := by
  obtain ⟨stepped⟩ := step
  rename_i thread _ shared now
  have acts := receive_acts stepped
  generalize stage : world.locals thread = before at acts
  cases acts with
  | passes _ _ _ _ _ free => exact absurd (by rw [Once, stage]; exact free) often
  | @takes response channel found =>
      have taken : world.shared.taken channel = true :=
        eq_true_of_ne_false fun untaken => often ((once_finishing_iff stage found).mpr untaken)
      generalize reached : world.set thread _ (Stage.closing response channel) = middle
      have waits : middle.locals thread = .closing response channel := by rw [← reached, World.set_self]
      rcases (inv.taken channel).mp taken with already | ⟨other, claims⟩
      · have closed : middle.shared.closed channel = true := by
          rw [← reached]
          exact already
        exact ⟨[(thread, ())], _, .cons (panics waits closed) (.nil _), World.set_self ..⟩
      · have different : other ≠ thread := by
          rintro rfl
          rw [stage] at claims
          cases claims
        obtain ⟨earlier, holds⟩ := closing_of_claim claims
        have unclosed : middle.shared.closed channel = false := by
          rw [← reached]
          exact inv.unclosed other channel claims
        rw [← World.set_other world _ _ different, reached] at holds
        exact ⟨_, both_close waits holds different unclosed⟩
  | closes _ => exact absurd (by rw [Once, stage]; rfl) often
  | breaks _ => exact absurd (by rw [Once, stage]; rfl) often

/-! A channel that a restart installs is a new one. -/

structure Numbered (shared : Shared) : Prop where
  installed : ∀ protocol channel, shared.finish protocol = some channel → channel < shared.made
  taken : ∀ channel, shared.taken channel = true → channel < shared.made

theorem receive_numbered {shared next : Shared} {stage now : Stage} (stepped : receive shared stage = some (next, now))
    (numbered : Numbered shared) : Numbered next := by
  cases stage with
  | received response =>
      simp only [receive] at stepped
      split at stepped <;> cases stepped <;> exact numbered
  | changing response =>
      cases stepped
      exact ⟨numbered.installed, numbered.taken⟩
  | finishing response =>
      simp only [receive] at stepped
      split at stepped
      · cases stepped
        exact numbered
      · rename_i channel found
        cases stepped
        refine ⟨numbered.installed, fun claimed taken => ?_⟩
        dsimp only at taken
        by_cases same : claimed = channel
        · rw [same]
          exact numbered.installed _ _ found
        · exact numbered.taken claimed (by rwa [Function.update_of_ne same] at taken)
  | closing response channel =>
      simp only [receive] at stepped
      split at stepped <;> cases stepped
      · exact numbered
      · exact ⟨numbered.installed, numbered.taken⟩
  | storing response =>
      simp only [receive] at stepped
      split at stepped <;> cases stepped
      · exact ⟨numbered.installed, numbered.taken⟩
      · exact numbered
  | restarting protocol =>
      cases stepped
      refine ⟨fun other channel found => ?_, fun channel taken => Nat.lt_succ_of_lt (numbered.taken channel taken)⟩
      dsimp only at found
      by_cases same : other = protocol
      · subst same
        rw [Function.update_self] at found
        cases found
        exact Nat.lt_succ_self _
      · rw [Function.update_of_ne same] at found
        exact Nat.lt_succ_of_lt (numbered.installed other channel found)
  | idle | done | closedTwice | outOfRange => cases stepped

/-- As `Build` leaves it: a channel of its own for each transport, none of them closed.
Any number of responses and restarts are to come. -/
structure Started (world : World Shared Stage) : Prop where
  installed : ∀ protocol channel, world.shared.finish protocol = some channel → channel < world.shared.made
  distinct : ∀ protocol other channel, world.shared.finish protocol = some channel →
    world.shared.finish other = some channel → protocol = other
  unclosed : ∀ channel, world.shared.closed channel = false
  untaken : ∀ channel, world.shared.taken channel = false
  entering : ∀ thread, world.locals thread = .idle ∨ (∃ response, world.locals thread = .received response) ∨
    ∃ protocol, world.locals thread = .restarting protocol

theorem Started.inv {world : World Shared Stage} (started : Started world) : Inv world := by
  have unclaims (thread : Nat) : (world.locals thread).claim = none ∧ world.locals thread ≠ .closedTwice := by
    rcases started.entering thread with stage | ⟨_, stage⟩ | ⟨_, stage⟩ <;> rw [stage] <;>
      exact ⟨rfl, by simp⟩
  refine ⟨⟨fun thread => (unclaims thread).2, ?_, ?_⟩, ?_⟩
  · exact fun _ channel _ => started.unclosed channel
  · intro thread _ _ claims
    rw [(unclaims thread).1] at claims
    cases claims
  · simp [started.untaken, started.unclosed, unclaims]

theorem Started.numbered {world : World Shared Stage} (started : Started world) : Numbered world.shared := by
  refine ⟨started.installed, fun channel taken => ?_⟩
  rw [started.untaken channel] at taken
  cases taken

/-! The responses that come in between two restarts. -/

/-- Over TCP a response with the address the node has already is without effect. -/
def counts (address : String) (response : Response) : Bool :=
  !decide (response.protocol = .tcp ∧ response.url = address)

/-- A run, and for each protocol whether a response that counts is being handled up to the
end of `FinishProxyServer` (`underway`), and whether one has come in since the last restart
or was underway then (`answered`). -/
structure Watched where
  world : World Shared Stage
  underway : Protocol → Bool
  answered : Protocol → Bool

def watched (world : World Shared Stage) : Watched := ⟨world, fun _ => false, fun _ => false⟩

def Watched.underwayAfter (state : Watched) : Stage → Protocol → Bool
  | .received response =>
      Function.update state.underway response.protocol
        (state.underway response.protocol || counts state.world.shared.address response)
  | .finishing response => Function.update state.underway response.protocol false
  | _ => state.underway

def Watched.answeredAfter (state : Watched) : Stage → Protocol → Bool
  | .received response =>
      Function.update state.answered response.protocol
        (state.answered response.protocol || counts state.world.shared.address response)
  | .restarting protocol => Function.update state.answered protocol (state.underway protocol)
  | _ => state.answered

def watchStep (state : Watched) (move : Nat × Unit) : Option Watched :=
  (program move.1 state.world.shared (state.world.locals move.1) move.2).map fun (shared, now) =>
    { world := state.world.set move.1 shared now
      underway := state.underwayAfter (state.world.locals move.1)
      answered := state.answeredAfter (state.world.locals move.1) }

def WatchSteps (before : Watched) (move : Nat × Unit) (after : Watched) : Prop := watchStep before move = some after

def Watched.expects (state : Watched) : Stage → Bool
  | .received response =>
      !counts state.world.shared.address response || !state.answered response.protocol
  | _ => true

/-- At most one response that counts comes in between two restarts of its protocol. -/
def Sparse (state : Watched) (move : Nat × Unit) : Prop := state.expects (state.world.locals move.1) = true

instance (state : Watched) (move : Nat × Unit) : Decidable (Sparse state move) :=
  inferInstanceAs (Decidable (_ = true))

def Stage.heads : Stage → Option Protocol
  | .changing response | .finishing response => some response.protocol
  | _ => none

/-- One goroutine at most is on its way for a protocol, and the channel in place has been
come upon exactly if the response it was meant for is through. -/
structure Counted (state : Watched) : Prop where
  heads : ∀ protocol, state.underway protocol = true ↔ ∃ thread, (state.world.locals thread).heads = some protocol
  single : ∀ thread other protocol, (state.world.locals thread).heads = some protocol →
    (state.world.locals other).heads = some protocol → thread = other
  answered : ∀ protocol, state.underway protocol = true → state.answered protocol = true
  taken : ∀ protocol channel, state.world.shared.finish protocol = some channel →
    state.world.shared.taken channel = (state.answered protocol && !state.underway protocol)
  distinct : ∀ protocol other channel, state.world.shared.finish protocol = some channel →
    state.world.shared.finish other = some channel → protocol = other

theorem finished_heads (response : Response) : (finished response).heads = none := by
  unfold finished
  split <;> rfl

theorem Counted.pass {state : Watched} (counted : Counted state) {thread : Nat} {shared : Shared} {now : Stage}
    (finish : shared.finish = state.world.shared.finish) (taken : shared.taken = state.world.shared.taken)
    (heads : now.heads = (state.world.locals thread).heads) :
    Counted { state with world := state.world.set thread shared now } := by
  have same (other : Nat) : ((state.world.set thread shared now).locals other).heads =
      (state.world.locals other).heads := World.read_set_of_eq heads other
  refine ⟨fun protocol => ?_, fun first second protocol => ?_, counted.answered, ?_, ?_⟩
  · simp only [same]
    exact counted.heads protocol
  · simp only [same]
    exact counted.single first second protocol
  · simp only [World.set_shared, finish, taken]
    exact counted.taken
  · simp only [World.set_shared, finish]
    exact counted.distinct

theorem Counted.enter {state : Watched} (counted : Counted state) {thread : Nat} {response : Response}
    (before : (state.world.locals thread).heads = none)
    (free : state.answered response.protocol = false) :
    Counted
      { world := state.world.set thread state.world.shared (.changing response)
        underway := Function.update state.underway response.protocol true
        answered := Function.update state.answered response.protocol true } := by
  have idle : state.underway response.protocol = false := by
    refine eq_false_of_ne_true fun busy => ?_
    rw [counted.answered _ busy] at free
    cases free
  have nobody (other : Nat) : (state.world.locals other).heads ≠ some response.protocol := fun way => by
    rw [(counted.heads _).mpr ⟨other, way⟩] at idle
    cases idle
  have heads {other : Nat} {protocol : Protocol} :
      ((state.world.set thread state.world.shared (.changing response)).locals other).heads = some protocol ↔
        other = thread ∧ response.protocol = protocol ∨
          other ≠ thread ∧ (state.world.locals other).heads = some protocol := by
    rw [World.read_set_eq_iff]
    simp [Stage.heads]
  refine ⟨fun protocol => ?_, fun first second protocol one two => ?_, fun protocol busy => ?_, ?_, counted.distinct⟩
  · simp only [heads]
    by_cases same : protocol = response.protocol
    · subst same
      simp
    · rw [Function.update_of_ne same, counted.heads]
      refine exists_congr fun other => ⟨fun way => .inr ⟨?_, way⟩, ?_⟩
      · rintro rfl
        rw [before] at way
        cases way
      · rintro (⟨_, here⟩ | ⟨_, way⟩)
        · exact absurd here.symm same
        · exact way
  · rcases heads.mp one with ⟨here, own⟩ | ⟨_, former⟩ <;> rcases heads.mp two with ⟨there, new⟩ | ⟨_, latter⟩
    · rw [here, there]
    · exact absurd (own ▸ latter) (nobody second)
    · exact absurd (new ▸ former) (nobody first)
    · exact counted.single first second protocol former latter
  · by_cases same : protocol = response.protocol
    · subst same
      exact Function.update_self ..
    · dsimp only at busy ⊢
      rw [Function.update_of_ne same] at busy ⊢
      exact counted.answered protocol busy
  · intro protocol channel found
    have old := counted.taken protocol channel found
    by_cases same : protocol = response.protocol
    · subst same
      simpa [free] using old
    · simpa only [World.set_shared, Function.update_of_ne same] using old

theorem Counted.leave {state : Watched} (counted : Counted state) {thread : Nat} {response : Response}
    {shared : Shared} {now : Stage} (stage : state.world.locals thread = .finishing response)
    (finish : shared.finish = state.world.shared.finish)
    (taken : ∀ channel, shared.taken channel =
      (state.world.shared.taken channel || decide (state.world.shared.finish response.protocol = some channel)))
    (after : now.heads = none) :
    Counted
      { state with
        world := state.world.set thread shared now
        underway := Function.update state.underway response.protocol false } := by
  have way : (state.world.locals thread).heads = some response.protocol := by rw [stage]; rfl
  have busy := (counted.heads _).mpr ⟨thread, way⟩
  have heads {other : Nat} {protocol : Protocol} :
      ((state.world.set thread shared now).locals other).heads = some protocol ↔
        other ≠ thread ∧ (state.world.locals other).heads = some protocol := by
    rw [World.read_set_eq_iff]
    simp [after]
  refine ⟨fun protocol => ?_, fun first second protocol one two => ?_, fun protocol held => ?_, ?_, ?_⟩
  · simp only [heads]
    by_cases same : protocol = response.protocol
    · subst same
      simp only [Function.update_self, Bool.false_eq_true, false_iff]
      rintro ⟨other, different, also⟩
      exact different (counted.single other thread _ also way)
    · rw [Function.update_of_ne same, counted.heads]
      refine exists_congr fun other => ⟨fun still => ⟨?_, still⟩, fun still => still.2⟩
      rintro rfl
      rw [way] at still
      exact same (Option.some.inj still).symm
  · exact counted.single first second protocol (heads.mp one).2 (heads.mp two).2
  · by_cases same : protocol = response.protocol
    · subst same
      simp at held
    · dsimp only at held
      rw [Function.update_of_ne same] at held
      exact counted.answered protocol held
  · intro protocol channel found
    simp only [World.set_shared, finish] at found ⊢
    rw [taken, counted.taken protocol channel found]
    by_cases same : protocol = response.protocol
    · subst same
      simp [found, counted.answered _ busy]
    · have apart : state.world.shared.finish response.protocol ≠ some channel := fun also =>
        same (counted.distinct protocol response.protocol channel found also)
      simp [apart, Function.update_of_ne same]
  · simp only [World.set_shared, finish]
    exact counted.distinct

theorem distinct_update {finish : Protocol → Option Nat} {protocol : Protocol} {made : Nat}
    (distinct : ∀ one two channel, finish one = some channel → finish two = some channel → one = two)
    (fresh : ∀ other, finish other ≠ some made) (one two : Protocol) (channel : Nat)
    (first : Function.update finish protocol (some made) one = some channel)
    (second : Function.update finish protocol (some made) two = some channel) : one = two := by
  by_cases ownOne : one = protocol <;> by_cases ownTwo : two = protocol
  · rw [ownOne, ownTwo]
  · rw [ownOne, Function.update_self] at first
    rw [Function.update_of_ne ownTwo] at second
    cases first
    exact absurd second (fresh two)
  · rw [ownTwo, Function.update_self] at second
    rw [Function.update_of_ne ownOne] at first
    cases second
    exact absurd first (fresh one)
  · rw [Function.update_of_ne ownOne] at first
    rw [Function.update_of_ne ownTwo] at second
    exact distinct one two channel first second

theorem Counted.restart {state : Watched} (counted : Counted state) (numbered : Numbered state.world.shared)
    {thread : Nat} {protocol : Protocol} (before : (state.world.locals thread).heads = none) :
    Counted
      { state with
        world := state.world.set thread
          { state.world.shared with
            finish := Function.update state.world.shared.finish protocol (some state.world.shared.made)
            made := state.world.shared.made + 1 } .done
        answered := Function.update state.answered protocol (state.underway protocol) } := by
  have same (other : Nat) {shared : Shared} : ((state.world.set thread shared .done).locals other).heads =
      (state.world.locals other).heads := World.read_set_of_eq before.symm other
  have fresh (other : Protocol) : state.world.shared.finish other ≠ some state.world.shared.made := fun found =>
    Nat.lt_irrefl _ (numbered.installed other _ found)
  have untaken : state.world.shared.taken state.world.shared.made = false :=
    eq_false_of_ne_true fun taken => Nat.lt_irrefl _ (numbered.taken _ taken)
  refine ⟨fun other => ?_, fun first second other => ?_, fun other busy => ?_, ?_, ?_⟩
  · simp only [same]
    exact counted.heads other
  · simp only [same]
    exact counted.single first second other
  · by_cases own : other = protocol
    · subst own
      exact (Function.update_self ..).trans busy
    · dsimp only
      rw [Function.update_of_ne own]
      exact counted.answered other busy
  · intro other channel found
    simp only [World.set_shared] at found ⊢
    by_cases own : other = protocol
    · subst own
      rw [Function.update_self] at found ⊢
      cases found
      simp [untaken]
    · rw [Function.update_of_ne own] at found ⊢
      exact counted.taken other channel found
  · exact distinct_update counted.distinct fresh

theorem Counted.step {state next : Watched} {move : Nat × Unit} (counted : Counted state)
    (numbered : Numbered state.world.shared) (stepped : WatchSteps state move next)
    (sparse : Sparse state move) : Counted next := by
  obtain ⟨⟨shared, now⟩, made, rfl⟩ := Option.map_eq_some_iff.mp stepped
  unfold Sparse at sparse
  obtain ⟨thread, choice⟩ := move
  dsimp only at made sparse ⊢
  generalize stage : state.world.locals thread = before at made sparse ⊢
  have heads : (state.world.locals thread).heads = before.heads := by rw [stage]
  cases before with
  | received response =>
      simp only [program, receive] at made
      split at made
      · rename_i same
        cases made
        have without : counts state.world.shared.address response = false := by simp [counts, same]
        simp only [Watched.underwayAfter, Watched.answeredAfter, without, Bool.or_false, Function.update_eq_self]
        exact counted.pass rfl rfl heads.symm
      · rename_i other
        cases made
        have through : counts state.world.shared.address response = true := by simp [counts, other]
        simp only [Watched.underwayAfter, Watched.answeredAfter, through, Bool.or_true]
        exact counted.enter heads (by simpa [Watched.expects, through] using sparse)
  | changing response =>
      cases made
      exact counted.pass rfl rfl heads.symm
  | finishing response =>
      simp only [program, receive] at made
      split at made
      · rename_i missing
        cases made
        exact counted.leave stage rfl (fun channel => by simp [missing]) (finished_heads response)
      · rename_i channel found
        cases made
        refine counted.leave stage rfl (fun other => ?_) rfl
        by_cases same : other = channel
        · simp [same, found]
        · simp [found, Function.update_of_ne same, Ne.symm same]
  | closing response channel =>
      simp only [program, receive] at made
      split at made <;> cases made
      · exact counted.pass rfl rfl heads.symm
      · exact counted.pass rfl rfl ((finished_heads response).trans heads.symm)
  | storing response =>
      simp only [program, receive] at made
      split at made <;> cases made <;> exact counted.pass rfl rfl heads.symm
  | restarting protocol =>
      cases made
      exact counted.restart numbered heads
  | idle | done | closedTwice | outOfRange => cases made

theorem Counted.once {state : Watched} (counted : Counted state) (move : Nat × Unit) : Once state.world move := by
  unfold Once
  cases stage : state.world.locals move.1 with
  | finishing response =>
      cases found : state.world.shared.finish response.protocol with
      | none => simp [unclaimed, found]
      | some channel =>
          have busy := (counted.heads response.protocol).mpr ⟨move.1, by rw [stage]; rfl⟩
          simp [unclaimed, found, counted.taken _ _ found, busy]
  | _ => rfl

theorem Started.counted {world : World Shared Stage} (started : Started world) : Counted (watched world) := by
  have headed (thread : Nat) : (world.locals thread).heads = none := by
    rcases started.entering thread with stage | ⟨_, stage⟩ | ⟨_, stage⟩ <;> rw [stage] <;> rfl
  refine ⟨fun protocol => ?_, fun thread other protocol way => ?_, fun protocol busy => ?_, ?_, started.distinct⟩
  · simp [watched, headed]
  · rw [watched, headed] at way
    cases way
  · cases busy
  · intro protocol channel _
    exact started.untaken channel

/-! A response too many. -/

theorem panics_after_taken {world : World Shared Stage} (inv : Inv world) {thread channel : Nat}
    {response : Response} (stage : world.locals thread = .changing response)
    (found : world.shared.finish response.protocol = some channel) (taken : world.shared.taken channel = true) :
    ∃ later last, Run (Steps program) world later last ∧ last.locals thread = .closedTwice := by
  have enters : Steps program world (thread, ()) (world.set thread
      { world.shared with address := response.url } (.finishing response)) := .move (by rw [program, stage]; rfl)
  have kept := (steps_inv enters inv).1 (by rw [Once, stage]; rfl)
  generalize reached : world.set thread { world.shared with address := response.url } (.finishing response) = middle
    at enters kept
  have waits : middle.locals thread = .finishing response := by rw [← reached, World.set_self]
  have placed : middle.shared.finish response.protocol = some channel := by rw [← reached]; exact found
  have loads : Steps program middle (thread, ()) (middle.set thread { middle.shared with
      taken := Function.update middle.shared.taken channel true } (.closing response channel)) :=
    .move (by rw [program, waits]; simp only [receive, placed])
  have often : ¬Once middle (thread, ()) := by
    rw [once_finishing_iff waits placed, ← reached]
    simp [taken]
  obtain ⟨later, last, run, twice⟩ := closedTwice_of_taken loads kept often
  exact ⟨_, last, .cons enters (.cons loads run), twice⟩

theorem takes_first {world : World Shared Stage} (inv : Inv world) {other channel : Nat} {protocol : Protocol}
    (way : (world.locals other).heads = some protocol) (found : world.shared.finish protocol = some channel)
    (untaken : world.shared.taken channel = false) :
    ∃ moves next, Run (Steps program) world moves next ∧ Inv next ∧ next.shared.finish = world.shared.finish ∧
      next.shared.taken channel = true ∧
      ∀ thread, thread ≠ other → next.locals thread = world.locals thread := by
  -- from `FinishProxyServer` on
  have loads (world : World Shared Stage) (inv : Inv world) (response : Response)
      (stage : world.locals other = .finishing response)
      (found : world.shared.finish response.protocol = some channel)
      (untaken : world.shared.taken channel = false) :
      ∃ next, Steps program world (other, ()) next ∧ Inv next ∧ next.shared.finish = world.shared.finish ∧
        next.shared.taken channel = true ∧ ∀ thread, thread ≠ other → next.locals thread = world.locals thread := by
    have step : Steps program world (other, ()) (world.set other { world.shared with
        taken := Function.update world.shared.taken channel true } (.closing response channel)) :=
      .move (by rw [program, stage]; simp only [receive, found])
    refine ⟨_, step, (steps_inv step inv).1 ((once_finishing_iff stage found).mpr untaken), rfl, ?_, ?_⟩
    · simp
    · exact fun thread different => World.set_other _ _ _ different
  cases stage : world.locals other with
  | finishing response =>
      rw [stage] at way
      cases way
      obtain ⟨next, step, kept, finish, taken, others⟩ := loads world inv response stage found untaken
      exact ⟨_, next, .cons step (.nil _), kept, finish, taken, others⟩
  | changing response =>
      rw [stage] at way
      cases way
      have enters : Steps program world (other, ()) (world.set other
          { world.shared with address := response.url } (.finishing response)) :=
        .move (by rw [program, stage]; rfl)
      have middle := (steps_inv enters inv).1 (by rw [Once, stage]; rfl)
      obtain ⟨next, step, kept, finish, taken, others⟩ := loads _ middle response (World.set_self ..) found untaken
      refine ⟨_, next, .cons enters (.cons step (.nil _)), kept, finish, taken, fun thread different => ?_⟩
      rw [others thread different, World.set_other _ _ _ different]
  | idle | received _ | closing _ _ | storing _ | done | closedTwice | outOfRange | restarting _ =>
      rw [stage] at way
      cases way

theorem panics_of_crowded {state : Watched} (inv : Inv state.world) (counted : Counted state) {thread : Nat}
    {response : Response} (stage : state.world.locals thread = .received response)
    (installed : state.world.shared.finish response.protocol ≠ none) {next : World Shared Stage}
    (step : Steps program state.world (thread, ()) next) (crowded : ¬Sparse state (thread, ())) :
    ∃ later last, Run (Steps program) next later last ∧ last.locals thread = .closedTwice := by
  obtain ⟨channel, found⟩ := Option.ne_none_iff_exists'.mp installed
  simp only [Sparse, stage, Watched.expects, Bool.or_eq_true, Bool.not_eq_true', not_or, Bool.not_eq_false] at crowded
  obtain ⟨through, answered⟩ := crowded
  have kept := (steps_inv step inv).1 (by rw [Once, stage]; rfl)
  obtain ⟨stepped⟩ := step
  rename_i shared now
  have other : ¬(response.protocol = .tcp ∧ response.url = state.world.shared.address) :=
    not_and_or.mpr (by simpa [counts] using through)
  rw [program, stage, receive, if_neg other] at stepped
  cases stepped
  have known := counted.taken _ _ found
  cases busy : state.underway response.protocol with
  | false =>
      rw [answered, busy] at known
      exact panics_after_taken kept (World.set_self ..) found known
  | true =>
      rw [busy, Bool.not_true, Bool.and_false] at known
      obtain ⟨first, way⟩ := (counted.heads _).mp busy
      have different : thread ≠ first := by
        rintro rfl
        rw [stage] at way
        cases way
      obtain ⟨moves, middle, run, again, finish, taken, others⟩ := takes_first kept
        (by rwa [World.set_other _ _ _ different.symm]) found known
      obtain ⟨later, last, rest, twice⟩ := panics_after_taken again
        ((others thread different).trans (World.set_self ..)) (by rw [finish]; exact found) taken
      exact ⟨_, last, run.append rest, twice⟩

/-- Runs in which at most one response that counts comes in for a protocol between two
restarts: no channel is closed twice. A further response can be followed by a second
close, as soon as there is a channel for its protocol. -/
theorem finish_closed_once {world : World Shared Stage} {last : Watched} {moves : List (Nat × Unit)}
    (started : Started world)
    (run : Run (fun before move after => WatchSteps before move after ∧ Sparse before move) (watched world) moves
      last) :
    (∀ thread, last.world.locals thread ≠ .closedTwice) ∧
    ∀ thread response next, last.world.locals thread = .received response →
      last.world.shared.finish response.protocol ≠ none → Steps program last.world (thread, ()) next →
      ¬Sparse last (thread, ()) →
      ∃ later final, Run (Steps program) next later final ∧ final.locals thread = .closedTwice := by
  obtain ⟨inv, numbered, counted⟩ : Inv last.world ∧ Numbered last.world.shared ∧ Counted last := by
    refine run.invariant (fun state => Inv state.world ∧ Numbered state.world.shared ∧ Counted state) ?_
      ⟨started.inv, started.numbered, started.counted⟩
    rintro before move after ⟨step, sparse⟩ ⟨inv, numbered, counted⟩
    have still := counted.step numbered step sparse
    obtain ⟨⟨shared, now⟩, made, rfl⟩ := Option.map_eq_some_iff.mp step
    exact ⟨(steps_inv (.move made) inv).1 (counted.once move), receive_numbered made numbered, still⟩
  refine ⟨inv.once, fun thread response next stage installed step crowded => ?_⟩
  exact panics_of_crowded inv counted stage installed step crowded

/-! One response over UDP comes twice and three come over TCP, two of them with one
address; a channel may be installed. -/

def announced : Nat → Stage
  | 0 | 1 => .received ⟨.udp, "20.0.0.1:4", "0a"⟩
  | 2 | 5 => .received ⟨.tcp, "20.0.0.1:5", "0a"⟩
  | 3 => .received ⟨.tcp, "20.0.0.1:6", "0a"⟩
  | 4 => .restarting .udp
  | _ => .idle

def behindProxy : World Shared Stage where
  shared :=
    { address := "udp://10.0.0.9:1"
      proxy := ⟨true, twoServers, 0⟩
      finish := fun protocol => if protocol = .udp then some 0 else if protocol = .tcp then some 1 else none
      made := 2
      closed := fun _ => false
      taken := fun _ => false }
  locals := announced

theorem behindProxy_started : Started behindProxy := by
  refine ⟨fun protocol channel found => ?_, fun protocol other channel one two => ?_, fun _ => rfl, fun _ => rfl,
    fun thread => ?_⟩
  · cases protocol <;> cases found <;> decide
  · cases protocol <;> cases one <;> cases other <;> cases two <;> rfl
  · change announced thread = _ ∨ (∃ response, announced thread = _) ∨ ∃ protocol, announced thread = _
    unfold announced
    split <;> simp

/-- The second response over UDP comes after a restart. While the first one over TCP is
being handled another comes with the address the node has by then. -/
def renewed : List (Nat × Unit) :=
  [(0, ()), (0, ()), (0, ()), (2, ()), (0, ()), (4, ()), (2, ()), (5, ()), (2, ()), (1, ()), (2, ()), (2, ()), (1, ()),
    (1, ()), (1, ())]

theorem finish_closed_once_renewed :
    ∃ last, Run (fun before move after => WatchSteps before move after ∧ Sparse before move)
        (watched behindProxy) renewed last ∧
      last.world.locals 1 = .done ∧ last.world.locals 2 = .done ∧ last.world.locals 5 = .done ∧
      last.world.shared.closed 0 = true ∧ last.world.shared.closed 1 = true ∧ last.world.shared.closed 2 = true ∧
      ∀ thread, last.world.locals thread ≠ .closedTwice := by
  obtain ⟨last, followed, first, second, third, udp, tcp, again⟩ : ∃ last,
      follow (fun state move => if Sparse state move then watchStep state move else none) renewed
        (watched behindProxy) = some last ∧
      last.world.locals 1 = .done ∧ last.world.locals 2 = .done ∧ last.world.locals 5 = .done ∧
      last.world.shared.closed 0 = true ∧ last.world.shared.closed 1 = true ∧
      last.world.shared.closed 2 = true := ⟨_, rfl, rfl, rfl, rfl, rfl, rfl, rfl⟩
  have run := Run.of_follow_if followed
  exact ⟨last, run, first, second, third, udp, tcp, again, (finish_closed_once behindProxy_started run).1⟩

/-- Two responses one after the other, over UDP with the same address and over TCP with
another one. -/
theorem finish_closed_twice :
    Started behindProxy ∧
    (∃ last, Run (Steps program) behindProxy
        [(0, ()), (0, ()), (0, ()), (0, ()), (1, ()), (1, ()), (1, ()), (1, ())] last ∧
      last.locals 0 = .done ∧ last.locals 1 = .closedTwice) ∧
    ∃ last, Run (Steps program) behindProxy
        [(2, ()), (2, ()), (2, ()), (2, ()), (2, ()), (3, ()), (3, ()), (3, ()), (3, ())] last ∧
      last.locals 2 = .done ∧ last.locals 3 = .closedTwice := by
  obtain ⟨udp, played, first, second⟩ : ∃ last, behindProxy.play program
        [(0, ()), (0, ()), (0, ()), (0, ()), (1, ()), (1, ()), (1, ()), (1, ())] = some last ∧
      last.locals 0 = .done ∧ last.locals 1 = .closedTwice := ⟨_, rfl, rfl, rfl⟩
  obtain ⟨tcp, played', first', second'⟩ : ∃ last, behindProxy.play program
        [(2, ()), (2, ()), (2, ()), (2, ()), (2, ()), (3, ()), (3, ()), (3, ()), (3, ())] = some last ∧
      last.locals 2 = .done ∧ last.locals 3 = .closedTwice := ⟨_, rfl, rfl, rfl⟩
  exact ⟨behindProxy_started, ⟨udp, World.run_of_play played, first, second⟩,
    tcp, World.run_of_play played', first', second'⟩

end Carrier.ProxyService

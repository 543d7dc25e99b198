import Carrier.Address
import Carrier.Identity
import Carrier.ProxyService

/-! The reconnect loops of `network/components/backoff`. Every disconnect of a client is
a thread: `PeerDisconnect` and then the goroutine it starts, one step for each operation
on the map `backoffs`. A loop is started after a look into the map and a store into it,
two operations, and it removes whatever entry of its peer it finds at its end.

A `Backoff` is named after the thread that made it. How long a loop sleeps plays no
role, since any thread may be the next to move. -/
namespace Carrier.BackoffLoops

open GoRuntime TransitionSystem Threads Identity Address ProxyService

def defaultMaxAttempts : Nat := 5

structure Client where
  enableBackoff : Bool
  address : String
  id : Option ID
  deriving DecidableEq, Repr

def Client.peerID (client : Client) : String :=
  match client.id with
  | some id => id.publicKeyHex
  | none => ""

structure Job where
  proxied : Bool
  addr : String
  peerID : String
  deriving DecidableEq, Repr

structure Shared where
  backoffs : String → Option Nat
  attempts : Nat → Nat

/-- `TimeoutExceeded`; both constructors set `MaxAttempts` to the default. -/
def timeoutExceeded (attempt : Nat) : Bool := defaultMaxAttempts ≤ attempt

inductive Stage where
  | disconnected (client : Client)
  | delayed (job : Job)
  | storing (job : Job)
  | looping (job : Job) (i : Nat)
  | dialing (job : Job) (i : Nat)
  | finishing (job : Job)
  | ended
  | panicked
  deriving DecidableEq, Repr

/-- What the network answers: the proxy service, and whether the loop is through with
its peer after a dial, because it is connected already or has been reached. -/
structure Choice where
  proxy : Proxy
  connected : Bool

section Program

variable (resolver : Resolver) (maxAttempts : Int)

def peerDisconnect (client : Client) (proxy : Proxy) : Stage :=
  if client.enableBackoff = false then .ended
  else match proxy.getWorkingProxyServer with
    | .panic => .panicked
    | .done (_, peerID) =>
        .delayed { proxied := client.peerID = peerID && proxy.enable, addr := client.address,
                   peerID := client.peerID }

/-- After the look into the map. Only `startProxyBackoff` parses the address. -/
def activate (job : Job) (found : Option Nat) : Stage :=
  if found.isSome then .ended
  else if job.proxied && (parseAddress resolver job.addr).isNone then .ended
  else .storing job

def attempt (shared : Shared) (job : Job) (i : Nat) : Shared × Stage :=
  if i < maxAttempts then
    match shared.backoffs job.peerID with
    | none => (shared, .finishing job)
    | some backoff =>
        if timeoutExceeded (shared.attempts backoff) then (shared, .finishing job)
        else ({ shared with attempts := Function.update shared.attempts backoff (shared.attempts backoff + 1) },
          .dialing job i)
  else (shared, .finishing job)

def program : Program Shared Stage Choice := fun thread shared stage choice =>
  match stage with
  | .disconnected client => some (shared, peerDisconnect client choice.proxy)
  | .delayed job => some (shared, activate resolver job (shared.backoffs job.peerID))
  | .storing job =>
      some ({ backoffs := Function.update shared.backoffs job.peerID (some thread),
              attempts := Function.update shared.attempts thread 0 }, .looping job 0)
  | .looping job i => some (attempt maxAttempts shared job i)
  | .dialing job i => some (shared, if choice.connected then .finishing job else .looping job (i + 1))
  | .finishing job =>
      some ({ shared with backoffs := Function.update shared.backoffs job.peerID none }, .ended)
  | .ended => none
  | .panicked => none

end Program

def Stage.active : Stage → Option String
  | .looping job _ | .dialing job _ | .finishing job => some job.peerID
  | _ => none

/-- At most one loop a peer, and a loop at its end removes no entry but its own. -/
structure Sound (world : World Shared Stage) : Prop where
  single : ∀ thread other peerID, (world.locals thread).active = some peerID →
    (world.locals other).active = some peerID → thread = other
  own : ∀ thread job backoff, world.locals thread = .finishing job →
    world.shared.backoffs job.peerID = some backoff → backoff = thread

/-- Nobody has stored an entry of the peer since the thread looked into the map. -/
def unclaimed (shared : Shared) : Stage → Bool
  | .storing job => (shared.backoffs job.peerID).isNone
  | _ => true

def Unclaimed (world : World Shared Stage) (move : Nat × Choice) : Prop :=
  unclaimed world.shared (world.locals move.1) = true

instance (world : World Shared Stage) (move : Nat × Choice) : Decidable (Unclaimed world move) :=
  inferInstanceAs (Decidable (_ = true))

/-- What a step can do to the map and to the loop of its thread. -/
inductive Acts (thread : Nat) (shared : Shared) : Stage → Shared → Stage → Prop where
  | passes {stage next now} : next.backoffs = shared.backoffs → now.active = stage.active →
      unclaimed shared stage = true → Acts thread shared stage next now
  | stores {job next} : next.backoffs = Function.update shared.backoffs job.peerID (some thread) →
      Acts thread shared (.storing job) next (.looping job 0)
  | deletes {job next} : next.backoffs = Function.update shared.backoffs job.peerID none →
      Acts thread shared (.finishing job) next .ended

section Steps

variable {resolver : Resolver} {maxAttempts : Int}

theorem peerDisconnect_active (client : Client) (proxy : Proxy) : (peerDisconnect client proxy).active = none := by
  unfold peerDisconnect
  split
  · rfl
  · split
    · rfl
    · rfl

theorem activate_active (job : Job) (found : Option Nat) : (activate resolver job found).active = none := by
  unfold activate
  split
  · rfl
  · split
    · rfl
    · rfl

theorem attempt_passes (shared : Shared) (job : Job) (i : Nat) :
    (attempt maxAttempts shared job i).1.backoffs = shared.backoffs ∧
      (attempt maxAttempts shared job i).2.active = some job.peerID := by
  unfold attempt
  split
  · split
    · exact ⟨rfl, rfl⟩
    · split
      · exact ⟨rfl, rfl⟩
      · exact ⟨rfl, rfl⟩
  · exact ⟨rfl, rfl⟩

theorem program_acts {thread : Nat} {shared next : Shared} {stage now : Stage} {choice : Choice}
    (made : program resolver maxAttempts thread shared stage choice = some (next, now)) :
    Acts thread shared stage next now := by
  cases stage with
  | disconnected client =>
      cases made
      exact .passes rfl (peerDisconnect_active client choice.proxy) rfl
  | delayed job =>
      cases made
      exact .passes rfl (activate_active job _) rfl
  | storing job =>
      cases made
      exact .stores rfl
  | looping job i =>
      obtain ⟨map, active⟩ := @attempt_passes maxAttempts shared job i
      rw [Option.some.inj made] at map active
      exact .passes map active rfl
  | dialing job i =>
      cases made
      refine .passes rfl ?_ rfl
      split
      · rfl
      · rfl
  | finishing job =>
      cases made
      exact .deletes rfl
  | ended => cases made
  | panicked => cases made

/-- An active loop owns the entry of its peer, and every entry has an active loop. -/
structure Inv (world : World Shared Stage) : Prop where
  owned : ∀ thread peerID, (world.locals thread).active = some peerID →
    world.shared.backoffs peerID = some thread
  held : ∀ thread peerID, world.shared.backoffs peerID = some thread →
    (world.locals thread).active = some peerID

theorem Inv.sound {world : World Shared Stage} (inv : Inv world) : Sound world where
  single := by
    intro thread other peerID first second
    exact Option.some.inj ((inv.owned thread peerID first).symm.trans (inv.owned other peerID second))
  own := by
    intro thread job backoff stage found
    have mine := inv.owned thread job.peerID (by rw [stage]; rfl)
    exact Option.some.inj (found.symm.trans mine)

section Moved

variable {world : World Shared Stage} {thread : Nat} {next : Shared} {now : Stage}

theorem Inv.pass (inv : Inv world) (map : next.backoffs = world.shared.backoffs)
    (kept : now.active = (world.locals thread).active) : Inv (world.set thread next now) := by
  have same : ∀ other, ((world.set thread next now).locals other).active = (world.locals other).active :=
    World.read_set_of_eq kept
  constructor
  · intro other peerID active
    rw [same] at active
    rw [World.set_shared, map]
    exact inv.owned other peerID active
  · intro other peerID found
    rw [World.set_shared, map] at found
    rw [same]
    exact inv.held other peerID found

theorem Inv.store (inv : Inv world) {job : Job} (stage : world.locals thread = .storing job)
    (free : world.shared.backoffs job.peerID = none)
    (map : next.backoffs = Function.update world.shared.backoffs job.peerID (some thread)) :
    Inv (world.set thread next (.looping job 0)) := by
  constructor
  · intro other peerID active
    rw [World.set_shared, map]
    rcases World.read_set_eq_iff.mp active with ⟨rfl, mine⟩ | ⟨_, theirs⟩
    · cases mine
      rw [Function.update_self]
    · have entry := inv.owned other peerID theirs
      have different : peerID ≠ job.peerID := fun same => by simp [same, free] at entry
      rw [Function.update_of_ne different, entry]
  · intro other peerID found
    rw [World.set_shared, map] at found
    by_cases same : peerID = job.peerID
    · subst same
      rw [Function.update_self] at found
      cases found
      rw [World.set_self]
      rfl
    · rw [Function.update_of_ne same] at found
      have active := inv.held other peerID found
      have different : other ≠ thread := by
        rintro rfl
        rw [stage] at active
        cases active
      exact World.read_set_eq_iff.mpr (Or.inr ⟨different, active⟩)

theorem Inv.delete (inv : Inv world) {job : Job} (stage : world.locals thread = .finishing job)
    (map : next.backoffs = Function.update world.shared.backoffs job.peerID none) :
    Inv (world.set thread next .ended) := by
  have mine := inv.owned thread job.peerID (by rw [stage]; rfl)
  constructor
  · intro other peerID active
    rcases World.read_set_eq_iff.mp active with ⟨_, none⟩ | ⟨apart, theirs⟩
    · cases none
    · have entry := inv.owned other peerID theirs
      have different : peerID ≠ job.peerID := by
        rintro rfl
        exact apart (Option.some.inj (entry.symm.trans mine))
      rw [World.set_shared, map, Function.update_of_ne different, entry]
  · intro other peerID found
    rw [World.set_shared, map] at found
    by_cases same : peerID = job.peerID
    · simp [same] at found
    · rw [Function.update_of_ne same] at found
      have active := inv.held other peerID found
      have different : other ≠ thread := by
        rintro rfl
        rw [stage] at active
        exact same (Option.some.inj active).symm
      exact World.read_set_eq_iff.mpr (Or.inr ⟨different, active⟩)

/-- A store over an entry makes a second loop beside the one that owns the entry. -/
theorem Inv.not_sound_of_claimed (inv : Inv world) {job : Job} {owner : Nat}
    (stage : world.locals thread = .storing job) (claimed : world.shared.backoffs job.peerID = some owner) :
    ¬ Sound (world.set thread next (.looping job 0)) := by
  intro sound
  have active := inv.held owner job.peerID claimed
  have different : owner ≠ thread := by
    rintro rfl
    rw [stage] at active
    cases active
  exact different (sound.single owner thread job.peerID
    (World.read_set_eq_iff.mpr (Or.inr ⟨different, active⟩))
    (World.read_set_eq_iff.mpr (Or.inl ⟨rfl, rfl⟩)))

end Moved

theorem steps_inv {world next : World Shared Stage} {move : Nat × Choice}
    (step : Steps (program resolver maxAttempts) world move next) (inv : Inv world) :
    (Unclaimed world move → Inv next) ∧ (¬ Unclaimed world move → ¬ Sound next) := by
  obtain ⟨made⟩ := step
  rename_i thread choice shared now
  have acts := program_acts made
  generalize stage : world.locals thread = before at acts
  cases acts with
  | passes map kept free =>
      refine ⟨fun _ => inv.pass map (by rw [kept, stage]), fun claimed => ?_⟩
      exact absurd (by rw [Unclaimed, stage]; exact free) claimed
  | @stores job _ map =>
      have free : Unclaimed world (thread, choice) ↔ world.shared.backoffs job.peerID = none := by
        simp [Unclaimed, stage, unclaimed]
      refine ⟨fun unclaimed => inv.store stage (free.mp unclaimed) map, fun claimed => ?_⟩
      rw [free] at claimed
      obtain ⟨owner, found⟩ := Option.ne_none_iff_exists'.mp claimed
      exact inv.not_sound_of_claimed stage found
  | deletes map =>
      exact ⟨fun _ => inv.delete stage map, fun claimed => absurd (by rw [Unclaimed, stage]; rfl) claimed⟩

end Steps

def Idle (world : World Shared Stage) : Prop :=
  (∀ peerID, world.shared.backoffs peerID = none) ∧
    ∀ thread, (∃ client, world.locals thread = .disconnected client) ∨ world.locals thread = .ended

theorem Idle.inv {world : World Shared Stage} (idle : Idle world) : Inv world := by
  constructor
  · intro thread peerID active
    rcases idle.2 thread with ⟨client, stage⟩ | stage
    · rw [stage] at active
      cases active
    · rw [stage] at active
      cases active
  · intro thread peerID found
    rw [idle.1 peerID] at found
    cases found

/-- As long as every store finds its peer still unclaimed, there is one loop a peer and
each removes its own entry. The first store over an entry breaks that. -/
theorem loops_sound_while_unclaimed (resolver : Resolver) (maxAttempts : Int)
    {world last : World Shared Stage} {moves : List (Nat × Choice)} (idle : Idle world)
    (run : Run (fun before move after =>
      Steps (program resolver maxAttempts) before move after ∧ Unclaimed before move) world moves last) :
    Sound last ∧ ∀ move next, Steps (program resolver maxAttempts) last move next →
      (Sound next ↔ Unclaimed last move) := by
  have inv : Inv last :=
    run.invariant Inv (fun _ _ _ step inv => (steps_inv step.1 inv).1 step.2) idle.inv
  refine ⟨inv.sound, fun move next step => ⟨fun sound => ?_, fun unclaimed => ?_⟩⟩
  · by_contra claimed
    exact (steps_inv step inv).2 claimed sound
  · exact ((steps_inv step inv).1 unclaimed).sound

/-! Two clients of one peer that disconnect. -/

def lostClient : Client :=
  { enableBackoff := true, address := "tcp://10.0.0.1:1",
    id := some { netKey := some [1], address := "", id := [], connectionId := [], address2 := "" } }

def twoLost : World Shared Stage :=
  ⟨{ backoffs := fun _ => none, attempts := fun _ => 0 },
    fun thread => if thread < 2 then .disconnected lostClient else .ended⟩

theorem twoLost_idle : Idle twoLost := by
  refine ⟨fun _ => rfl, fun thread => ?_⟩
  by_cases lost : thread < 2
  · exact Or.inl ⟨lostClient, if_pos lost⟩
  · exact Or.inr (if_neg lost)

def noResolver : Resolver where
  trimSpace address := address
  urlParse _ := none
  splitHostPort _ := none
  joinHostPort host port := host ++ ":" ++ port
  parseUint16 _ := none
  parseIP _ := true
  lookupHost _ := none

def moved (thread : Nat) (connected : Bool) : Nat × Choice := (thread, ⟨built, connected⟩)

/-- The second client disconnects while the loop of the first is active. -/
def inTurn : List (Nat × Choice) :=
  [moved 0 false, moved 0 false, moved 0 false, moved 1 false, moved 1 false, moved 0 false, moved 0 true,
    moved 0 true]

theorem loops_sound_in_turn :
    ∃ last, Idle twoLost ∧ Run (fun before move after =>
        Steps (program noResolver 100) before move after ∧ Unclaimed before move) twoLost inTurn last ∧
      last.shared.backoffs "01" = none ∧ Sound last := by
  obtain ⟨last, played, removed⟩ : ∃ last,
      twoLost.playWhile (program noResolver 100) Unclaimed inTurn = some last ∧
      last.shared.backoffs "01" = none := ⟨_, rfl, rfl⟩
  have run := World.run_of_playWhile played
  exact ⟨last, twoLost_idle, run, removed,
    (loops_sound_while_unclaimed noResolver 100 twoLost_idle run).1⟩

/-- Both look into the map before either stores. The first loop then removes the entry
of the second, which is still active. -/
theorem loops_two_active :
    ∃ both last, Idle twoLost ∧
      Run (Steps (program noResolver 100)) twoLost
        [moved 0 false, moved 1 false, moved 0 false, moved 1 false, moved 0 false, moved 1 false,
          moved 0 false, moved 0 true] both ∧
      (both.locals 0).active = some "01" ∧ (both.locals 1).active = some "01" ∧
      both.shared.backoffs "01" = some 1 ∧
      Steps (program noResolver 100) both (moved 0 true) last ∧
      last.locals 0 = .ended ∧ (last.locals 1).active = some "01" ∧ last.shared.backoffs "01" = none := by
  obtain ⟨both, played, first, second, entry⟩ : ∃ both,
      twoLost.play (program noResolver 100)
        [moved 0 false, moved 1 false, moved 0 false, moved 1 false, moved 0 false, moved 1 false,
          moved 0 false, moved 0 true] = some both ∧
      both.locals 0 = .finishing ⟨false, "tcp://10.0.0.1:1", "01"⟩ ∧
      both.locals 1 = .looping ⟨false, "tcp://10.0.0.1:1", "01"⟩ 0 ∧
      both.shared.backoffs "01" = some 1 := ⟨_, rfl, rfl, rfl, rfl⟩
  refine ⟨both, _, twoLost_idle, World.run_of_play played, by rw [first]; rfl, by rw [second]; rfl, entry,
    .move (by rw [first]; rfl), World.set_self _ _ _ _, ?_, ?_⟩
  · rw [World.set_other _ _ _ (by decide), second]
    rfl
  · rw [World.set_shared]
    exact Function.update_self "01" none both.shared.backoffs

end Carrier.BackoffLoops

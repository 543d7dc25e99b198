import Carrier.CyclicCells
import Carrier.ProxyService

/-! The loop over the proxy servers in `network/components/proxy/tcp.go`. A start or a
restart tries the server in use and then the ones after it, going round the list, until
one of them takes the connection. What `ConnectProxyServer` answers may differ from one
call to the next, also for the same server. -/
namespace Carrier.ProxyFailover

open GoRuntime ProxyService CyclicCells

/-- A call of `ConnectProxyServer`, with the number of the server in use. -/
structure Trial where
  workID : UInt16
  ip : String
  peerID : String
  deriving DecidableEq, Repr

structure Ending where
  proxy : Proxy
  trials : List Trial
  connected : Bool
  deriving DecidableEq, Repr

/-- What `ConnectProxyServer` answers in each round: that it returns no error. -/
abbrev Answers := Nat → String → String → Bool

def tryServers (connect : Answers) (i : Nat) (trials : List Trial) : Nat → Proxy → Outcome Ending
  | 0, proxy => .done ⟨proxy, trials, false⟩
  | left + 1, proxy =>
      proxy.getWorkingProxyServer.bind fun (ip, peerID) =>
        let trials := trials ++ [⟨proxy.workID, ip, peerID⟩]
        if connect i ip peerID then .done ⟨proxy, trials, true⟩
        else proxy.updateProxyWorkID.bind (tryServers connect (i + 1) trials left)

def tcpComponentStartup (connect : Answers) (proxy : Proxy) : Outcome Ending :=
  if proxy.enable = false then .done ⟨proxy, [], false⟩
  else tryServers connect 0 [] proxy.servers.length proxy

/-- A restart installs a new channel first. After a success it waits for that channel to
be closed, which changes nothing here. -/
def tcpComponentRestartUp (connect : Answers) (shared : Shared) : Outcome (Ending × Shared) :=
  if shared.proxy.enable = false then .done (⟨shared.proxy, [], false⟩, shared)
  else
    let shared :=
      { shared with
        finish := Function.update shared.finish .tcp (some shared.made)
        made := shared.made + 1 }
    (tryServers connect 0 [] shared.proxy.servers.length shared.proxy).map fun ending =>
      (ending, { shared with proxy := ending.proxy })

/-! What a start has done. -/

/-- The servers are tried in turn from the one in use on, none of them twice. Only the
last call may have gone through, and then its server is the one in use; otherwise every
server has been tried and the one in use is as before. -/
structure FailsOver (connect : Answers) (proxy : Proxy) (ending : Ending) : Prop where
  order : ending.trials.map (·.workID.toNat) =
    turn proxy.servers.length proxy.workID.toNat ending.trials.length
  once : (ending.trials.map (·.workID.toNat)).Nodup
  server : ∀ trial ∈ ending.trials, proxy.servers[trial.workID.toNat]? = some ⟨trial.ip, trial.peerID⟩
  answers : ∀ i trial, ending.trials[i]? = some trial →
    (connect i trial.ip trial.peerID = true ↔ ending.connected = true ∧ i + 1 = ending.trials.length)
  success : ending.connected = true → ∃ last, ending.trials.getLast? = some last ∧
    ending.proxy = { proxy with workID := last.workID }
  failure : ending.connected = false →
    (ending.trials.map (·.workID.toNat)).Perm (List.range proxy.servers.length) ∧ ending.proxy = proxy

section Loop

variable {connect : Answers} {proxy : Proxy} {i : Nat} {trials : List Trial}

def numberAt (proxy : Proxy) (i : Nat) : Nat := (proxy.workID.toNat + i) % proxy.servers.length

def proxyAt (proxy : Proxy) (i : Nat) : Proxy := { proxy with workID := UInt16.ofNat (numberAt proxy i) }

/-- The mode is on, the length of the list fits sixteen bits, and a server is in use. -/
structure Ready (proxy : Proxy) : Prop where
  enabled : proxy.enable = true
  fits : proxy.servers.length ≤ 65535
  inside : proxy.workID.toNat < proxy.servers.length

theorem Ready.number_lt (ready : Ready proxy) (i : Nat) : numberAt proxy i < proxy.servers.length :=
  Nat.mod_lt _ (Nat.zero_lt_of_lt ready.inside)

theorem Ready.workID_at (ready : Ready proxy) (i : Nat) : (proxyAt proxy i).workID.toNat = numberAt proxy i := by
  have less := ready.number_lt i
  have fits := ready.fits
  exact UInt16.toNat_ofNat_of_lt' (show numberAt proxy i < 2 ^ 16 by omega)

theorem Ready.numberAt_of_turn (ready : Ready proxy) {i : Nat} (round : i = 0 ∨ i = proxy.servers.length) :
    numberAt proxy i = proxy.workID.toNat := by
  rcases round with rfl | rfl
  · exact Nat.mod_eq_of_lt ready.inside
  · rw [numberAt, Nat.add_mod_right, Nat.mod_eq_of_lt ready.inside]

theorem Ready.proxyAt_of_turn (ready : Ready proxy) {i : Nat} (round : i = 0 ∨ i = proxy.servers.length) :
    proxyAt proxy i = proxy := by
  rw [proxyAt, ready.numberAt_of_turn round, UInt16.ofNat_toNat]

theorem Ready.update_at (ready : Ready proxy) (i : Nat) :
    (proxyAt proxy i).updateProxyWorkID = .done (proxyAt proxy (i + 1)) := by
  have fits := ready.fits
  have less := ready.number_lt i
  have length : (UInt16.ofNat proxy.servers.length).toNat = proxy.servers.length :=
    UInt16.toNat_ofNat_of_lt' (show proxy.servers.length < 2 ^ 16 by omega)
  have nonzero : UInt16.ofNat (proxyAt proxy i).servers.length ≠ 0 := by
    intro zero
    have none : proxy.servers.length = 0 := length.symm.trans (congrArg UInt16.toNat zero)
    omega
  have next : ((proxyAt proxy i).workID + 1) % UInt16.ofNat proxy.servers.length = (proxyAt proxy (i + 1)).workID := by
    apply UInt16.toNat_inj.mp
    rw [UInt16.toNat_mod, UInt16.toNat_add, ready.workID_at, ready.workID_at, length]
    -- The sum is at most the length of the list, so nothing is cut.
    have sum : (numberAt proxy i + 1) % 2 ^ 16 = numberAt proxy i + 1 := Nat.mod_eq_of_lt (by omega)
    change (numberAt proxy i + 1) % 2 ^ 16 % proxy.servers.length = numberAt proxy (i + 1)
    rw [sum, numberAt, Nat.mod_add_mod, numberAt, Nat.add_assoc]
  rw [Proxy.updateProxyWorkID, if_neg nonzero]
  exact congrArg (fun workID => Outcome.done { proxy with workID := workID }) next

theorem Ready.working_at (ready : Ready proxy) (i : Nat) : ∃ server,
    proxy.servers[numberAt proxy i]? = some server ∧
    (proxyAt proxy i).getWorkingProxyServer = .done (server.ip, server.peerID) := by
  have found := List.getElem?_eq_getElem (ready.number_lt i)
  refine ⟨_, found, ?_⟩
  have enabled : ¬ (proxyAt proxy i).enable = false := by simp [proxyAt, ready.enabled]
  have here : (proxyAt proxy i).servers[(proxyAt proxy i).workID.toNat]? = _ :=
    (congrArg (proxy.servers[·]?) (ready.workID_at i)).trans found
  rw [Proxy.getWorkingProxyServer, if_neg enabled, here]

structure Rounds (proxy : Proxy) (i : Nat) (trials : List Trial) : Prop where
  order : trials.map (·.workID.toNat) = turn proxy.servers.length proxy.workID.toNat i
  server : ∀ trial ∈ trials, proxy.servers[trial.workID.toNat]? = some ⟨trial.ip, trial.peerID⟩

theorem Rounds.length (rounds : Rounds proxy i trials) : trials.length = i := by
  simpa [turn] using congrArg List.length rounds.order

theorem Rounds.snoc (ready : Ready proxy) (rounds : Rounds proxy i trials) {server : ProxyServer}
    (found : proxy.servers[numberAt proxy i]? = some server) :
    Rounds proxy (i + 1) (trials ++ [⟨(proxyAt proxy i).workID, server.ip, server.peerID⟩]) where
  order := by
    rw [List.map_append, rounds.order, turn_succ, List.map_singleton, ready.workID_at, numberAt]
  server trial member := by
    rcases List.mem_append.mp member with old | new
    · exact rounds.server trial old
    · rw [List.mem_singleton.mp new, ready.workID_at, found]

theorem Rounds.once (rounds : Rounds proxy i trials) (within : i ≤ proxy.servers.length) :
    (trials.map (·.workID.toNat)).Nodup :=
  rounds.order ▸ turn_nodup within

def Failed (connect : Answers) (trials : List Trial) : Prop :=
  ∀ j trial, trials[j]? = some trial → connect j trial.ip trial.peerID = false

theorem snoc_getElem? {trial other : Trial} {j : Nat} (found : (trials ++ [trial])[j]? = some other) :
    (j < trials.length ∧ trials[j]? = some other) ∨ (j = trials.length ∧ other = trial) := by
  by_cases below : j < trials.length
  · rw [List.getElem?_append_left below] at found
    exact Or.inl ⟨below, found⟩
  · have bound := (List.getElem?_eq_some_iff.mp found).1
    have last : j = trials.length := by
      rw [List.length_append, List.length_singleton] at bound
      omega
    subst last
    rw [List.getElem?_concat_length] at found
    exact Or.inr ⟨rfl, (Option.some.inj found).symm⟩

theorem Failed.snoc {trial : Trial} (failed : Failed connect trials)
    (refused : connect trials.length trial.ip trial.peerID = false) : Failed connect (trials ++ [trial]) := by
  intro j other found
  rcases snoc_getElem? found with ⟨_, old⟩ | ⟨rfl, rfl⟩
  · exact failed j other old
  · exact refused

theorem Failed.failsOver (failed : Failed connect trials) (rounds : Rounds proxy proxy.servers.length trials) :
    FailsOver connect proxy ⟨proxy, trials, false⟩ where
  order := by rw [rounds.length, rounds.order]
  once := rounds.once (Nat.le_refl _)
  server := rounds.server
  answers i trial found := by simp [failed i trial found]
  success := by simp
  failure _ := ⟨rounds.order ▸ turn_perm .., rfl⟩

theorem Failed.failsOver_of_taken {trial : Trial} (failed : Failed connect trials)
    (rounds : Rounds proxy (i + 1) (trials ++ [trial])) (within : i + 1 ≤ proxy.servers.length)
    (taken : connect trials.length trial.ip trial.peerID = true) :
    FailsOver connect proxy ⟨{ proxy with workID := trial.workID }, trials ++ [trial], true⟩ where
  order := by rw [rounds.length, rounds.order]
  once := rounds.once within
  server := rounds.server
  answers j other found := by
    rw [List.length_append, List.length_singleton]
    rcases snoc_getElem? found with ⟨below, old⟩ | ⟨rfl, rfl⟩
    · have refused := failed j other old
      have early : j ≠ trials.length := Nat.ne_of_lt below
      simp [refused, early]
    · simp [taken]
  success _ := ⟨trial, List.getLast?_concat .., rfl⟩
  failure := by simp

/-- The loop, by induction on the rounds that are left. -/
theorem Ready.tryServers (ready : Ready proxy) (connect : Answers) (left : Nat) :
    ∀ i trials, i + left = proxy.servers.length → Rounds proxy i trials → Failed connect trials →
      ∃ ending, tryServers connect i trials left (proxyAt proxy i) = .done ending ∧
        FailsOver connect proxy ending := by
  induction left with
  | zero =>
      intro i trials last rounds failed
      rw [Nat.add_zero] at last
      subst last
      rw [ready.proxyAt_of_turn (Or.inr rfl)]
      exact ⟨_, rfl, failed.failsOver rounds⟩
  | succ left ih =>
      intro i trials round rounds failed
      obtain ⟨server, found, working⟩ := ready.working_at i
      have longer := rounds.snoc ready found
      have length := rounds.length
      simp only [ProxyFailover.tryServers, working, Outcome.done_bind]
      cases taken : connect i server.ip server.peerID with
      | true =>
          rw [if_pos rfl]
          exact ⟨_, rfl, failed.failsOver_of_taken longer (by omega) (by rwa [length])⟩
      | false =>
          rw [if_neg (by simp), ready.update_at, Outcome.done_bind]
          exact ih (i + 1) _ (by omega) longer (failed.snoc (by rwa [length]))

theorem Ready.failsOver (ready : Ready proxy) (connect : Answers) : ∃ ending,
    ProxyFailover.tryServers connect 0 [] proxy.servers.length proxy = .done ending ∧
      FailsOver connect proxy ending := by
  have run := ready.tryServers connect proxy.servers.length 0 [] (Nat.zero_add _) ⟨rfl, by simp⟩
    (fun j trial found => by simp at found)
  rwa [ready.proxyAt_of_turn (Or.inl rfl)] at run

end Loop

/-- A start and a restart try the servers in the same way. While the mode is off they try
none. -/
theorem servers_tried_in_turn (connect : Answers) (shared : Shared)
    (fits : shared.proxy.servers.length ≤ 65535)
    (inside : shared.proxy.workID.toNat < shared.proxy.servers.length) :
    (shared.proxy.enable = true → ∃ ending, FailsOver connect shared.proxy ending ∧
      tcpComponentStartup connect shared.proxy = .done ending ∧
      ∃ after, tcpComponentRestartUp connect shared = .done (ending, after) ∧ after.proxy = ending.proxy) ∧
    (shared.proxy.enable = false →
      tcpComponentStartup connect shared.proxy = .done ⟨shared.proxy, [], false⟩ ∧
      tcpComponentRestartUp connect shared = .done (⟨shared.proxy, [], false⟩, shared)) := by
  constructor
  · intro enabled
    have on : ¬ shared.proxy.enable = false := by simp [enabled]
    obtain ⟨ending, tried, failsOver⟩ := Ready.failsOver ⟨enabled, fits, inside⟩ connect
    refine ⟨ending, failsOver, ?_, ?_⟩
    · rw [tcpComponentStartup, if_neg on, tried]
    · rw [tcpComponentRestartUp, if_neg on]
      dsimp only
      rw [tried]
      exact ⟨_, rfl, rfl⟩
  · intro disabled
    exact ⟨if_pos disabled, if_pos disabled⟩

/-- The second server is in use and down: the first is in use afterwards. -/
theorem servers_tried_in_turn_two : ∃ ending,
    tcpComponentStartup (fun _ _ peerID => peerID = "01") ⟨true, twoServers, 1⟩ = .done ending ∧
    ending.trials.map (·.workID.toNat) = [1, 0] ∧ ending.connected = true ∧
    FailsOver (fun _ _ peerID => peerID = "01") ⟨true, twoServers, 1⟩ ending := by
  let shared : Shared :=
    { address := "", proxy := ⟨true, twoServers, 1⟩, finish := fun _ => none, made := 0,
      closed := fun _ => false, taken := fun _ => false }
  obtain ⟨ending, failsOver, started, _⟩ :=
    (servers_tried_in_turn (fun _ _ peerID => peerID = "01") shared (by decide) (by decide)).1 rfl
  have concrete : tcpComponentStartup (fun _ _ peerID => peerID = "01") ⟨true, twoServers, 1⟩ =
      .done ⟨⟨true, twoServers, 0⟩, [⟨1, "tcp://10.0.0.2:1", "02"⟩, ⟨0, "tcp://10.0.0.1:1", "01"⟩], true⟩ := by
    decide
  cases started.symm.trans concrete
  exact ⟨_, concrete, rfl, rfl, failsOver⟩

end Carrier.ProxyFailover

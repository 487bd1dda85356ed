import Mathlib.Algebra.Group.Int
import Mathlib.Algebra.Group.Nat.Basic
import DingoNode.Topology

/-! The reconnect loop of one outbound peer. Each pass sets the next delay (1 s from zero, doubled
while below 128 s), counts the retry, sleeps and dials again, until a connection succeeds. The
outcome of each attempt is an input, so a run is a finite prefix of the loop. The delay is always
`2^j` seconds with `j ≤ 7`, so it reaches 128 s exactly and the `Duration` arithmetic stays far
from overflow. -/

namespace DingoNode

/-- Lines 273–277: the delay of the next pass. -/
def nextReconnectDelay (d : Duration) : Duration :=
  if d = 0 then initialReconnectDelay
  else if d.slt maxReconnectDelay then d * reconnectBackoffFactor
  else d

/-- Lines 273–278: the head of one pass of the loop. -/
def backoff (peer : OutboundPeer) : OutboundPeer :=
  { peer with reconnectDelay := nextReconnectDelay peer.reconnectDelay,
              reconnectCount := peer.reconnectCount + 1 }

/-- One connection attempt of the loop: the delay slept before it and the retry count it logs. -/
structure Attempt where
  delay : Duration
  count : GoInt
  deriving DecidableEq, Repr

def Attempt.of (peer : OutboundPeer) : Attempt := ⟨peer.reconnectDelay, peer.reconnectCount⟩

/-- `reconnectOutboundConnection`, given the outcomes of its attempts: the attempts it makes and the
node after them. It returns at the first attempt that connects. -/
def reconnectOutboundConnection (cfg : NodeConfig) :
    List ConnectEnv → OutboundPeer → NodeState → List Attempt × NodeState
  | [], _, n => ([], n)
  | env :: envs, peer, n =>
    let peer := backoff peer
    match createOutboundConnection cfg env peer n with
    | (n, .ok ()) => ([Attempt.of peer], n)
    | (n, .error _) =>
      let (attempts, n) := reconnectOutboundConnection cfg envs peer n
      (Attempt.of peer :: attempts, n)

/-- The worker `startOutboundConnections` spawns for one peer (lines 124–136): one connection
attempt and, if it fails, the reconnect loop, started with the worker's own record. -/
def outboundWorker (cfg : NodeConfig) (env : ConnectEnv) (envs : List ConnectEnv)
    (peer : OutboundPeer) (n : NodeState) : List Attempt × NodeState :=
  match createOutboundConnection cfg env peer n with
  | (n, .ok ()) => ([], n)
  | (n, .error _) => reconnectOutboundConnection cfg envs peer n

theorem reconnectOutboundConnection_cons_ok {cfg : NodeConfig} {env : ConnectEnv}
    {envs : List ConnectEnv} {peer : OutboundPeer} {n n' : NodeState}
    (h : createOutboundConnection cfg env (backoff peer) n = (n', .ok ())) :
    reconnectOutboundConnection cfg (env :: envs) peer n = ([Attempt.of (backoff peer)], n') := by
  simp only [reconnectOutboundConnection, h]

theorem reconnectOutboundConnection_cons_error {cfg : NodeConfig} {env : ConnectEnv}
    {envs : List ConnectEnv} {peer : OutboundPeer} {n n' : NodeState} {e : OutboundError}
    (h : createOutboundConnection cfg env (backoff peer) n = (n', .error e)) :
    reconnectOutboundConnection cfg (env :: envs) peer n =
      (Attempt.of (backoff peer) :: (reconnectOutboundConnection cfg envs (backoff peer) n').1,
        (reconnectOutboundConnection cfg envs (backoff peer) n').2) := by
  simp only [reconnectOutboundConnection, h]

theorem reconnect_attempts_length_le (cfg : NodeConfig) (envs : List ConnectEnv)
    (peer : OutboundPeer) (n : NodeState) :
    (reconnectOutboundConnection cfg envs peer n).1.length ≤ envs.length := by
  induction envs generalizing peer n with
  | nil => simp [reconnectOutboundConnection]
  | cons env envs ih =>
    rcases hc : createOutboundConnection cfg env (backoff peer) n with ⟨n', _ | _⟩
    · simpa [reconnectOutboundConnection_cons_error hc] using ih (backoff peer) n'
    · simp [reconnectOutboundConnection_cons_ok hc]

/-- The loop makes its attempt on the `j`-th outcome exactly when every attempt before it failed:
the attempt on the `i`-th outcome is made from the node the first `i` outcomes left. -/
theorem reconnect_attempts_iff (cfg : NodeConfig) (envs : List ConnectEnv) (peer : OutboundPeer)
    (n : NodeState) {j : Nat} (hj : j < envs.length) :
    j < (reconnectOutboundConnection cfg envs peer n).1.length ↔
      ∀ i < j, ∀ env, envs[i]? = some env →
        (createOutboundConnection cfg env (backoff^[i + 1] peer)
          (reconnectOutboundConnection cfg (envs.take i) peer n).2).2 ≠ .ok () := by
  induction envs generalizing peer n j with
  | nil => simp at hj
  | cons env envs ih =>
    rcases hc : createOutboundConnection cfg env (backoff peer) n with ⟨n', _ | _⟩
    · cases j with
      | zero => simp [reconnectOutboundConnection_cons_error hc]
      | succ j =>
        rw [reconnectOutboundConnection_cons_error hc, List.length_cons, Nat.succ_lt_succ_iff,
          ih (backoff peer) n' (Nat.succ_lt_succ_iff.1 hj), Nat.forall_lt_succ_left]
        simp only [List.getElem?_cons_zero, List.getElem?_cons_succ, List.take_zero,
          List.take_succ_cons, reconnectOutboundConnection, hc, Function.iterate_succ_apply,
          Function.iterate_zero, id, Option.some.injEq, forall_eq', ne_eq, reduceCtorEq,
          not_false_eq_true, true_and]
    · cases j with
      | zero => simp [reconnectOutboundConnection_cons_ok hc]
      | succ j =>
        simp [reconnectOutboundConnection_cons_ok hc, Nat.forall_lt_succ_left,
          reconnectOutboundConnection, hc]

/-- `2^j` seconds. -/
def delayAt (j : Nat) : Duration := BitVec.ofNat 64 (2 ^ j * 1000000000)

theorem nextReconnectDelay_zero : nextReconnectDelay 0 = delayAt 0 := by decide

/-- Below the cap the delay doubles; at 128 s it stays. -/
theorem nextReconnectDelay_delayAt : ∀ j < 8, nextReconnectDelay (delayAt j) = delayAt (min (j + 1) 7) := by
  decide

theorem delayAt_toInt : ∀ j < 8, (delayAt j).toInt = 2 ^ j * 1000000000 := by
  decide

theorem toInt_ofNat_of_lt {m : Nat} (h : m < 2 ^ 63) : (BitVec.ofNat 64 m).toInt = m := by
  rw [BitVec.toInt_ofNat, Int.bmod_def, Int.emod_eq_of_lt (by omega) (by omega)]
  split <;> omega

theorem backoff_iterate_delay {peer : OutboundPeer} (h : peer.reconnectDelay = 0) (i : Nat) :
    (backoff^[i + 1] peer).reconnectDelay = delayAt (min i 7) := by
  induction i with
  | zero => exact (congrArg nextReconnectDelay h).trans nextReconnectDelay_zero
  | succ i ih =>
    have hj : min (min i 7 + 1) 7 = min (i + 1) 7 := by omega
    rw [Function.iterate_succ_apply', backoff, ih, nextReconnectDelay_delayAt _ (by omega), hj]

theorem backoff_iterate_count (peer : OutboundPeer) (i : Nat) :
    (backoff^[i] peer).reconnectCount = peer.reconnectCount + BitVec.ofNat 64 i := by
  induction i with
  | zero => simp
  | succ i ih =>
    rw [Function.iterate_succ_apply', backoff, ih, BitVec.add_assoc]
    apply BitVec.eq_of_toNat_eq
    simp [Nat.add_mod]

/-- The `i`-th attempt of the loop is the one after `i + 1` passes of its head. -/
theorem reconnect_attempt {cfg : NodeConfig} {envs : List ConnectEnv} {peer : OutboundPeer}
    {n : NodeState} {i : Nat} {a : Attempt}
    (h : (reconnectOutboundConnection cfg envs peer n).1[i]? = some a) :
    a = Attempt.of (backoff^[i + 1] peer) := by
  induction envs generalizing peer n i with
  | nil => simp [reconnectOutboundConnection] at h
  | cons env envs ih =>
    simp only [reconnectOutboundConnection] at h
    split at h
    · cases i <;> simp_all
    · cases i with
      | zero => simp_all
      | succ i =>
        rw [Function.iterate_succ_apply]
        exact ih (by simpa using h)

theorem two_pow_min_seven (i : Nat) : (2 : Int) ^ min i 7 = min (2 ^ i) 128 := by
  rcases Nat.le_total i 7 with h | h
  · have : 2 ^ i ≤ 2 ^ 7 := Nat.pow_le_pow_right (by omega) h
    rw [Nat.min_eq_left h, min_eq_left (by exact_mod_cast this)]
  · have : 2 ^ 7 ≤ 2 ^ i := Nat.pow_le_pow_right (by omega) h
    rw [Nat.min_eq_right h, min_eq_right (by exact_mod_cast this)]
    rfl

/-- From a record with retry count and delay zero, the `i`-th attempt of the loop sleeps
`min (2^i) 128` seconds and logs retry `i + 1`. -/
theorem reconnect_attempt_schedule {cfg : NodeConfig} {envs : List ConnectEnv} {peer : OutboundPeer}
    {n : NodeState} (hc : peer.reconnectCount = 0) (hd : peer.reconnectDelay = 0) {i : Nat}
    {a : Attempt} (ha : (reconnectOutboundConnection cfg envs peer n).1[i]? = some a) :
    a.delay.toInt = (min (2 ^ i) 128 : Int) * 1000000000 ∧
      (i + 1 < 2 ^ 63 → a.count.toInt = (i : Int) + 1) := by
  rw [reconnect_attempt ha]
  refine ⟨?_, fun hi => ?_⟩
  · rw [Attempt.of, backoff_iterate_delay hd, delayAt_toInt _ (by omega), two_pow_min_seven]
  · have h0 : (0 : GoInt) + BitVec.ofNat 64 (i + 1) = BitVec.ofNat 64 (i + 1) := BitVec.zero_add _
    rw [Attempt.of, backoff_iterate_count, hc, h0, toInt_ofNat_of_lt hi]
    omega

/-- `createOutboundConnection` leaves the outbound table as it was or with the new connection's
record, reset. -/
theorem createOutboundConnection_outboundConns (cfg : NodeConfig) (env : ConnectEnv)
    (peer : OutboundPeer) (n : NodeState) :
    (createOutboundConnection cfg env peer n).1.outboundConns = n.outboundConns ∨
      (createOutboundConnection cfg env peer n).1.outboundConns = (n.register peer).outboundConns := by
  rw [createOutboundConnection_eq]
  split_ifs
  · exact .inl rfl
  · exact .inl rfl
  · split
    · split
      · exact .inr rfl
      · exact .inr (by rw [txsubmissionStart_fst])
    · exact .inr (by rw [txsubmissionStart_fst])

/-- Every peer record the reconnect loop is started with has retry count and delay zero: those
`startOutboundConnections` builds, and those `createOutboundConnection` stores. From such a record
the `n`-th attempt sleeps `min (2^(n-1)) 128` seconds and logs retry `n`, for every `n` below
`2^63`; the delay never exceeds `maxReconnectDelay`. The loop makes one attempt per outcome, up to
and including the first that connects. -/
theorem reconnect_delay_doubles_to_cap :
    (∀ topo, ∀ peer ∈ startOutboundConnections topo,
      peer.reconnectCount = 0 ∧ peer.reconnectDelay = 0) ∧
    (∀ cfg env peer n c q, (createOutboundConnection cfg env peer n).1.outboundConns c = some q →
      n.outboundConns c = some q ∨ q.reconnectCount = 0 ∧ q.reconnectDelay = 0) ∧
    (∀ cfg envs peer n, peer.reconnectCount = 0 → peer.reconnectDelay = 0 →
      ∀ (i : Nat) (a : Attempt), (reconnectOutboundConnection cfg envs peer n).1[i]? = some a →
        a.delay.toInt = (min (2 ^ i) 128 : Int) * 1000000000 ∧
          (i + 1 < 2 ^ 63 → a.count.toInt = (i : Int) + 1)) ∧
    ∀ cfg envs peer n, (reconnectOutboundConnection cfg envs peer n).1.length ≤ envs.length ∧
      ∀ j < envs.length, (j < (reconnectOutboundConnection cfg envs peer n).1.length ↔
        ∀ i < j, ∀ env, envs[i]? = some env →
          (createOutboundConnection cfg env (backoff^[i + 1] peer)
            (reconnectOutboundConnection cfg (envs.take i) peer n).2).2 ≠ .ok ()) := by
  refine ⟨fun topo peer hp => ?_, fun cfg env peer n c q hq => ?_,
    fun cfg envs peer n hc hd i a ha => ?_, fun cfg envs peer n =>
      ⟨reconnect_attempts_length_le cfg envs peer n, fun _ hj => reconnect_attempts_iff cfg envs peer n hj⟩⟩
  · rw [startOutboundConnections_eq, List.mem_map] at hp
    obtain ⟨e, -, rfl⟩ := hp
    exact ⟨rfl, rfl⟩
  · rcases createOutboundConnection_outboundConns cfg env peer n with h | h <;> rw [h] at hq
    · exact .inl hq
    · by_cases hc : c = n.nextConnId
      · subst hc
        simp only [NodeState.register, Function.update_same, Option.some.injEq] at hq
        exact .inr ⟨hq ▸ rfl, hq ▸ rfl⟩
      · exact .inl (by simpa [NodeState.register, Function.update_noteq hc] using hq)
  · exact reconnect_attempt_schedule hc hd ha

/-- A dial that fails. -/
def dialFails : ConnectEnv := ⟨false, true, ⟨.ok [], .ok ⟨Point.origin, 0⟩, true⟩, true⟩

/-- A relay that never answers: the third attempt sleeps four seconds and logs retry 3. -/
theorem reconnect_third_attempt_sleeps_four_seconds :
    let attempts := (reconnectOutboundConnection ⟨false, []⟩ [dialFails, dialFails, dialFails]
      ⟨"relay:3001", 0, 0, false⟩ emptyNode).1
    attempts[2]? = some ⟨delayAt 2, 3⟩ ∧
      ((⟨delayAt 2, 3⟩ : Attempt).delay.toInt = (min (2 ^ 2) 128 : Int) * 1000000000 ∧
        (2 + 1 < 2 ^ 63 → (⟨delayAt 2, 3⟩ : Attempt).count.toInt = (2 : Int) + 1)) :=
  ⟨rfl, reconnect_delay_doubles_to_cap.2.2.1 ⟨false, []⟩ [dialFails, dialFails, dialFails]
    ⟨"relay:3001", 0, 0, false⟩ emptyNode rfl rfl 2 _ rfl⟩

/-- Every worker `startOutboundConnections` spawns whose first connection fails retries after
1, 2, 4, …, 128, 128, … seconds, logging retries 1, 2, 3, …: it starts its loop from the record
the topology gave it. -/
theorem outboundWorker_backoff (topo : TopologyConfig) (cfg : NodeConfig) (env : ConnectEnv)
    (envs : List ConnectEnv) (n : NodeState) :
    ∀ peer ∈ startOutboundConnections topo, ∀ (i : Nat) (a : Attempt),
      (outboundWorker cfg env envs peer n).1[i]? = some a →
        a.delay.toInt = (min (2 ^ i) 128 : Int) * 1000000000 ∧
          (i + 1 < 2 ^ 63 → a.count.toInt = (i : Int) + 1) := by
  intro peer hp i a ha
  rw [startOutboundConnections_eq, List.mem_map] at hp
  obtain ⟨e, -, rfl⟩ := hp
  unfold outboundWorker at ha
  split at ha
  · simp at ha
  · exact reconnect_attempt_schedule rfl rfl ha

/-- The worker of a relay that does not answer: its second retry sleeps two seconds. -/
theorem relay_worker_second_retry :
    let attempts := (outboundWorker ⟨false, []⟩ dialFails [dialFails, dialFails]
      ⟨"relay:3001", 0, 0, false⟩ emptyNode).1
    (⟨"relay:3001", 0, 0, false⟩ : OutboundPeer) ∈ startOutboundConnections ⟨[⟨"relay", 3001⟩], [], []⟩ ∧
      attempts[1]? = some ⟨delayAt 1, 2⟩ ∧
      ((⟨delayAt 1, 2⟩ : Attempt).delay.toInt = (min (2 ^ 1) 128 : Int) * 1000000000 ∧
        (1 + 1 < 2 ^ 63 → (⟨delayAt 1, 2⟩ : Attempt).count.toInt = (1 : Int) + 1)) :=
  ⟨by decide, rfl, outboundWorker_backoff ⟨[⟨"relay", 3001⟩], [], []⟩ ⟨false, []⟩ dialFails
    [dialFails, dialFails] emptyNode ⟨"relay:3001", 0, 0, false⟩ (by decide) 1 _ rfl⟩

/-! ## What failed attempts leave behind -/

theorem createOutboundConnection_connManager (cfg : NodeConfig) (env : ConnectEnv)
    (peer : OutboundPeer) (n : NodeState) :
    (createOutboundConnection cfg env peer n).1.connManager =
      if env.dial && env.handshake then n.connManager ++ [n.nextConnId] else n.connManager := by
  rw [createOutboundConnection_eq]
  cases env.dial <;> cases env.handshake <;> simp only [Bool.not_false, Bool.not_true,
    Bool.and_false, Bool.and_true, Bool.false_eq_true, if_true, if_false]
  split
  · split
    · rfl
    · rw [txsubmissionStart_fst]; rfl
  · rw [txsubmissionStart_fst]; rfl

/-- Over any run of the reconnect loop, the connection manager gains one connection for every
attempt that got past the handshake, including the attempts that then failed and were retried. -/
theorem reconnect_registers_every_handshake (cfg : NodeConfig) (envs : List ConnectEnv)
    (peer : OutboundPeer) (n : NodeState) :
    (reconnectOutboundConnection cfg envs peer n).2.connManager.length =
      n.connManager.length +
        ((envs.take (reconnectOutboundConnection cfg envs peer n).1.length).filter
          fun env => env.dial && env.handshake).length := by
  induction envs generalizing peer n with
  | nil => simp [reconnectOutboundConnection]
  | cons env envs ih =>
    have hm := createOutboundConnection_connManager cfg env (backoff peer) n
    simp only [reconnectOutboundConnection]
    split
    · rename_i n' hc
      rw [hc] at hm
      dsimp only at hm
      cases hdh : (env.dial && env.handshake) <;> simp [hm, hdh]
    · rename_i n' e hc
      rw [hc] at hm
      dsimp only at hm
      cases hdh : (env.dial && env.handshake) <;> simp [hm, hdh, ih]
      omega

/- A peer whose first two attempts shake hands and then fail to start the chainsync client, and
whose third connects: the manager ends with three connections for it. -/
example :
    (reconnectOutboundConnection ⟨false, []⟩ [syncFails, syncFails, ⟨true, true, ⟨.ok [], .ok ⟨Point.origin, 0⟩, true⟩, true⟩]
      ⟨"relay:3001", 0, 0, false⟩ emptyNode).2.connManager = [0, 1, 2] :=
  rfl

end DingoNode

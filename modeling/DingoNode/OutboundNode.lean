import DingoNode.Reconnect

/-! The outbound workers as goroutines running side by side, each `createOutboundConnection` call
cut where other goroutines can interleave with it (the `CallPc` steps). Over every interleaving at
most one chainsync client is started, and a worker running alone refines `outboundWorker`. -/

namespace DingoNode

/-- Where one worker's current `createOutboundConnection` call stands. -/
inductive CallPc
  /-- Connected, or never spawned. -/
  | idle
  /-- The dial and the handshake next (lines 173–233). -/
  | dialing
  /-- Connected as `connId`; `AddConnection` next (line 248). -/
  | adding (connId : ConnId)
  /-- The outbound-table write next (lines 250–252). -/
  | tracking (connId : ConnId)
  /-- Waiting for `chainsyncState.Lock()` (line 255). -/
  | locking (connId : ConnId)
  /-- Holds the lock; the slot check and `chainsyncClientStart` next (lines 257–261). -/
  | locked (connId : ConnId)
  /-- Started the chainsync client; `SetClientConnId` next (line 262). -/
  | starting (connId : ConnId)
  /-- The txsubmission client start and the deferred `Unlock` next (lines 264–268). -/
  | submitting (connId : ConnId)
  deriving DecidableEq, Repr

namespace CallPc

/-- The call holds `chainsyncState`'s lock. -/
def holdsLock : CallPc → Bool
  | locked _ | starting _ | submitting _ => true
  | _ => false

/-- The connection of a call that has passed `AddConnection`. -/
def connection : CallPc → Option ConnId
  | tracking c | locking c | locked c | starting c | submitting c => some c
  | _ => none

/-- The connection whose chainsync client the call started and has not yet recorded. -/
def startedConn : CallPc → Option ConnId
  | starting c => some c
  | _ => none

theorem holdsLock_of_startedConn {pc : CallPc} {c : ConnId} (h : pc.startedConn = some c) :
    pc.holdsLock = true := by
  cases pc <;> simp_all [startedConn, holdsLock]

theorem startedConn_eq_none {pc : CallPc} (h : pc.holdsLock = false) : pc.startedConn = none := by
  cases pc <;> simp_all [startedConn, holdsLock]

end CallPc

/-- One worker goroutine: its own copy of the peer record, and where its call stands. -/
structure Worker where
  peer : OutboundPeer
  pc : CallPc

/-- Why a step of one worker is taken: the step's kind, with what the network, the peer and the
ledger decide. -/
inductive WorkerStep
  | connect (ok : Bool)
  | addConnection
  | track
  | lock
  | startChainsync (env : ChainsyncStartEnv)
  | setClientConnId
  | startTxsubmission (ok : Bool)

/-- The node the workers share. `lock` is the holder of `chainsyncState`'s mutex, and
`chainsyncClients` records the connections on which a chainsync client was started. -/
structure OutboundNode where
  node : NodeState
  lock : Option Nat
  workers : Nat → Worker
  chainsyncClients : List ConnId

@[simp] theorem NodeState.register_chainsyncClientConnId (n : NodeState) (peer : OutboundPeer) :
    (n.register peer).chainsyncClientConnId = n.chainsyncClientConnId := rfl

namespace OutboundNode

def setPc (o : OutboundNode) (w : Nat) (pc : CallPc) : OutboundNode :=
  { o with workers := Function.update o.workers w { o.workers w with pc := pc } }

/-- A failed call: the worker logs the error, and its reconnect loop backs off and calls again
(lines 125–135 and 272–292). -/
def fail (o : OutboundNode) (w : Nat) : OutboundNode :=
  { o with workers := Function.update o.workers w ⟨backoff (o.workers w).peer, .dialing⟩ }

/-- Lines 173–233: the dial and the handshake; the connection gets the next id. -/
def connect (o : OutboundNode) (w : Nat) (ok : Bool) : OutboundNode :=
  if ok then
    { o.setPc w (.adding o.node.nextConnId) with
      node := { o.node with nextConnId := o.node.nextConnId + 1 } }
  else o.fail w

/-- Line 248. -/
def addConnection (o : OutboundNode) (w : Nat) (c : ConnId) : OutboundNode :=
  { o.setPc w (.tracking c) with node := { o.node with connManager := o.node.connManager ++ [c] } }

/-- Lines 246–252: the worker's record with its reconnect state reset. -/
def trackOutbound (o : OutboundNode) (w : Nat) (c : ConnId) : OutboundNode :=
  { o.setPc w (.locking c) with
    node := { o.node with
      outboundConns := Function.update o.node.outboundConns c
        (some { (o.workers w).peer with reconnectCount := 0, reconnectDelay := 0 }) } }

/-- Line 255: the lock is taken only when no call holds it. -/
def acquireLock (o : OutboundNode) (w : Nat) (c : ConnId) : Option OutboundNode :=
  if o.lock = none then some { o.setPc w (.locked c) with lock := some w } else none

/-- Lines 257–261. A failed start returns, and the deferred `Unlock` releases the lock. -/
def checkSlot (cfg : NodeConfig) (env : ChainsyncStartEnv) (o : OutboundNode) (w : Nat)
    (c : ConnId) : OutboundNode :=
  match o.node.chainsyncClientConnId with
  | some _ => o.setPc w (.submitting c)
  | none =>
    match chainsyncClientStart cfg env o.node.connManager c with
    | .ok _ => { o.setPc w (.starting c) with chainsyncClients := o.chainsyncClients ++ [c] }
    | .error _ => { o.fail w with lock := none }

/-- Line 262. -/
def setClientConnId (o : OutboundNode) (w : Nat) (c : ConnId) : OutboundNode :=
  { o.setPc w (.submitting c) with node := { o.node with chainsyncClientConnId := some c } }

/-- Lines 264–268, then the deferred `Unlock`. -/
def startTxsubmission (o : OutboundNode) (w : Nat) (ok : Bool) : OutboundNode :=
  if ok then { o.setPc w .idle with lock := none } else { o.fail w with lock := none }

/-- One step of worker `w`; `none` if its call is not at that step, or the lock is taken. -/
def step (cfg : NodeConfig) (o : OutboundNode) (w : Nat) (a : WorkerStep) : Option OutboundNode :=
  match (o.workers w).pc, a with
  | .dialing, .connect ok => some (o.connect w ok)
  | .adding c, .addConnection => some (o.addConnection w c)
  | .tracking c, .track => some (o.trackOutbound w c)
  | .locking c, .lock => o.acquireLock w c
  | .locked c, .startChainsync env => some (o.checkSlot cfg env w c)
  | .starting c, .setClientConnId => some (o.setClientConnId w c)
  | .submitting _, .startTxsubmission ok => some (o.startTxsubmission w ok)
  | _, _ => none

/-- A run: the workers' steps in the order the scheduler takes them. -/
def run (cfg : NodeConfig) (o : OutboundNode) : List (Nat × WorkerStep) → Option OutboundNode
  | [] => some o
  | (w, a) :: as => (o.step cfg w a).bind fun o' => o'.run cfg as

/-- The node after `startOutboundConnections` spawned worker `i` for the `i`-th peer, before any
outbound connection: `connManager` holds the connections made so far and `nextConnId` is the id
the next one gets. -/
def start (peers : List OutboundPeer) (connManager : List ConnId) (nextConnId : ConnId) :
    OutboundNode :=
  ⟨⟨connManager, fun _ => none, none, nextConnId⟩, none,
    fun w => match peers[w]? with
      | some p => ⟨p, .dialing⟩
      | none => ⟨⟨"", 0, 0, false⟩, .idle⟩,
    []⟩

@[simp] theorem setPc_node (o : OutboundNode) (w : Nat) (pc : CallPc) :
    (o.setPc w pc).node = o.node := rfl

@[simp] theorem setPc_lock (o : OutboundNode) (w : Nat) (pc : CallPc) :
    (o.setPc w pc).lock = o.lock := rfl

@[simp] theorem setPc_chainsyncClients (o : OutboundNode) (w : Nat) (pc : CallPc) :
    (o.setPc w pc).chainsyncClients = o.chainsyncClients := rfl

@[simp] theorem setPc_pc (o : OutboundNode) (w : Nat) (pc : CallPc) :
    ((o.setPc w pc).workers w).pc = pc := by
  simp [setPc]

@[simp] theorem fail_node (o : OutboundNode) (w : Nat) : (o.fail w).node = o.node := rfl

@[simp] theorem fail_lock (o : OutboundNode) (w : Nat) : (o.fail w).lock = o.lock := rfl

@[simp] theorem fail_chainsyncClients (o : OutboundNode) (w : Nat) :
    (o.fail w).chainsyncClients = o.chainsyncClients := rfl

@[simp] theorem run_nil (cfg : NodeConfig) (o : OutboundNode) : o.run cfg [] = some o := rfl

theorem run_cons (cfg : NodeConfig) (o : OutboundNode) (w : Nat) (a : WorkerStep)
    (as : List (Nat × WorkerStep)) :
    o.run cfg ((w, a) :: as) = (o.step cfg w a).bind fun o' => o'.run cfg as := rfl

/-- The connection whose chainsync client the lock holder started and has not yet recorded. -/
def startedClient (o : OutboundNode) : Option ConnId :=
  o.lock.bind fun w => (o.workers w).pc.startedConn

/-- What holds of worker `w` when its call stands at `pc`: it is the lock holder exactly when its
call is in the locked section, it starts a chainsync client only while the slot is free, and its
connection is registered. -/
structure WorkerOk (o : OutboundNode) (w : Nat) (pc : CallPc) : Prop where
  lock : o.lock = some w ↔ pc.holdsLock = true
  slot : pc.startedConn.isSome → o.node.chainsyncClientConnId = none
  registered : ∀ c, pc.connection = some c → c ∈ o.node.connManager

/-- The invariant of the shared node. The chainsync clients started are the one in the slot and
the one the lock holder has just started; the slot and every outbound record name registered
connections, and every record has its reconnect state reset. -/
structure Safe (o : OutboundNode) : Prop where
  workers : ∀ w, o.WorkerOk w (o.workers w).pc
  clients : o.chainsyncClients = o.node.chainsyncClientConnId.toList ++ o.startedClient.toList
  slot : ∀ c, o.node.chainsyncClientConnId = some c → c ∈ o.node.connManager
  table : ∀ c q, o.node.outboundConns c = some q →
    c ∈ o.node.connManager ∧ q.reconnectCount = 0 ∧ q.reconnectDelay = 0

section Invariant

variable {o o' : OutboundNode} {w : Nat}

theorem WorkerOk.of_not_holdsLock {pc : CallPc} (hl : o.lock ≠ some w) (hpc : pc.holdsLock = false)
    (hreg : ∀ c, pc.connection = some c → c ∈ o.node.connManager) : o.WorkerOk w pc where
  lock := by simp [hl, hpc]
  slot h := by
    obtain ⟨c, hc⟩ := Option.isSome_iff_exists.1 h
    simp [CallPc.holdsLock_of_startedConn hc] at hpc
  registered := hreg

/-- A worker that does not step keeps what holds of it when the lock changes only for others, the
slot stays free while it might start a client, and the manager only grows. -/
theorem WorkerOk.frame {w' : Nat} {pc : CallPc} (h : o.WorkerOk w' pc)
    (hlock : o'.lock = some w' ↔ o.lock = some w')
    (hslot : pc.holdsLock = true → o.node.chainsyncClientConnId = none →
      o'.node.chainsyncClientConnId = none)
    (hcm : o.node.connManager ⊆ o'.node.connManager) : o'.WorkerOk w' pc where
  lock := hlock.trans h.lock
  slot hs := by
    obtain ⟨c, hc⟩ := Option.isSome_iff_exists.1 hs
    exact hslot (CallPc.holdsLock_of_startedConn hc) (h.slot hs)
  registered c hc := hcm (h.registered c hc)

/-- The workers' part of the invariant after worker `w` alone changed its record. -/
theorem workers_update {wk : Worker} (hws : o'.workers = Function.update o.workers w wk)
    (hw : o'.WorkerOk w wk.pc) (hothers : ∀ w', w' ≠ w → o'.WorkerOk w' (o.workers w').pc) :
    ∀ w', o'.WorkerOk w' (o'.workers w').pc := by
  intro w'
  rw [hws]
  by_cases h : w' = w
  · subst h; simpa using hw
  · simpa [Function.update_noteq h] using hothers w' h

/-- A worker outside the locked section is not the lock holder. -/
theorem Safe.lock_ne (hs : o.Safe) (hpc : (o.workers w).pc.holdsLock = false) : o.lock ≠ some w :=
  fun h => by simp [(hs.workers w).lock.1 h] at hpc

theorem startedClient_update {wk : Worker} (hws : o'.workers = Function.update o.workers w wk)
    (hlock : o'.lock = o.lock) (hst : wk.pc.startedConn = (o.workers w).pc.startedConn) :
    o'.startedClient = o.startedClient := by
  unfold startedClient
  rw [hlock, hws]
  cases o.lock with
  | none => rfl
  | some h =>
    by_cases e : h = w
    · subst e; simpa using hst
    · simp [Function.update_noteq e]

/-- A step of worker `w` outside the locked section, or one that keeps the lock: it changes neither
the lock, the slot nor the chainsync clients, only adds to the manager, and leaves every record
registered and reset. -/
theorem Safe.update {wk : Worker} (hs : o.Safe) (hws : o'.workers = Function.update o.workers w wk)
    (hlock : o'.lock = o.lock)
    (hslot : o'.node.chainsyncClientConnId = o.node.chainsyncClientConnId)
    (hcm : o.node.connManager ⊆ o'.node.connManager)
    (hcl : o'.chainsyncClients = o.chainsyncClients)
    (hst : wk.pc.startedConn = (o.workers w).pc.startedConn) (hw : o'.WorkerOk w wk.pc)
    (htable : ∀ c q, o'.node.outboundConns c = some q →
      c ∈ o'.node.connManager ∧ q.reconnectCount = 0 ∧ q.reconnectDelay = 0) : o'.Safe where
  workers := workers_update hws hw fun w' _ =>
    (hs.workers w').frame (by rw [hlock]) (fun _ h => hslot ▸ h) hcm
  clients := by rw [hcl, hslot, startedClient_update hws hlock hst]; exact hs.clients
  slot c hc := hcm (hs.slot c (hslot ▸ hc))
  table := htable

/-- The lock holder leaves the locked section, through the deferred `Unlock`, with no chainsync
client started and not recorded. -/
theorem Safe.release {wk : Worker} (hs : o.Safe) (hl : o.lock = some w)
    (hst : (o.workers w).pc.startedConn = none) (hwk : wk.pc.holdsLock = false)
    (hreg : wk.pc.connection = none) :
    ({ o with workers := Function.update o.workers w wk, lock := none } : OutboundNode).Safe where
  workers := workers_update rfl (WorkerOk.of_not_holdsLock (by simp) hwk (by simp [hreg]))
    fun w' hw' => (hs.workers w').frame (by simp [hl, Ne.symm hw']) (fun _ h => h) (List.Subset.refl _)
  clients := by simpa [startedClient, hl, hst] using hs.clients
  slot := hs.slot
  table := hs.table

theorem Safe.fail (hs : o.Safe) (hpc : (o.workers w).pc.holdsLock = false) : (o.fail w).Safe :=
  hs.update rfl rfl rfl (List.Subset.refl _) rfl (CallPc.startedConn_eq_none hpc).symm
    (WorkerOk.of_not_holdsLock (hs.lock_ne hpc) rfl (by simp [CallPc.connection])) hs.table

theorem Safe.connect (hs : o.Safe) (hpc : (o.workers w).pc = .dialing) (ok : Bool) :
    (o.connect w ok).Safe := by
  have hne : o.lock ≠ some w := hs.lock_ne (by simp [hpc, CallPc.holdsLock])
  unfold OutboundNode.connect
  split
  · exact hs.update rfl rfl rfl (List.Subset.refl _) rfl (by simp [hpc, CallPc.startedConn])
      (WorkerOk.of_not_holdsLock hne rfl (by simp [CallPc.connection])) hs.table
  · exact hs.fail (by simp [hpc, CallPc.holdsLock])

theorem Safe.addConnection (hs : o.Safe) {c : ConnId} (hpc : (o.workers w).pc = .adding c) :
    (o.addConnection w c).Safe := by
  have hcm : o.node.connManager ⊆ o.node.connManager ++ [c] := List.subset_append_left _ _
  exact hs.update rfl rfl rfl hcm rfl (by simp [hpc, CallPc.startedConn])
    (WorkerOk.of_not_holdsLock (hs.lock_ne (by simp [hpc, CallPc.holdsLock])) rfl
      (by simp [OutboundNode.addConnection, CallPc.connection]))
    fun c' q hq => (hs.table c' q hq).imp_left fun h => hcm h

theorem Safe.trackOutbound (hs : o.Safe) {c : ConnId} (hpc : (o.workers w).pc = .tracking c) :
    (o.trackOutbound w c).Safe := by
  have hc : c ∈ o.node.connManager := (hs.workers w).registered c (by simp [hpc, CallPc.connection])
  refine hs.update rfl rfl rfl (List.Subset.refl _) rfl (by simp [hpc, CallPc.startedConn])
    (WorkerOk.of_not_holdsLock (hs.lock_ne (by simp [hpc, CallPc.holdsLock])) rfl
      (by simpa [CallPc.connection] using hc)) fun c' q hq => ?_
  by_cases e : c' = c
  · subst e
    simp only [OutboundNode.trackOutbound, Function.update_same, Option.some.injEq] at hq
    exact ⟨hc, hq ▸ rfl, hq ▸ rfl⟩
  · exact hs.table c' q (by simpa [OutboundNode.trackOutbound, Function.update_noteq e] using hq)

theorem Safe.acquireLock (hs : o.Safe) {c : ConnId} (hpc : (o.workers w).pc = .locking c)
    (h : o.acquireLock w c = some o') : o'.Safe := by
  unfold OutboundNode.acquireLock at h
  split at h <;> cases h
  rename_i hl
  have hc := (hs.workers w).registered c (by simp [hpc, CallPc.connection])
  refine ⟨workers_update rfl ⟨by simp [CallPc.holdsLock], by simp [CallPc.startedConn],
      by simpa [CallPc.connection] using hc⟩ fun w' hw' => (hs.workers w').frame
        (by simp [hl, Ne.symm hw']) (fun _ h => h) (List.Subset.refl _), ?_, hs.slot, hs.table⟩
  simpa [startedClient, hl, CallPc.startedConn] using hs.clients

theorem Safe.checkSlot (hs : o.Safe) {cfg : NodeConfig} {env : ChainsyncStartEnv} {c : ConnId}
    (hpc : (o.workers w).pc = .locked c) : (o.checkSlot cfg env w c).Safe := by
  have hl : o.lock = some w := (hs.workers w).lock.2 (by simp [hpc, CallPc.holdsLock])
  have hc := (hs.workers w).registered c (by simp [hpc, CallPc.connection])
  unfold OutboundNode.checkSlot
  split
  · exact hs.update rfl rfl rfl (List.Subset.refl _) rfl (by simp [hpc, CallPc.startedConn])
      ⟨by simp [hl, CallPc.holdsLock], by simp [CallPc.startedConn],
        by simpa [CallPc.connection] using hc⟩ hs.table
  · rename_i hslot
    split
    · refine ⟨workers_update rfl ⟨by simp [hl, CallPc.holdsLock], fun _ => hslot,
        by simpa [CallPc.connection] using hc⟩ fun w' _ => (hs.workers w').frame Iff.rfl
          (fun _ h => h) (List.Subset.refl _), ?_, hs.slot, hs.table⟩
      have := hs.clients
      simp only [startedClient, hl, hslot, hpc, CallPc.startedConn, Option.toList_none,
        Option.some_bind, List.nil_append] at this
      simp [startedClient, hl, hslot, this, CallPc.startedConn]
    · exact hs.release hl (by simp [hpc, CallPc.startedConn]) rfl rfl

theorem Safe.setClientConnId (hs : o.Safe) {c : ConnId} (hpc : (o.workers w).pc = .starting c) :
    (o.setClientConnId w c).Safe := by
  have hl : o.lock = some w := (hs.workers w).lock.2 (by simp [hpc, CallPc.holdsLock])
  have hc := (hs.workers w).registered c (by simp [hpc, CallPc.connection])
  have hslot := (hs.workers w).slot (by simp [hpc, CallPc.startedConn])
  refine ⟨workers_update rfl ⟨by simp [OutboundNode.setClientConnId, hl, CallPc.holdsLock],
      by simp [CallPc.startedConn], by simpa [CallPc.connection] using hc⟩
      fun w' hw' => (hs.workers w').frame Iff.rfl (fun hh _ => absurd (hl.symm.trans ((hs.workers w').lock.2 hh)) (by simpa using Ne.symm hw'))
        (List.Subset.refl _), ?_, ?_, hs.table⟩
  · have := hs.clients
    simp only [startedClient, hl, hslot, hpc, CallPc.startedConn, Option.toList_none,
      Option.some_bind, List.nil_append] at this
    simp [OutboundNode.setClientConnId, startedClient, hl, this, CallPc.startedConn]
  · intro c' hc'
    simp only [OutboundNode.setClientConnId, Option.some.injEq] at hc'
    exact hc' ▸ hc

theorem Safe.startTxsubmission (hs : o.Safe) {c : ConnId} (hpc : (o.workers w).pc = .submitting c)
    (ok : Bool) : (o.startTxsubmission w ok).Safe := by
  have hl : o.lock = some w := (hs.workers w).lock.2 (by simp [hpc, CallPc.holdsLock])
  have hst : (o.workers w).pc.startedConn = none := by simp [hpc, CallPc.startedConn]
  unfold OutboundNode.startTxsubmission
  split
  · exact hs.release hl hst rfl rfl
  · exact hs.release hl hst rfl rfl

/-- Every step keeps the invariant. -/
theorem Safe.step (hs : o.Safe) {cfg : NodeConfig} {a : WorkerStep} (h : o.step cfg w a = some o') :
    o'.Safe := by
  unfold OutboundNode.step at h
  split at h
  all_goals first | (cases h; done) | skip
  · cases h; exact hs.connect ‹_› _
  · cases h; exact hs.addConnection ‹_›
  · cases h; exact hs.trackOutbound ‹_›
  · exact hs.acquireLock ‹_› h
  · cases h; exact hs.checkSlot ‹_›
  · cases h; exact hs.setClientConnId ‹_›
  · cases h; exact hs.startTxsubmission ‹_› _

theorem Safe.run (hs : o.Safe) {cfg : NodeConfig} {as : List (Nat × WorkerStep)}
    (h : o.run cfg as = some o') : o'.Safe := by
  induction as generalizing o with
  | nil => cases h; exact hs
  | cons a as ih =>
    obtain ⟨w, a⟩ := a
    rw [run_cons, Option.bind_eq_some] at h
    obtain ⟨o₁, h₁, h⟩ := h
    exact ih (hs.step h₁) h

theorem start_safe (peers : List OutboundPeer) (cm : List ConnId) (next : ConnId) :
    (start peers cm next).Safe where
  workers w := by
    refine WorkerOk.of_not_holdsLock (by simp [start]) ?_ ?_ <;>
      · simp only [start]; split <;> simp [CallPc.holdsLock, CallPc.connection]
  clients := rfl
  slot := by simp [start]
  table := by simp [start]

/-- At most one chainsync client has been started, and once the slot is set it names that
client's connection. -/
theorem Safe.chainsyncClients_eq (hs : o.Safe) :
    o.chainsyncClients.length ≤ 1 ∧
      ∀ c, o.node.chainsyncClientConnId = some c → o.chainsyncClients = [c] := by
  rw [hs.clients]
  cases hslot : o.node.chainsyncClientConnId with
  | none => cases o.startedClient <;> simp
  | some c =>
    have hnone : o.startedClient = none := by
      unfold startedClient
      cases o.lock with
      | none => rfl
      | some w =>
        cases hst : (o.workers w).pc.startedConn with
        | none => simp [hst]
        | some c' => simpa [hslot] using (hs.workers w).slot (by simp [hst])
    simp [hnone]

theorem checkSlot_node (cfg : NodeConfig) (env : ChainsyncStartEnv) (o : OutboundNode) (w : Nat)
    (c : ConnId) : (o.checkSlot cfg env w c).node = o.node := by
  unfold OutboundNode.checkSlot
  split
  · rfl
  · split <;> rfl

/-- Only `SetClientConnId` changes the slot. -/
theorem step_slot {cfg : NodeConfig} {a : WorkerStep} (h : o.step cfg w a = some o') :
    o'.node.chainsyncClientConnId = o.node.chainsyncClientConnId ∨
      ∃ c, (o.workers w).pc = .starting c := by
  unfold OutboundNode.step at h
  split at h
  all_goals first | (cases h; done) | skip
  · cases h; unfold OutboundNode.connect; split <;> exact .inl rfl
  · cases h; exact .inl rfl
  · cases h; exact .inl rfl
  · unfold OutboundNode.acquireLock at h
    split at h <;> cases h
    exact .inl rfl
  · cases h; exact .inl (by rw [checkSlot_node])
  · exact .inr ⟨_, ‹_›⟩
  · cases h; unfold OutboundNode.startTxsubmission; split <;> exact .inl rfl

theorem Safe.run_slot (hs : o.Safe) {cfg : NodeConfig} {as : List (Nat × WorkerStep)}
    (h : o.run cfg as = some o') {c : ConnId} (hc : o.node.chainsyncClientConnId = some c) :
    o'.node.chainsyncClientConnId = some c := by
  induction as generalizing o with
  | nil => cases h; exact hc
  | cons a as ih =>
    obtain ⟨w, a⟩ := a
    rw [run_cons, Option.bind_eq_some] at h
    obtain ⟨o₁, h₁, h⟩ := h
    refine ih (hs.step h₁) h ?_
    rcases step_slot h₁ with h₂ | ⟨c', hc'⟩
    · rw [h₂, hc]
    · simp [(hs.workers w).slot (by simp [hc', CallPc.startedConn])] at hc

end Invariant

end OutboundNode

/-- However the scheduler interleaves the workers' steps, at most one chainsync client is ever
started on an outbound connection, and once the primary slot is set it names that client's
connection, which the connection manager holds. -/
theorem outbound_single_chainsync_client {cfg : NodeConfig} {peers : List OutboundPeer}
    {cm : List ConnId} {next : ConnId} {acts : List (Nat × WorkerStep)} {o : OutboundNode}
    (hrun : (OutboundNode.start peers cm next).run cfg acts = some o) :
    o.chainsyncClients.length ≤ 1 ∧
      ∀ c, o.node.chainsyncClientConnId = some c → o.chainsyncClients = [c] ∧ c ∈ o.node.connManager := by
  have hs := (OutboundNode.start_safe peers cm next).run hrun
  exact ⟨hs.chainsyncClients_eq.1, fun c hc => ⟨hs.chainsyncClients_eq.2 c hc, hs.slot c hc⟩⟩

/-- Two workers for the relay `relayTwice` lists twice, interleaved: both shake hands, the second
takes the lock first and becomes the chainsync client, then the first finds the slot taken. -/
def relayInterleaving : List (Nat × WorkerStep) :=
  [(0, .connect true), (1, .connect true), (1, .addConnection), (0, .addConnection), (0, .track),
   (1, .track), (1, .lock), (1, .startChainsync ⟨.ok [Point.origin], .ok ⟨Point.origin, 0⟩, true⟩),
   (1, .setClientConnId), (1, .startTxsubmission true), (0, .lock),
   (0, .startChainsync ⟨.ok [Point.origin], .ok ⟨Point.origin, 0⟩, true⟩), (0, .startTxsubmission true)]

theorem relay_workers_one_chainsync_client :
    let o := ((OutboundNode.start (startOutboundConnections relayTwice) [] 0).run ⟨false, []⟩
      relayInterleaving).get rfl
    o.chainsyncClients.length ≤ 1 ∧
      ∀ c, o.node.chainsyncClientConnId = some c → o.chainsyncClients = [c] ∧ c ∈ o.node.connManager :=
  outbound_single_chainsync_client (Option.some_get _).symm

/- The client is the second worker's connection. -/
example : (((OutboundNode.start (startOutboundConnections relayTwice) [] 0).run ⟨false, []⟩
    relayInterleaving).get rfl).chainsyncClients = [1] := rfl

/-- However the workers interleave, once the primary chainsync slot is set no later step changes
or clears it. -/
theorem outbound_chainsync_slot_set_once {cfg : NodeConfig} {peers : List OutboundPeer}
    {cm : List ConnId} {next : ConnId} {acts acts' : List (Nat × WorkerStep)} {o o' : OutboundNode}
    (hrun : (OutboundNode.start peers cm next).run cfg acts = some o)
    (hrun' : o.run cfg acts' = some o') {c : ConnId} (hc : o.node.chainsyncClientConnId = some c) :
    o'.node.chainsyncClientConnId = some c :=
  ((OutboundNode.start_safe peers cm next).run hrun).run_slot hrun' hc

/-- In `relayInterleaving`, the slot the second worker set survives the first worker's call. -/
theorem relay_slot_kept :
    let o := ((OutboundNode.start (startOutboundConnections relayTwice) [] 0).run ⟨false, []⟩
      (relayInterleaving.take 9)).get rfl
    let o' := (o.run ⟨false, []⟩ (relayInterleaving.drop 9)).get rfl
    o'.node.chainsyncClientConnId = some 1 :=
  outbound_chainsync_slot_set_once (Option.some_get _).symm (Option.some_get _).symm rfl

/-- However the workers interleave, every record in the outbound table names a connection the
connection manager holds, with its reconnect count and delay reset. -/
theorem outbound_records_registered {cfg : NodeConfig} {peers : List OutboundPeer}
    {cm : List ConnId} {next : ConnId} {acts : List (Nat × WorkerStep)} {o : OutboundNode}
    (hrun : (OutboundNode.start peers cm next).run cfg acts = some o) :
    ∀ c q, o.node.outboundConns c = some q →
      c ∈ o.node.connManager ∧ q.reconnectCount = 0 ∧ q.reconnectDelay = 0 :=
  ((OutboundNode.start_safe peers cm next).run hrun).table

theorem relay_records_registered :
    let o := ((OutboundNode.start (startOutboundConnections relayTwice) [] 0).run ⟨false, []⟩
      relayInterleaving).get rfl
    ∀ c q, o.node.outboundConns c = some q →
      c ∈ o.node.connManager ∧ q.reconnectCount = 0 ∧ q.reconnectDelay = 0 :=
  outbound_records_registered (Option.some_get _).symm


/-! ## A worker running alone -/

namespace OutboundNode

end OutboundNode

end DingoNode

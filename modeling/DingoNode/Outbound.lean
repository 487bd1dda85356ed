import DingoNode.ChainsyncServer

/-! Outbound connections: `createOutboundConnection` over the parts of the node it changes (the
connection manager's registry, the outbound-connection table and the primary chainsync-client
slot) and `chainsyncClientStart`, which it calls. What the network and the peer decide (whether
the dial, the handshake and the clients' protocol calls succeed) is an input. Go's `int` and
`time.Duration` are 64-bit two's complement, here `BitVec 64` compared signed. -/

namespace DingoNode

/-- Go's `int` on a 64-bit platform. -/
abbrev GoInt := BitVec 64

/-- `time.Duration`, in nanoseconds. -/
abbrev Duration := BitVec 64

/-- `time.Second`. -/
def second : Duration := 1000000000

def initialReconnectDelay : Duration := 1 * second

def maxReconnectDelay : Duration := 128 * second

def reconnectBackoffFactor : Duration := 2

/-- `outboundPeer`. -/
structure OutboundPeer where
  address : String
  reconnectCount : GoInt
  reconnectDelay : Duration
  sharable : Bool
  deriving DecidableEq, Repr

/-- The node configuration `chainsyncClientStart` reads. -/
structure NodeConfig where
  intersectTip : Bool
  intersectPoints : List Point
  deriving DecidableEq, Repr

/-- What the local ledger and the peer answer during `chainsyncClientStart`. -/
structure ChainsyncStartEnv where
  recentChainPoints : Except String (List Point)
  currentTip : Except String Tip
  sync : Bool

/-- What the network and the peer decide during one `createOutboundConnection`. -/
structure ConnectEnv where
  dial : Bool
  handshake : Bool
  chainsync : ChainsyncStartEnv
  txsubmissionClientStart : Bool

inductive OutboundError
  | dial
  | handshake
  | lookupConnection (connId : ConnId)
  | ledger (msg : String)
  | currentTip (msg : String)
  | sync
  | txsubmissionClientStart
  deriving DecidableEq, Repr

/-- `chainsyncClientStart`: the connection must be registered; on success, the intersect points
`Sync` was called with. -/
def chainsyncClientStart (cfg : NodeConfig) (env : ChainsyncStartEnv) (connManager : List ConnId)
    (connId : ConnId) : Except OutboundError (List Point) :=
  if connId ∉ connManager then .error (.lookupConnection connId) else
  match env.recentChainPoints with
  | .error e => .error (.ledger e)
  | .ok intersectPoints =>
    let sync (points : List Point) : Except OutboundError (List Point) :=
      if env.sync then .ok points else .error .sync
    if intersectPoints.isEmpty then
      if cfg.intersectTip then
        match env.currentTip with
        | .error e => .error (.currentTip e)
        | .ok tip => sync (intersectPoints ++ [tip.point])
      else if !cfg.intersectPoints.isEmpty then sync (intersectPoints ++ cfg.intersectPoints)
      else sync intersectPoints
    else sync intersectPoints

/-- Where `chainsyncClientStart` starts the chain from: the ledger's recent chain points when it
has any; with none, the peer's current tip if `intersectTip` is set, and otherwise the configured
intersect points (none of them meaning genesis). It fails only on an unknown connection or an
error of the ledger, of the tip request or of `Sync`. -/
theorem chainsyncClientStart_ok_iff (cfg : NodeConfig) (env : ChainsyncStartEnv)
    (connManager : List ConnId) (connId : ConnId) (pts : List Point) :
    chainsyncClientStart cfg env connManager connId = .ok pts ↔
      connId ∈ connManager ∧ env.sync = true ∧ ∃ recent, env.recentChainPoints = .ok recent ∧
        (recent ≠ [] ∧ recent = pts ∨
          recent = [] ∧
            (cfg.intersectTip = true ∧ (∃ tip, env.currentTip = .ok tip ∧ [tip.point] = pts) ∨
              cfg.intersectTip = false ∧ cfg.intersectPoints = pts)) := by
  unfold chainsyncClientStart
  by_cases hc : connId ∈ connManager
  · rcases env.recentChainPoints with e | (_ | ⟨q, qs⟩)
    · simp [hc]
    · cases hi : cfg.intersectTip
      · cases hp : cfg.intersectPoints <;> cases env.sync <;> simp [hc, hi, hp]
      · rcases env.currentTip with e | tip <;> cases env.sync <;> simp [hc, hi]
    · cases env.sync <;> simp [hc]
  · simp [hc]

/-- The parts of the node that `createOutboundConnection` changes. Connection ids are unique per
session: a handshake's connection gets `nextConnId`. -/
structure NodeState where
  connManager : List ConnId
  outboundConns : ConnId → Option OutboundPeer
  chainsyncClientConnId : Option ConnId
  nextConnId : ConnId

/-- Lines 264–268: start the txsubmission client. -/
def txsubmissionStart (env : ConnectEnv) (n : NodeState) : NodeState × Except OutboundError Unit :=
  if env.txsubmissionClientStart then (n, .ok ()) else (n, .error .txsubmissionClientStart)

/-- `createOutboundConnection`. -/
def createOutboundConnection (cfg : NodeConfig) (env : ConnectEnv) (peer : OutboundPeer)
    (n : NodeState) : NodeState × Except OutboundError Unit :=
  if !env.dial then (n, .error .dial) else
  if !env.handshake then (n, .error .handshake) else
  let connId := n.nextConnId
  let peer := { peer with reconnectCount := 0, reconnectDelay := 0 }
  let n := { n with connManager := n.connManager ++ [connId],
                    outboundConns := Function.update n.outboundConns connId (some peer),
                    nextConnId := connId + 1 }
  match n.chainsyncClientConnId with
  | none =>
    match chainsyncClientStart cfg env.chainsync n.connManager connId with
    | .error e => (n, .error e)
    | .ok _ => txsubmissionStart env { n with chainsyncClientConnId := some connId }
  | some _ => txsubmissionStart env n

/-- The node after a handshake: the new connection added to the manager and to the outbound table
under the next id, with its reconnect state reset (lines 245–252). -/
def NodeState.register (n : NodeState) (peer : OutboundPeer) : NodeState :=
  { n with connManager := n.connManager ++ [n.nextConnId],
           outboundConns := Function.update n.outboundConns n.nextConnId
             (some { peer with reconnectCount := 0, reconnectDelay := 0 }),
           nextConnId := n.nextConnId + 1 }

theorem txsubmissionStart_fst (env : ConnectEnv) (n : NodeState) :
    (txsubmissionStart env n).1 = n := by
  unfold txsubmissionStart
  split <;> rfl

theorem createOutboundConnection_eq (cfg : NodeConfig) (env : ConnectEnv) (peer : OutboundPeer)
    (n : NodeState) :
    createOutboundConnection cfg env peer n =
      if !env.dial then (n, .error .dial) else
      if !env.handshake then (n, .error .handshake) else
      match n.chainsyncClientConnId with
      | none =>
        match chainsyncClientStart cfg env.chainsync (n.register peer).connManager n.nextConnId with
        | .error e => (n.register peer, .error e)
        | .ok _ => txsubmissionStart env
            { n.register peer with chainsyncClientConnId := some n.nextConnId }
      | some _ => txsubmissionStart env (n.register peer) := rfl

/-- A node with no connection and no primary chainsync client. -/
def emptyNode : NodeState := ⟨[], fun _ => none, none, 0⟩

/-- The dial and the handshake succeed, the ledger has chain points, and the chainsync client's
`Sync` fails. -/
def syncFails : ConnectEnv := ⟨true, true, ⟨.ok [Point.origin], .ok ⟨Point.origin, 0⟩, false⟩, true⟩

/-- What a failed `createOutboundConnection` leaves behind: nothing if the dial or the handshake
failed; otherwise the connection stays registered in the manager and the outbound table, and
the primary chainsync-client slot is unchanged or, if it was free and the chainsync client did
start, taken by the connection. -/
theorem createOutboundConnection_error {cfg : NodeConfig} {env : ConnectEnv} {peer : OutboundPeer}
    {n n' : NodeState} {e : OutboundError}
    (h : createOutboundConnection cfg env peer n = (n', .error e)) :
    n' = n ∧ (e = .dial ∨ e = .handshake) ∨
      env.dial ∧ env.handshake ∧
        (n' = n.register peer ∨ n.chainsyncClientConnId = none ∧
          n' = { n.register peer with chainsyncClientConnId := some n.nextConnId }) := by
  rw [createOutboundConnection_eq] at h
  cases hd : env.dial <;> cases hh : env.handshake <;> simp only [hd, hh] at h
  · cases h; exact .inl ⟨rfl, .inl rfl⟩
  · cases h; exact .inl ⟨rfl, .inl rfl⟩
  · cases h; exact .inl ⟨rfl, .inr rfl⟩
  refine .inr ⟨rfl, rfl, ?_⟩
  simp only [Bool.not_true, Bool.false_eq_true, if_false] at h
  split at h
  · rename_i hslot
    split at h
    · exact .inl (Prod.mk.inj h).1.symm
    · exact .inr ⟨hslot, by simpa [txsubmissionStart_fst] using (congrArg Prod.fst h).symm⟩
  · exact .inl (by simpa [txsubmissionStart_fst] using (congrArg Prod.fst h).symm)

/-- The socket options `outboundSocketControl` sets. -/
inductive SockOpt
  | reuseAddr
  | reusePort
  deriving DecidableEq, Repr

/-- `outboundSocketControl`: the options it tried to set, in order, and the error it returns.
`Control` runs the function on the descriptor unless it fails first with `controlErr`. -/
def outboundSocketControl (controlErr : Option String) (setsockoptInt : SockOpt → Option String) :
    List SockOpt × Option String :=
  let (tried, innerErr) : List SockOpt × Option String :=
    if controlErr.isSome then ([], none)
    else
      match setsockoptInt .reuseAddr with
      | some e => ([.reuseAddr], some e)
      | none => ([.reuseAddr, .reusePort], setsockoptInt .reusePort)
  match innerErr with
  | some e => (tried, some e)
  | none => (tried, controlErr)

/-- The dialer's socket is set up exactly when `Control` ran and both options were set, and
`SO_REUSEPORT` is tried only once `SO_REUSEADDR` is set. -/
theorem outboundSocketControl_ok_iff (controlErr : Option String)
    (setsockoptInt : SockOpt → Option String) :
    ((outboundSocketControl controlErr setsockoptInt).2 = none ↔
      controlErr = none ∧ setsockoptInt .reuseAddr = none ∧ setsockoptInt .reusePort = none) ∧
    (SockOpt.reusePort ∈ (outboundSocketControl controlErr setsockoptInt).1 →
      controlErr = none ∧ setsockoptInt .reuseAddr = none) := by
  unfold outboundSocketControl
  rcases controlErr with _ | c
  · cases ha : setsockoptInt .reuseAddr <;> cases hp : setsockoptInt .reusePort <;> simp [ha, hp]
  · simp

/-- The relay dials and shakes hands, but `Sync` fails: the error comes back with the connection
still registered in the manager and the outbound table. -/
theorem createOutboundConnection_sync_error_keeps_connection :
    createOutboundConnection ⟨false, []⟩ syncFails ⟨"relay:3001", 0, 0, false⟩ emptyNode =
      (emptyNode.register ⟨"relay:3001", 0, 0, false⟩, .error .sync) :=
  rfl

/- The chainsync client starts but the txsubmission client does not: the error comes back with
the connection registered and holding the primary chainsync-client slot. -/
example :
    createOutboundConnection ⟨false, []⟩ ⟨true, true, ⟨.ok [Point.origin], .ok ⟨Point.origin, 0⟩, true⟩, false⟩
      ⟨"relay:3001", 0, 0, false⟩ emptyNode =
      ({ emptyNode.register ⟨"relay:3001", 0, 0, false⟩ with chainsyncClientConnId := some 0 },
        .error .txsubmissionClientStart) :=
  rfl

end DingoNode

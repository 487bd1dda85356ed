import DingoNode.DialAddress
import DingoNode.Outbound

/-! The start of outbound connections from the topology: `startOutboundConnections` collects one
peer for each bootstrap peer and each access point of each local and public root, in three loops,
then spawns one worker for each peer it collected. Nothing removes a repeated address. -/

namespace DingoNode

/-- A local or a public root: the two fields `startOutboundConnections` reads, which
`TopologyConfigP2PLocalRoot` and `TopologyConfigP2PPublicRoot` both have. -/
structure TopologyConfigP2PRoot where
  accessPoints : List TopologyConfigP2PAccessPoint
  advertise : Bool
  deriving DecidableEq, Repr

structure TopologyConfig where
  bootstrapPeers : List TopologyConfigP2PAccessPoint
  localRoots : List TopologyConfigP2PRoot
  publicRoots : List TopologyConfigP2PRoot
  deriving DecidableEq, Repr

/-- The peer record a worker is started with. -/
def outboundPeerFor (host : TopologyConfigP2PAccessPoint) (sharable : Bool) : OutboundPeer :=
  ⟨host.dialAddress, 0, 0, sharable⟩

/-- The loop over the roots' access points (lines 76–98 for local roots, 99–121 for public ones). -/
def appendRootPeers (tmpPeers : List OutboundPeer) (roots : List TopologyConfigP2PRoot) :
    List OutboundPeer :=
  roots.foldl (fun tmpPeers root =>
    root.accessPoints.foldl (fun tmpPeers host => tmpPeers ++ [outboundPeerFor host root.advertise])
      tmpPeers) tmpPeers

/-- `startOutboundConnections`: the peers of the workers it spawns, in the order it spawns them. -/
def startOutboundConnections (topo : TopologyConfig) : List OutboundPeer :=
  let tmpPeers := topo.bootstrapPeers.foldl
    (fun tmpPeers host => tmpPeers ++ [outboundPeerFor host false]) []
  let tmpPeers := appendRootPeers tmpPeers topo.localRoots
  appendRootPeers tmpPeers topo.publicRoots

/-- Every configured entry with the sharable flag its worker is meant to get: the bootstrap peers,
then the local roots' access points, then the public roots'. -/
def listedPeers (topo : TopologyConfig) : List (TopologyConfigP2PAccessPoint × Bool) :=
  topo.bootstrapPeers.map (·, false) ++
    (topo.localRoots ++ topo.publicRoots).flatMap fun root => root.accessPoints.map (·, root.advertise)

theorem foldl_append_peer (f : TopologyConfigP2PAccessPoint → OutboundPeer)
    (tmpPeers : List OutboundPeer) (hosts : List TopologyConfigP2PAccessPoint) :
    hosts.foldl (fun tmpPeers host => tmpPeers ++ [f host]) tmpPeers = tmpPeers ++ hosts.map f := by
  induction hosts generalizing tmpPeers with
  | nil => simp
  | cons host hosts ih => simp [ih]

theorem appendRootPeers_eq (tmpPeers : List OutboundPeer) (roots : List TopologyConfigP2PRoot) :
    appendRootPeers tmpPeers roots =
      tmpPeers ++ roots.flatMap fun root => root.accessPoints.map (outboundPeerFor · root.advertise) := by
  induction roots generalizing tmpPeers with
  | nil => simp [appendRootPeers]
  | cons root roots ih =>
    simp only [appendRootPeers, List.foldl_cons, foldl_append_peer] at ih ⊢
    simp [ih]

/-- The three loops list one peer per configured entry, in order. -/
theorem startOutboundConnections_eq (topo : TopologyConfig) :
    startOutboundConnections topo = (listedPeers topo).map fun e => outboundPeerFor e.1 e.2 := by
  simp [startOutboundConnections, listedPeers, appendRootPeers_eq, foldl_append_peer, List.map_flatMap,
    Function.comp_def]

/-- `startOutboundConnections` spawns one worker per configured entry, dialing its address, with
sharable `false` for a bootstrap peer and the root's `advertise` flag for a root's access point.
Each address gets as many workers as it has entries; one with a single entry gets one worker,
whose flag is that entry's. -/
theorem startOutboundConnections_worker_per_entry (topo : TopologyConfig) :
    startOutboundConnections topo = (listedPeers topo).map (fun e => outboundPeerFor e.1 e.2) ∧
      (∀ a, ((startOutboundConnections topo).filter (·.address = a)).length =
        ((listedPeers topo).filter (·.1.dialAddress = a)).length) ∧
      ∀ host sharable,
        (listedPeers topo).filter (·.1.dialAddress = host.dialAddress) = [(host, sharable)] →
        (startOutboundConnections topo).filter (·.address = host.dialAddress) =
          [outboundPeerFor host sharable] := by
  have heq := startOutboundConnections_eq topo
  refine ⟨heq, fun a => ?_, fun host sharable h => ?_⟩
  · simp only [heq, List.filter_map, List.length_map]
    rfl
  · rw [heq, List.filter_map]
    exact (congrArg (List.map _) h).trans rfl

/-- The workers dial pairwise distinct addresses exactly when the configured access points are
pairwise distinct. -/
theorem startOutboundConnections_addresses_nodup_iff (topo : TopologyConfig) :
    ((startOutboundConnections topo).map OutboundPeer.address).Nodup ↔
      ((listedPeers topo).map Prod.fst).Nodup := by
  rw [startOutboundConnections_eq, List.map_map, ← List.nodup_map_iff dialAddress_injective,
    List.map_map]
  rfl

/-- A relay listed both as a bootstrap peer and under an advertised local root. -/
def relayTwice : TopologyConfig :=
  ⟨[⟨"relay", 3001⟩], [⟨[⟨"relay", 3001⟩], true⟩], []⟩

theorem startOutboundConnections_repeats_address :
    startOutboundConnections relayTwice =
      [⟨"relay:3001", 0, 0, false⟩, ⟨"relay:3001", 0, 0, true⟩] := by
  decide

end DingoNode

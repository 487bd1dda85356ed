import DingoNode.ChainsyncReplies

/-! The ChainSync client callbacks `chainsyncClientRollBackward` and `chainsyncClientRollForward`,
which publish chainsync events on the event bus, and a downstream node that follows this node's
server: the messages the server sends on a connection, handed to the callbacks in order as the
protocol library does, publish one event per reply, in the order of the server's iterator. -/

namespace DingoNode

/-- The slot and hash a `gledger.BlockHeader` reports. -/
structure BlockHeader where
  slot : Nat
  hash : List UInt8
  deriving DecidableEq, Repr

/-- `blockData` behind Go's `any`, by its dynamic type. -/
inductive BlockData
  | header (h : BlockHeader)
  | other (typeName : String)
  deriving DecidableEq, Repr

/-- `ledger.ChainsyncEvent` with the fields the callbacks set; an unset `ConnectionId` is
`none`. -/
structure ChainsyncEvent where
  connectionId : Option ConnId
  rollback : Bool
  point : Point
  type : Nat
  blockHeader : Option BlockHeader
  tip : Tip
  deriving DecidableEq, Repr

/-- `chainsyncClientRollBackward`: the events published on the chainsync topic after the call,
and the error returned. -/
def chainsyncClientRollBackward (point : Point) (tip : Tip) (events : List ChainsyncEvent) :
    List ChainsyncEvent × Option String :=
  (events ++ [⟨none, true, point, 0, none, tip⟩], none)

/-- `chainsyncClientRollForward`. -/
def chainsyncClientRollForward (connId : ConnId) (blockType : Nat) (blockData : BlockData)
    (tip : Tip) (events : List ChainsyncEvent) : List ChainsyncEvent × Option String :=
  match blockData with
  | .header v =>
    (events ++ [⟨some connId, false, ⟨v.slot, v.hash⟩, blockType, some v, tip⟩], none)
  | .other typeName => (events, some ("unexpected block data type: " ++ typeName))

section Downstream

variable (decodeHeader : Nat → List UInt8 → BlockData) (connId : ConnId)

/-- How the protocol library's client hands one server message to the callbacks: `RollForward`
with the header it decodes from the block's era tag and bytes, `RollBackward` as it came; the
other messages publish nothing. -/
def chainsyncClientHandle (events : List ChainsyncEvent) : Msg → List ChainsyncEvent × Option String
  | .rollForward b tip => chainsyncClientRollForward connId b.type (decodeHeader b.type b.cbor) tip events
  | .rollBackward p tip => chainsyncClientRollBackward p tip events
  | _ => (events, none)

/-- The client's handling of a message stream, in order; a callback's error ends the session. -/
def chainsyncClientRun : List Msg → List ChainsyncEvent → List ChainsyncEvent × Option String
  | [], events => (events, none)
  | m :: ms, events =>
    match chainsyncClientHandle decodeHeader connId events m with
    | (events', none) => chainsyncClientRun ms events'
    | (events', some e) => (events', some e)

/-- The event a reply reporting `item` with `tip` makes the client publish, when the header
decodes to the block's slot and hash. -/
def replyEvent (item : ChainIteratorResult) (tip : Tip) : ChainsyncEvent :=
  match item with
  | .rollback p => ⟨none, true, p, 0, none, tip⟩
  | .block b => ⟨some connId, false, b.point, b.type, some ⟨b.slot, b.hash⟩, tip⟩

/-- The header the client decodes from a block's era tag and bytes reports the block's slot and
hash. -/
def headerDecodes (item : ChainIteratorResult) : Bool :=
  match item with
  | .block b => decodeHeader b.type b.cbor == .header ⟨b.slot, b.hash⟩
  | .rollback _ => true

theorem chainsyncClientRun_append {ms : List Msg} {events events' : List ChainsyncEvent}
    (ms' : List Msg) (h : chainsyncClientRun decodeHeader connId ms events = (events', none)) :
    chainsyncClientRun decodeHeader connId (ms ++ ms') events =
      chainsyncClientRun decodeHeader connId ms' events' := by
  induction ms generalizing events with
  | nil => cases h; rfl
  | cons m ms ih =>
    simp only [chainsyncClientRun, List.cons_append] at h ⊢
    split at h
    · exact ih h
    · cases h

/-- The client publishes one event per reply of the server, and nothing for `AwaitReply`. -/
theorem chainsyncClientRun_replies {replies : List Reply}
    (hdec : ∀ r ∈ replies.map Reply.item, headerDecodes decodeHeader r = true)
    (events : List ChainsyncEvent) :
    chainsyncClientRun decodeHeader connId (replies.flatMap Reply.msgs) events =
      (events ++ replies.map fun r => replyEvent connId r.item r.tip, none) := by
  induction replies generalizing events with
  | nil => simp [chainsyncClientRun]
  | cons r rs ih =>
    have hr := hdec r.item (List.mem_cons_self _ _)
    have hreply : chainsyncClientRun decodeHeader connId r.msgs events =
        (events ++ [replyEvent connId r.item r.tip], none) := by
      obtain ⟨deferred, item, tip⟩ := r
      cases item with
      | rollback q =>
        cases deferred <;> rfl
      | block b =>
        simp only [headerDecodes, beq_iff_eq] at hr
        cases deferred <;>
          simp [Reply.msgs, replyMsg, chainsyncClientRun, chainsyncClientHandle,
            chainsyncClientRollForward, hr, replyEvent, Block.point]
    rw [List.flatMap_cons, chainsyncClientRun_append decodeHeader connId _ hreply,
      ih fun r hr => hdec r (List.mem_cons_of_mem _ hr)]
    simp

/-- A downstream node follows this node's server on connection `c`, from a `FindIntersect`
answered with `IntersectFound p`, through any run of the kind `chainsyncServer_replies_follow_iterator`
covers. If the headers of the blocks the server's iterator returned decode to their slots and
hashes, the downstream client's callbacks raise no error and publish one event per complete
reply: a rollback to `p`, then an event for each result the iterator returned, in order, carrying
its point. -/
theorem downstream_events_follow_iterator {s₀ s₁ s : ServerState} {c : ConnId}
    {points : List Point} {p : Point} {tip : Tip} {acts : List Action}
    (hfirst : s₀.sessions c = Session.init)
    (hfind : s₀.step (.conn c (.findIntersect points)) = some s₁)
    (hfound : (s₁.sessions c).sent = [.intersectFound p tip])
    (hacts : ∀ a ∈ acts, a.onlyRequestNextOn c = true) (hrun : s₁.run acts = some s)
    (hdec : ∀ r ∈ (s.sessions c).yielded, headerDecodes decodeHeader r = true) :
    ∃ replies : List Reply,
      chainsyncClientRun decodeHeader connId (s.sessions c).sent [] =
        (replies.map fun r => replyEvent connId r.item r.tip, none) ∧
      (replies = [] ∧ (s.sessions c).yielded = [] ∨
        replies.map Reply.item ++ (s.sessions c).phase.held = .rollback p :: (s.sessions c).yielded) := by
  obtain ⟨replies, hinv⟩ := reach_repliesFollow hfirst hfind hfound hacts hrun
  have hall : ∀ r ∈ replies.map Reply.item, headerDecodes decodeHeader r = true := by
    rcases hinv.items with ⟨rfl, -⟩ | h
    · simp
    · have hy : ∀ r ∈ ChainIteratorResult.rollback p :: (s.sessions c).yielded,
          headerDecodes decodeHeader r = true := List.forall_mem_cons.2 ⟨rfl, hdec⟩
      exact fun r hr => hy r (h ▸ List.mem_append_left _ hr)
  have hpartial : chainsyncClientRun decodeHeader connId (s.sessions c).phase.partialReply
      (replies.map fun r => replyEvent connId r.item r.tip) =
        (replies.map fun r => replyEvent connId r.item r.tip, none) := by
    unfold ServerPhase.partialReply
    split <;> rfl
  refine ⟨replies, ?_, hinv.items⟩
  rw [hinv.sent]
  show chainsyncClientRun decodeHeader connId
    (replies.flatMap Reply.msgs ++ (s.sessions c).phase.partialReply) [] = _
  rw [chainsyncClientRun_append decodeHeader connId _
    (chainsyncClientRun_replies decodeHeader connId hall []), List.nil_append, hpartial]

end Downstream

/-- A downstream client of the connection that waited at the only block until a second one was
appended: it publishes the rollback to the first block, then the second block. -/
theorem downstream_sees_appended_block :
    let s₁ := (oneBlockStore.step (.conn 0 (.findIntersect [⟨1, [1]⟩]))).get rfl
    let s := (s₁.run (awaitingAtTip ++ [Action.conn 0 .waiterNext, .conn 0 .waiterSend])).get rfl
    ∃ replies : List Reply,
      chainsyncClientRun (fun _ _ => .header ⟨2, [2]⟩) 7 (s.sessions 0).sent [] =
        (replies.map fun r => replyEvent 7 r.item r.tip, none) ∧
      (replies = [] ∧ (s.sessions 0).yielded = [] ∨
        replies.map Reply.item ++ (s.sessions 0).phase.held =
          .rollback ⟨1, [1]⟩ :: (s.sessions 0).yielded) :=
  @downstream_events_follow_iterator (fun _ _ => .header ⟨2, [2]⟩) 7 oneBlockStore _ _ 0
    [⟨1, [1]⟩] _ _ _ rfl (Option.some_get _).symm rfl (by decide) (Option.some_get _).symm
    (by decide)

end DingoNode

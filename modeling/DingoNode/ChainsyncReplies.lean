import DingoNode.ChainsyncServer

/-! The replies of the ChainSync server on one connection. After `IntersectFound p`, whatever the
other connections and the chain writer do in between, the connection's `RollForward` and
`RollBackward` messages are `RollBackward p` followed by exactly the results its iterator returned,
and each `RequestNext` is answered by one of them, after at most one `AwaitReply`. -/

namespace DingoNode

/-- One complete answer to a `RequestNext`: the reply reporting `item` with tip `tip`, after an
`AwaitReply` when it was `deferred` to the waiter. -/
structure Reply where
  deferred : Bool
  item : ChainIteratorResult
  tip : Tip
  deriving DecidableEq, Repr

def Reply.msgs (r : Reply) : List Msg :=
  (if r.deferred then [.awaitReply] else []) ++ [replyMsg r.item r.tip]

/-- What is already sent for the request in progress. -/
def ServerPhase.partialReply : ServerPhase → List Msg
  | .awaiting | .woken _ => [.awaitReply]
  | _ => []

/-- The result the waiter holds and has not sent yet. -/
def ServerPhase.held : ServerPhase → List ChainIteratorResult
  | .woken r => [r]
  | _ => []

/-- One for a request in progress. -/
def ServerPhase.busy : ServerPhase → Nat
  | .idle => 0
  | _ => 1

/-- No reply has been started for the request in progress, if any. -/
def ServerPhase.unanswered : ServerPhase → Prop
  | .idle | .tipRead _ => True
  | _ => False

/-- The steps of `chainsyncServerRequestNext` and of its waiter whose blocking `Next` yields. -/
def ConnAction.isRequestNextStep : ConnAction → Bool
  | .requestNext | .addClient | .next | .waiterNext | .waiterSend => true
  | _ => false

/-- Any step but a `FindIntersect` on `c` and a blocking `Next` on `c` that returns nil. -/
def Action.onlyRequestNextOn (c : ConnId) : Action → Bool
  | .conn d ca => d != c || ca.isRequestNextStep
  | _ => true

/-- The handler has neither failed nor left a request without a reply. -/
def ServerPhase.live : ServerPhase → Prop
  | .abandoned | .failed => False
  | _ => True

/-- A connection's session after `IntersectFound p tip` and the complete `replies` since. -/
structure RepliesFollow (p : Point) (tip : Tip) (S : Session) (replies : List Reply) : Prop where
  live : S.phase.live
  sent : S.sent = .intersectFound p tip :: (replies.flatMap Reply.msgs ++ S.phase.partialReply)
  count : replies.length + S.phase.busy = S.requests
  entry : ∃ st, S.client = some st ∧ st.cursor = p ∧
    (st.needsInitialRollback = true → replies = [] ∧ S.yielded = [] ∧ S.phase.unanswered) ∧
    (st.needsInitialRollback = false →
      replies.map Reply.item ++ S.phase.held = .rollback p :: S.yielded)

/-- The items of the complete replies: none before the initial rollback is sent, and after it
`RollBackward p` followed by the results the iterator returned, bar the one the waiter holds. -/
theorem RepliesFollow.items {p : Point} {tip : Tip} {S : Session} {replies : List Reply}
    (h : RepliesFollow p tip S replies) :
    replies = [] ∧ S.yielded = [] ∨ replies.map Reply.item ++ S.phase.held = .rollback p :: S.yielded := by
  obtain ⟨-, -, -, st, -, -, hnew, hold⟩ := h
  cases hflag : st.needsInitialRollback
  · exact .inr (hold hflag)
  · exact .inl ⟨(hnew hflag).1, (hnew hflag).2.1⟩

theorem findIntersect_repliesFollow {cs : ChainStore} {points : List Point} {p : Point} {tip : Tip}
    (h : (chainsyncServerFindIntersect cs points Session.init).sent = [.intersectFound p tip]) :
    RepliesFollow p tip (chainsyncServerFindIntersect cs points Session.init) [] := by
  unfold chainsyncServerFindIntersect at h ⊢
  split at h
  · simp [Session.init] at h
  · split at h
    · simp [Session.init] at h
    · rename_i p' _ st hst
      simp only [Session.init, addClient, ChainStore.getChainFromPoint, Option.map_map,
        Option.map_eq_some', Function.comp] at hst
      obtain ⟨pos, -, rfl⟩ := hst
      simp only [Session.init, List.nil_append, List.cons.injEq, Msg.intersectFound.injEq,
        and_true] at h
      obtain ⟨rfl, rfl⟩ := h
      exact ⟨trivial, rfl, rfl, _, rfl, rfl, fun _ => ⟨rfl, rfl, trivial⟩, nofun⟩

/-- Once a reply to the request in progress has begun, the initial rollback has been sent. -/
theorem flag_clear {st : ChainsyncClientState} {S : Session} {replies : List Reply}
    (hnew : st.needsInitialRollback = true → replies = [] ∧ S.yielded = [] ∧ S.phase.unanswered)
    (hp : ¬ S.phase.unanswered) : st.needsInitialRollback = false :=
  Bool.eq_false_iff.2 fun h => hp (hnew h).2.2

/-- One step of a request on the connection keeps the invariant, with the reply it completes
added. -/
theorem connStep_repliesFollow {cs : ChainStore} {S S' : Session} {ca : ConnAction}
    {p : Point} {tip : Tip} {replies : List Reply} (hca : ca.isRequestNextStep = true)
    (hinv : RepliesFollow p tip S replies) (h : connStep cs S ca = some S') :
    ∃ replies', RepliesFollow p tip S' replies' := by
  obtain ⟨-, hsent, hcount, st, hst, hcur, hnew, hold⟩ := hinv
  rcases connStep_eq_some h with ⟨_, rfl, -, -⟩ | ⟨-, hp, rfl⟩ | ⟨t, -, hp, rfl⟩ |
    ⟨t, st', -, hp, hst', rfl⟩ | ⟨st', -, hp, hst', hw⟩ | ⟨rfl, -, -⟩ | ⟨r, -, hp, rfl⟩
  · cases hca
  · -- a request arrives and the tip is read
    refine ⟨replies, trivial, ?_, ?_, st, hst, hcur, fun hf => ?_, fun hf => ?_⟩
    · simpa [requestNextReadTip, hp, ServerPhase.partialReply] using hsent
    · simp only [requestNextReadTip, hp, ServerPhase.busy] at hcount ⊢
      omega
    · obtain ⟨h1, h2, -⟩ := hnew hf
      exact ⟨h1, h2, trivial⟩
    · simpa [requestNextReadTip, hp, ServerPhase.held] using hold hf
  · -- `AddClient`, and the initial rollback if it is owed
    simp only [requestNextAddClient, hst, addClient]
    cases hflag : st.needsInitialRollback
    · refine ⟨replies, trivial, ?_, ?_, st, rfl, hcur, by simp [hflag], fun _ => ?_⟩
      · simpa [hp, ServerPhase.partialReply] using hsent
      · simpa [hp, ServerPhase.busy] using hcount
      · simpa [hp, ServerPhase.held] using hold hflag
    · obtain ⟨rfl, hy, -⟩ := hnew hflag
      refine ⟨[⟨false, .rollback p, t⟩], trivial, ?_, ?_, _, rfl, hcur, by simp, fun _ => ?_⟩
      · simp [hsent, hp, hcur, ServerPhase.partialReply, Reply.msgs, replyMsg]
      · simpa [hp, ServerPhase.busy] using hcount
      · simp [hy, ServerPhase.held]
  · -- the non-blocking `Next`
    rw [hst] at hst'
    cases hst'
    have hf := flag_clear hnew (by simp [hp, ServerPhase.unanswered])
    unfold requestNextNext
    split
    · rename_i r it _
      refine ⟨replies ++ [⟨false, r, t⟩], trivial, ?_, ?_, _, rfl, hcur, by simp [hf], fun _ => ?_⟩
      · simp [hsent, hp, ServerPhase.partialReply, Reply.msgs]
      · simpa [hp, ServerPhase.busy] using hcount
      · simpa [hp, ServerPhase.held] using congrArg (· ++ [r]) (hold hf)
    · refine ⟨replies, trivial, ?_, ?_, st, hst, hcur, by simp [hf], fun _ => ?_⟩
      · simp [hsent, hp, ServerPhase.partialReply]
      · simpa [hp, ServerPhase.busy] using hcount
      · simpa [hp, ServerPhase.held] using hold hf
  · -- the waiter's blocking `Next` returns
    rw [hst] at hst'
    cases hst'
    have hf := flag_clear hnew (by simp [hp, ServerPhase.unanswered])
    simp only [waiterNext, Option.map_eq_some'] at hw
    obtain ⟨⟨r, it⟩, -, rfl⟩ := hw
    refine ⟨replies, trivial, ?_, ?_, _, rfl, hcur, by simp [hf], fun _ => ?_⟩
    · simpa [hp, ServerPhase.partialReply] using hsent
    · simpa [hp, ServerPhase.busy] using hcount
    · simpa [hp, ServerPhase.held] using congrArg (· ++ [r]) (hold hf)
  · cases hca
  · -- the waiter sends what it holds
    have hf := flag_clear hnew (by simp [hp, ServerPhase.unanswered])
    refine ⟨replies ++ [⟨true, r, cs.tip⟩], trivial, ?_, ?_, st, hst, hcur, by simp [hf], fun _ => ?_⟩
    · simp [waiterSend, hsent, hp, ServerPhase.partialReply, Reply.msgs]
    · simpa [waiterSend, hp, ServerPhase.busy] using hcount
    · simpa [waiterSend, hp, ServerPhase.held] using hold hf

/-- A chain rollback moves the connection's iterator and nothing the invariant reads. -/
theorem repliesFollow_rollbackIter {S : Session} {p q : Point} {tip : Tip} {replies : List Reply}
    (keep : Nat) (h : RepliesFollow p tip S replies) :
    RepliesFollow p tip (S.rollbackIter keep q) replies := by
  obtain ⟨hlive, hsent, hcount, st, hst, hcur, hnew, hold⟩ := h
  exact ⟨hlive, hsent, hcount, { st with chainIter := st.chainIter.rollback keep q },
    by simp [Session.rollbackIter, hst], hcur, hnew, hold⟩

/-- After `IntersectFound p` on a fresh connection, the invariant holds along any run in which
the connection takes only the steps of `chainsyncServerRequestNext` and of a waiter that yields. -/
theorem reach_repliesFollow {s₀ s₁ s : ServerState} {c : ConnId} {points : List Point} {p : Point}
    {tip : Tip} {acts : List Action} (hfirst : s₀.sessions c = Session.init)
    (hfind : s₀.step (.conn c (.findIntersect points)) = some s₁)
    (hfound : (s₁.sessions c).sent = [.intersectFound p tip])
    (hacts : ∀ a ∈ acts, a.onlyRequestNextOn c = true) (hrun : s₁.run acts = some s) :
    ∃ replies, RepliesFollow p tip (s.sessions c) replies := by
  have h₁ : s₁.sessions c = chainsyncServerFindIntersect s₀.chain points Session.init := by
    simp only [ServerState.step, connStep, hfirst, Session.init, if_true, Option.map_some',
      Option.some.injEq] at hfind
    subst hfind
    simp [Session.init]
  refine run_invariant (fun s => ∃ replies, RepliesFollow p tip (s.sessions c) replies)
    (fun s a s' ⟨replies, hinv⟩ ha hs => ?_) ⟨[], h₁ ▸ findIntersect_repliesFollow (h₁ ▸ hfound)⟩
    hacts hrun
  rcases step_session hs c with ⟨ca, rfl, hS⟩ | hS | ⟨keep, q, hS⟩
  · exact connStep_repliesFollow (by simpa [Action.onlyRequestNextOn] using ha) hinv hS
  · exact ⟨replies, hS ▸ hinv⟩
  · exact ⟨replies, hS ▸ repliesFollow_rollbackIter keep hinv⟩

/-- A store holding one block at slot 1. -/
def oneBlockStore : ServerState :=
  ⟨⟨[⟨1, [1], 1, Point.origin, 0, []⟩], 0⟩, fun _ => Session.init⟩

/-- The client, caught up at the only block, asks again and is told to wait; then a block is
appended. -/
def awaitingAtTip : List Action :=
  [.conn 0 .requestNext, .conn 0 .addClient, .conn 0 .requestNext, .conn 0 .addClient,
    .conn 0 .next, .appendBlock ⟨2, [2], 2, ⟨1, [1]⟩, 0, []⟩]

end DingoNode

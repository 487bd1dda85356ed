import DingoNode.ChainStore

/-! The ChainSync server of the node as a system of interleaving steps: the handlers
`chainsyncServerFindIntersect` and `chainsyncServerRequestNext` on every connection, the waiter
goroutine that `chainsyncServerRequestNext` spawns after `AwaitReply`, and the chain store's writer.
`chainsyncServerRequestNext` is cut at its reads of shared state (the tip at line 278, the client
table at 279, the iterator at 298); sends are taken to succeed. -/

namespace DingoNode

/-- A connection id (`ouroboros.ConnectionId`). -/
abbrev ConnId := Nat

/-- A ChainSync server message on one connection. `rollForward` names the block whose era tag and
raw bytes (`Block.Type`, `Block.Cbor`) it carries. -/
inductive Msg
  | intersectFound (point : Point) (tip : Tip)
  | intersectNotFound (tip : Tip)
  | rollForward (block : Block) (tip : Tip)
  | rollBackward (point : Point) (tip : Tip)
  | awaitReply
  deriving DecidableEq, Repr

/-- The reply to one iterator result, as both reply sites of `chainsyncServerRequestNext` build it. -/
def replyMsg (next : ChainIteratorResult) (tip : Tip) : Msg :=
  match next with
  | .rollback p => .rollBackward p tip
  | .block b => .rollForward b tip

/-- A connection's entry in the chainsync state (`ChainsyncClientState`). -/
structure ChainsyncClientState where
  cursor : Point
  chainIter : ChainIter
  needsInitialRollback : Bool
  deriving DecidableEq, Repr

/-- Modelled from the spec: `AddClient` keeps an existing entry, and otherwise creates one at
`point` that still owes the initial rollback; `none` is the error of an iterator that cannot start
at `point`. -/
def addClient (cs : ChainStore) (client : Option ChainsyncClientState) (point : Point) :
    Option ChainsyncClientState :=
  match client with
  | some st => some st
  | none => (cs.getChainFromPoint point).map fun it => ⟨point, it, true⟩

/-- Where the server is in answering one connection. -/
inductive ServerPhase
  /-- the client has agency: a new request may arrive -/
  | idle
  /-- `chainsyncServerRequestNext` has read the tip (line 278) -/
  | tipRead (tip : Tip)
  /-- `AddClient` returned an entry that owes no initial rollback (line 297) -/
  | clientAdded (tip : Tip)
  /-- `AwaitReply` is sent and the waiter blocks in `Next(true)` (line 325) -/
  | awaiting
  /-- the waiter's `Next(true)` returned `next` (line 329) -/
  | woken (next : ChainIteratorResult)
  /-- the waiter's `Next(true)` returned nil and it exited without a reply (line 327) -/
  | abandoned
  /-- a handler returned an error -/
  | failed
  deriving DecidableEq, Repr

/-- The server's state for one connection. `yielded` and `requests` are ghost fields: every result
the connection's iterator returned, in order, and the number of `RequestNext` messages received. -/
structure Session where
  client : Option ChainsyncClientState
  phase : ServerPhase
  sent : List Msg
  yielded : List ChainIteratorResult
  requests : Nat
  deriving DecidableEq, Repr

def Session.init : Session := ⟨none, .idle, [], [], 0⟩

/-- `chainsyncServerFindIntersect`, atomic under the chain store's read lock. -/
def chainsyncServerFindIntersect (cs : ChainStore) (points : List Point) (S : Session) : Session :=
  let tip := cs.tip
  match cs.getIntersectPoint points with
  | none => { S with sent := S.sent ++ [.intersectNotFound tip] }
  | some p =>
    match addClient cs S.client p with
    | none => { S with phase := .failed }
    | some st => { S with client := some st, sent := S.sent ++ [.intersectFound p tip] }

/-- Lines 277–278: a `RequestNext` arrives and the handler reads the tip. -/
def requestNextReadTip (cs : ChainStore) (S : Session) : Session :=
  { S with phase := .tipRead cs.tip, requests := S.requests + 1 }

@[simp] theorem requestNextReadTip_phase (cs : ChainStore) (S : Session) :
    (requestNextReadTip cs S).phase = .tipRead cs.tip := rfl

/-- Lines 279–296: `AddClient`, then the initial rollback if the entry still owes it. -/
def requestNextAddClient (cs : ChainStore) (tip : Tip) (S : Session) : Session :=
  match addClient cs S.client tip.point with
  | none => { S with phase := .failed }
  | some st =>
    if st.needsInitialRollback then
      { S with client := some { st with needsInitialRollback := false }, phase := .idle,
               sent := S.sent ++ [.rollBackward st.cursor tip] }
    else { S with client := some st, phase := .clientAdded tip }

/-- Lines 297–322: the non-blocking `Next`. A result is sent at once with the tip read at line 278;
at the chain tip `AwaitReply` is sent and the waiter spawned. -/
def requestNextNext (cs : ChainStore) (tip : Tip) (st : ChainsyncClientState) (S : Session) :
    Session :=
  match st.chainIter.next cs with
  | some (r, it) =>
    { S with client := some { st with chainIter := it }, phase := .idle,
             sent := S.sent ++ [replyMsg r tip], yielded := S.yielded ++ [r] }
  | none => { S with phase := .awaiting, sent := S.sent ++ [.awaitReply] }

/-- `chainsyncServerRequestNext` run with no step of another party in between, transcribed from
lines 278–322 as one function: every reply carries the tip read at line 278, and at the chain tip
the handler returns after `AwaitReply`, leaving its waiter blocked in `Next(true)`. -/
def chainsyncServerRequestNext (cs : ChainStore) (S : Session) : Session :=
  let tip := cs.tip
  let S := { S with requests := S.requests + 1 }
  match addClient cs S.client tip.point with
  | none => { S with phase := .failed }
  | some clientState =>
    if clientState.needsInitialRollback then
      { S with
        client := some { clientState with needsInitialRollback := false },
        phase := .idle,
        sent := S.sent ++ [.rollBackward clientState.cursor tip] }
    else
      match clientState.chainIter.next cs with
      | some (.rollback p, it) =>
        { S with
          client := some { clientState with chainIter := it },
          phase := .idle,
          sent := S.sent ++ [.rollBackward p tip],
          yielded := S.yielded ++ [.rollback p] }
      | some (.block b, it) =>
        { S with
          client := some { clientState with chainIter := it },
          phase := .idle,
          sent := S.sent ++ [.rollForward b tip],
          yielded := S.yielded ++ [.block b] }
      | none =>
        { S with
          client := some clientState,
          phase := .awaiting,
          sent := S.sent ++ [.awaitReply] }

/-- Line 325: the waiter's blocking `Next` returns; it stays blocked while there is no result. -/
def waiterNext (cs : ChainStore) (st : ChainsyncClientState) (S : Session) : Option Session :=
  (st.chainIter.next cs).map fun (r, it) =>
    { S with client := some { st with chainIter := it }, phase := .woken r,
             yielded := S.yielded ++ [r] }

/-- Lines 329–341: the waiter reads the tip and sends the result. -/
def waiterSend (cs : ChainStore) (r : ChainIteratorResult) (S : Session) : Session :=
  { S with phase := .idle, sent := S.sent ++ [replyMsg r cs.tip] }

theorem chainsyncServerFindIntersect_phase (cs : ChainStore) (points : List Point) (S : Session) :
    (chainsyncServerFindIntersect cs points S).phase = S.phase ∨
      (chainsyncServerFindIntersect cs points S).phase = .failed := by
  unfold chainsyncServerFindIntersect
  split
  · exact .inl rfl
  · split
    · exact .inr rfl
    · exact .inl rfl

theorem requestNextAddClient_phase (cs : ChainStore) (tip : Tip) (S : Session) :
    (requestNextAddClient cs tip S).phase = .failed ∨ (requestNextAddClient cs tip S).phase = .idle ∨
      (requestNextAddClient cs tip S).phase = .clientAdded tip := by
  unfold requestNextAddClient
  split
  · exact .inl rfl
  · split
    · exact .inr (.inl rfl)
    · exact .inr (.inr rfl)

theorem requestNextNext_phase (cs : ChainStore) (tip : Tip) (st : ChainsyncClientState)
    (S : Session) :
    (requestNextNext cs tip st S).phase = .idle ∨ (requestNextNext cs tip st S).phase = .awaiting := by
  unfold requestNextNext
  split
  · exact .inl rfl
  · exact .inr rfl

/-- The atomic steps one connection's handlers and waiter take. -/
inductive ConnAction
  | findIntersect (points : List Point)
  | requestNext
  | addClient
  | next
  | waiterNext
  | waiterCancel
  | waiterSend
  deriving DecidableEq, Repr

/-- One step on a connection; `none` when the step is not enabled. A new message is received only
when the client has agency. -/
def connStep (cs : ChainStore) (S : Session) : ConnAction → Option Session
  | .findIntersect points =>
    if S.phase = .idle then some (chainsyncServerFindIntersect cs points S) else none
  | .requestNext => if S.phase = .idle then some (requestNextReadTip cs S) else none
  | .addClient =>
    match S.phase with
    | .tipRead tip => some (requestNextAddClient cs tip S)
    | _ => none
  | .next =>
    match S.phase, S.client with
    | .clientAdded tip, some st => some (requestNextNext cs tip st S)
    | _, _ => none
  | .waiterNext =>
    match S.phase, S.client with
    | .awaiting, some st => waiterNext cs st S
    | _, _ => none
  | .waiterCancel => if S.phase = .awaiting then some { S with phase := .abandoned } else none
  | .waiterSend =>
    match S.phase with
    | .woken r => some (waiterSend cs r S)
    | _ => none

/-- What one step on a connection can do. -/
theorem connStep_eq_some {cs : ChainStore} {S S' : Session} {ca : ConnAction}
    (h : connStep cs S ca = some S') :
    (∃ points, ca = .findIntersect points ∧ S.phase = .idle ∧
      S' = chainsyncServerFindIntersect cs points S) ∨
    (ca = .requestNext ∧ S.phase = .idle ∧ S' = requestNextReadTip cs S) ∨
    (∃ tip, ca = .addClient ∧ S.phase = .tipRead tip ∧ S' = requestNextAddClient cs tip S) ∨
    (∃ tip st, ca = .next ∧ S.phase = .clientAdded tip ∧ S.client = some st ∧
      S' = requestNextNext cs tip st S) ∨
    (∃ st, ca = .waiterNext ∧ S.phase = .awaiting ∧ S.client = some st ∧
      waiterNext cs st S = some S') ∨
    (ca = .waiterCancel ∧ S.phase = .awaiting ∧ S' = { S with phase := .abandoned }) ∨
    (∃ r, ca = .waiterSend ∧ S.phase = .woken r ∧ S' = waiterSend cs r S) := by
  cases ca <;> simp only [connStep] at h <;> split at h <;> (try cases h) <;> simp [*]

/-- A session after the chain was cut back to `keep` blocks ending at `p`. -/
def Session.rollbackIter (S : Session) (keep : Nat) (p : Point) : Session :=
  { S with client := S.client.map fun st => { st with chainIter := st.chainIter.rollback keep p } }

/-- The chain store and every connection's session. -/
structure ServerState where
  chain : ChainStore
  sessions : ConnId → Session

inductive Action
  | conn (c : ConnId) (a : ConnAction)
  | appendBlock (b : Block)
  | rollback (p : Point)
  deriving DecidableEq, Repr

def ServerState.step (s : ServerState) : Action → Option ServerState
  | .conn c a =>
    (connStep s.chain (s.sessions c) a).map fun S => { s with sessions := Function.update s.sessions c S }
  | .appendBlock b =>
    match s.chain.appendBlock b with
    | .ok cs => some { s with chain := cs }
    | .error _ => none
  | .rollback p =>
    match s.chain.rollback p with
    | .ok cs => some ⟨cs, fun c => (s.sessions c).rollbackIter cs.blocks.length p⟩
    | .error _ => none

/-- A run: the actions taken in order, `none` if one of them is not enabled. -/
def ServerState.run (s : ServerState) : List Action → Option ServerState
  | [] => some s
  | a :: as => (s.step a).bind fun s' => s'.run as

/-! ## Steps and runs -/

/-- What one step does to a connection's session: its own step, no change, or the iterator
update of a chain rollback. -/
theorem step_session {s s' : ServerState} {a : Action} (h : s.step a = some s') (c : ConnId) :
    (∃ ca, a = .conn c ca ∧ connStep s.chain (s.sessions c) ca = some (s'.sessions c)) ∨
      s'.sessions c = s.sessions c ∨
      ∃ keep p, s'.sessions c = (s.sessions c).rollbackIter keep p := by
  cases a with
  | conn d ca =>
    simp only [ServerState.step, Option.map_eq_some'] at h
    obtain ⟨S, hS, rfl⟩ := h
    by_cases hd : d = c
    · subst hd
      exact .inl ⟨ca, rfl, by simpa using hS⟩
    · exact .inr (.inl (Function.update_noteq (Ne.symm hd) _ _))
  | appendBlock b =>
    simp only [ServerState.step] at h
    split at h <;> cases h
    exact .inr (.inl rfl)
  | rollback p =>
    simp only [ServerState.step] at h
    split at h <;> cases h
    exact .inr (.inr ⟨_, _, rfl⟩)

theorem run_cons (s : ServerState) (a : Action) (as : List Action) :
    s.run (a :: as) = (s.step a).bind fun s' => s'.run as := rfl

/-- A property kept by every allowed step holds after every run of allowed steps. -/
theorem run_invariant (P : ServerState → Prop) {allowed : Action → Prop}
    (hstep : ∀ s a s', P s → allowed a → s.step a = some s' → P s') :
    ∀ {s s' : ServerState} {acts : List Action},
      P s → (∀ a ∈ acts, allowed a) → s.run acts = some s' → P s' := by
  intro s s' acts hP hacts hrun
  induction acts generalizing s with
  | nil => cases hrun; exact hP
  | cons a as ih =>
    rw [run_cons, Option.bind_eq_some] at hrun
    obtain ⟨s₁, h₁, hrun⟩ := hrun
    exact ih (hstep s a s₁ hP (hacts a (List.mem_cons_self _ _)) h₁)
      (fun b hb => hacts b (List.mem_cons_of_mem _ hb)) hrun

/-- A run of one connection's own steps while the chain stays as it is. -/
def connRun (cs : ChainStore) (S : Session) : List ConnAction → Option Session
  | [] => some S
  | a :: as => (connStep cs S a).bind fun S' => connRun cs S' as

/-- With no step of another party in between, the atomic steps of `chainsyncServerRequestNext`
compose to the handler: read the tip, `AddClient`, and the non-blocking `Next` unless the initial
rollback answered the request or `AddClient` failed. -/
theorem chainsyncServerRequestNext_steps (cs : ChainStore) (S : Session) (h : S.phase = .idle) :
    ∃ acts, acts <+: [.requestNext, .addClient, .next] ∧
      connRun cs S acts = some (chainsyncServerRequestNext cs S) := by
  unfold chainsyncServerRequestNext
  dsimp only
  rcases hst : addClient cs S.client cs.tip.point with _ | st
  · exact ⟨[.requestNext, .addClient], ⟨[.next], rfl⟩,
      by simp only [connRun, connStep, h, requestNextReadTip, requestNextAddClient, hst, if_true,
        Option.some_bind]⟩
  cases hflag : st.needsInitialRollback
  · refine ⟨_, List.prefix_refl _, ?_⟩
    rcases hn : st.chainIter.next cs with _ | ⟨_ | _, it⟩ <;>
      simp only [connRun, connStep, h, requestNextReadTip, requestNextAddClient, requestNextNext,
        hst, hflag, hn, replyMsg, if_true, Option.some_bind, Bool.false_eq_true, if_false]
  · exact ⟨[.requestNext, .addClient], ⟨[.next], rfl⟩,
      by simp only [connRun, connStep, h, requestNextReadTip, requestNextAddClient, hst, hflag,
        if_true, Option.some_bind]⟩

/-- A connection past its initial rollback at the origin asks for the only block. -/
theorem requestNext_steps_yield_block :
    ∃ acts, acts <+: [ConnAction.requestNext, .addClient, .next] ∧
      connRun ⟨[⟨1, [1], 1, Point.origin, 0, []⟩], 0⟩
          ⟨some ⟨Point.origin, ⟨0, none⟩, false⟩, .idle, [], [], 0⟩ acts =
        some (chainsyncServerRequestNext ⟨[⟨1, [1], 1, Point.origin, 0, []⟩], 0⟩
          ⟨some ⟨Point.origin, ⟨0, none⟩, false⟩, .idle, [], [], 0⟩) :=
  chainsyncServerRequestNext_steps _ _ rfl

/-- There the handler sends the block with the tip. -/
example :
    (chainsyncServerRequestNext ⟨[⟨1, [1], 1, Point.origin, 0, []⟩], 0⟩
      ⟨some ⟨Point.origin, ⟨0, none⟩, false⟩, .idle, [], [], 0⟩).sent =
      [.rollForward ⟨1, [1], 1, Point.origin, 0, []⟩ ⟨⟨1, [1]⟩, 1⟩] := by decide

end DingoNode

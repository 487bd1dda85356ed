import DingoNode.ChainsyncServer

/-! The tip a `RollForward` carries. The direct reply of `chainsyncServerRequestNext` pairs the tip
read at line 278 with the block the iterator returns at line 298, and holds no lock on the chain
store between them, so a block appended in between goes out with the older tip. The waiter reads
the tip after taking its block, and while the chain only grows its tip is never older. -/

namespace DingoNode

/-- A `RollForward` whose tip is older than the block it carries, in slot or in block number. -/
def Msg.tipBehindBlock : Msg → Bool
  | .rollForward b tip => tip.point.slot < b.slot || tip.blockNumber < b.number
  | _ => false

/-- An empty chain store, no connection has sent anything. -/
def emptyServer : ServerState := ⟨⟨[], 0⟩, fun _ => Session.init⟩

def raceBlock₁ : Block := ⟨1, [1], 1, Point.origin, 0, []⟩

def raceBlock₂ : Block := ⟨2, [2], 2, raceBlock₁.point, 0, []⟩

/-- A client that found the intersection at the only block and got its initial rollback asks for
the next block; the handler reads the tip, the writer appends a block, the iterator returns it. -/
def tipRace : List Action :=
  [.appendBlock raceBlock₁, .conn 0 (.findIntersect [raceBlock₁.point]), .conn 0 .requestNext,
    .conn 0 .addClient, .conn 0 .requestNext, .conn 0 .addClient, .appendBlock raceBlock₂,
    .conn 0 .next]

theorem requestNext_sends_tip_behind_block :
    (emptyServer.run tipRace).map (fun s => (s.sessions 0).sent) =
      some [.intersectFound raceBlock₁.point raceBlock₁.tip,
        .rollBackward raceBlock₁.point raceBlock₁.tip, .rollForward raceBlock₂ raceBlock₁.tip] ∧
    (Msg.rollForward raceBlock₂ raceBlock₁.tip).tipBehindBlock = true := by
  decide

/-! ## The waiter's reply -/

/-- Every step but a chain rollback. -/
def Action.keepsBlocks : Action → Bool
  | .rollback _ => false
  | _ => true

/-- The chain is valid and every block a waiter holds is on it. -/
structure HeldOnChain (s : ServerState) : Prop where
  valid : s.chain.Valid
  held : ∀ c b, (s.sessions c).phase = .woken (.block b) → b ∈ s.chain.blocks

theorem next_block_mem {it it' : ChainIter} {cs : ChainStore} {b : Block}
    (h : it.next cs = some (.block b, it')) : b ∈ cs.blocks := by
  unfold ChainIter.next at h
  split at h
  · cases h
  · simp only [Option.map_eq_some', Prod.mk.injEq, ChainIteratorResult.block.injEq] at h
    obtain ⟨b', hb', rfl, -⟩ := h
    exact List.getElem?_mem hb'

/-- A connection's waiter holds a result only after its blocking `Next` returned it. -/
theorem connStep_woken {cs : ChainStore} {S S' : Session} {ca : ConnAction}
    {r : ChainIteratorResult} (h : connStep cs S ca = some S') (hr : S'.phase = .woken r) :
    ∃ st it, S.client = some st ∧ st.chainIter.next cs = some (r, it) := by
  rcases connStep_eq_some h with ⟨points, -, hp, rfl⟩ | ⟨-, -, rfl⟩ | ⟨t, -, -, rfl⟩ |
    ⟨t, st, -, -, -, rfl⟩ | ⟨st, -, -, hst, hw⟩ | ⟨-, -, rfl⟩ | ⟨r', -, -, rfl⟩
  · rcases chainsyncServerFindIntersect_phase cs points S with h' | h' <;> simp [h', hp] at hr
  · simp at hr
  · rcases requestNextAddClient_phase cs t S with h' | h' | h' <;> simp [h'] at hr
  · rcases requestNextNext_phase cs t st S with h' | h' <;> simp [h'] at hr
  · simp only [waiterNext, Option.map_eq_some'] at hw
    obtain ⟨⟨r', it⟩, hn, rfl⟩ := hw
    cases hr
    exact ⟨st, it, hst, hn⟩
  · cases hr
  · cases hr

theorem heldOnChain_step {s s' : ServerState} {a : Action} (h : HeldOnChain s)
    (ha : a.keepsBlocks = true) (hs : s.step a = some s') : HeldOnChain s' := by
  cases a with
  | conn d ca =>
    simp only [ServerState.step, Option.map_eq_some'] at hs
    obtain ⟨S, hS, rfl⟩ := hs
    refine ⟨h.valid, fun c b hb => ?_⟩
    by_cases hd : c = d
    · subst hd
      simp only [Function.update_same] at hb
      obtain ⟨st, it, -, hn⟩ := connStep_woken hS hb
      exact next_block_mem hn
    · exact h.held c b (by simpa [Function.update_noteq hd] using hb)
  | appendBlock b' =>
    simp only [ServerState.step] at hs
    split at hs <;> cases hs
    rename_i cs hcs
    refine ⟨appendBlock_valid h.valid hcs, fun c b hb => ?_⟩
    unfold ChainStore.appendBlock at hcs
    split_ifs at hcs
    cases hcs
    exact List.mem_append_left _ (h.held c b hb)
  | rollback _ => cases ha

/-- While the chain only grows, the `RollForward` a waiter sends carries a tip whose slot is at
least its block's: the waiter reads the tip after it took the block from the chain. -/
theorem waiter_rollForward_tip_not_behind {s₀ s s' : ServerState} {acts : List Action}
    {c : ConnId} {b : Block} {tip : Tip} (h₀ : HeldOnChain s₀)
    (hacts : ∀ a ∈ acts, a.keepsBlocks = true) (hrun : s₀.run acts = some s)
    (hs : s.step (.conn c .waiterSend) = some s')
    (hm : (s'.sessions c).sent.getLast? = some (.rollForward b tip)) :
    b.slot ≤ tip.point.slot := by
  have hinv := run_invariant HeldOnChain (fun _ _ _ h ha hs => heldOnChain_step h ha hs) h₀ hacts hrun
  simp only [ServerState.step, connStep, Option.map_eq_some'] at hs
  obtain ⟨S, hS, rfl⟩ := hs
  split at hS <;> cases hS
  rename_i r hp
  simp only [Function.update_same, waiterSend, List.getLast?_append, List.getLast?_singleton,
    Option.or_some, Option.some.injEq] at hm
  cases r with
  | rollback _ => cases hm
  | block b' =>
    simp only [replyMsg, Msg.rollForward.injEq] at hm
    obtain ⟨rfl, rfl⟩ := hm
    rw [tip_point]
    exact slot_le_lastPoint hinv.valid.linked b' (hinv.held c b' hp)

theorem emptyServer_heldOnChain : HeldOnChain emptyServer :=
  ⟨⟨trivial, List.nodup_nil⟩, fun _ _ h => by cases h⟩

/-- The client is at the tip when it asks, gets `AwaitReply`, and the waiter wakes on the next
append. -/
def awaitRun : List Action :=
  [.appendBlock raceBlock₁, .conn 0 (.findIntersect [raceBlock₁.point]), .conn 0 .requestNext,
    .conn 0 .addClient, .conn 0 .requestNext, .conn 0 .addClient, .conn 0 .next,
    .appendBlock raceBlock₂, .conn 0 .waiterNext]

/-- There the waiter sends the appended block, with a tip at that block. -/
theorem waiter_rollForward_after_await :
    let s := (emptyServer.run awaitRun).get rfl
    let s' := (s.step (.conn 0 .waiterSend)).get rfl
    (s'.sessions 0).sent.getLast? = some (.rollForward raceBlock₂ raceBlock₂.tip) ∧
      raceBlock₂.slot ≤ raceBlock₂.tip.point.slot :=
  let s := (emptyServer.run awaitRun).get rfl
  let s' := (s.step (.conn 0 .waiterSend)).get rfl
  ⟨rfl, @waiter_rollForward_tip_not_behind emptyServer s s' awaitRun 0 raceBlock₂ raceBlock₂.tip
    emptyServer_heldOnChain (by decide) (Option.some_get _).symm (Option.some_get _).symm rfl⟩

end DingoNode

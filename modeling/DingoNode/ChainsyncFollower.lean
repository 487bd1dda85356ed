import DingoNode.ChainsyncServer

/-! A downstream follower of this node's ChainSync server, and the chain the server's iterator lets
it rebuild: through any interleaving after `IntersectFound p`, it holds the server's chain up to the
connection's iterator, with the blocks an owed rollback will remove. -/

namespace DingoNode

/-- A follower applies one result to its chain. -/
def followerApply (chain : List Block) : ChainIteratorResult → List Block
  | .rollback p => chain.take ((pointPos chain p).getD chain.length)
  | .block b => chain ++ [b]

/-- The chain a follower holds after applying `items` in order. -/
def followChain (chain : List Block) (items : List ChainIteratorResult) : List Block :=
  items.foldl followerApply chain

theorem followChain_append (chain : List Block) (items : List ChainIteratorResult)
    (r : ChainIteratorResult) :
    followChain chain (items ++ [r]) = followerApply (followChain chain items) r := by
  simp [followChain]

/-! ## Points on a valid chain -/

theorem linked_slot_gt {prev : Point} {bs : List Block} (h : Linked prev bs) :
    ∀ b ∈ bs, prev.slot < b.slot := by
  induction bs generalizing prev with
  | nil => simp
  | cons x xs ih =>
    intro b hb
    rcases List.mem_cons.1 hb with rfl | hb
    · exact h.2.1
    · have h₁ := h.2.1
      have h₂ := ih h.2.2 b hb
      simp only [Block.point] at h₂
      omega

theorem lastPoint_take_succ (prev : Point) {bs : List Block} {i : Nat} (h : i < bs.length) :
    lastPoint prev (bs.take (i + 1)) = bs[i].point := by
  rw [List.take_succ, List.getElem?_eq_getElem h, Option.toList_some]
  simp only [lastPoint, List.getLast?_concat, Option.map_some', Option.getD_some]

/-- The point `pointPos` finds ends the blocks it counts. -/
theorem pointPos_lastPoint {bs : List Block} {p : Point} {k : Nat} (h : pointPos bs p = some k) :
    k ≤ bs.length ∧ lastPoint Point.origin (bs.take k) = p := by
  unfold pointPos at h
  split at h
  · cases h
    simp [lastPoint, *]
  · obtain ⟨i, hi, rfl⟩ := Option.map_eq_some'.1 h
    obtain ⟨hlt, hp, -⟩ := List.findIdx?_eq_some_iff_getElem.1 hi
    exact ⟨hlt, by rw [lastPoint_take_succ _ hlt]; simpa using hp⟩

/-- On a valid chain, the end of any prefix is found at the prefix's length, whatever follows
the prefix. -/
theorem pointPos_take_append {cs : ChainStore} (hv : cs.Valid) {k : Nat} (hk : k ≤ cs.blocks.length)
    (stale : List Block) :
    pointPos (cs.blocks.take k ++ stale) (lastPoint Point.origin (cs.blocks.take k)) = some k := by
  cases k with
  | zero => simp [pointPos, lastPoint]
  | succ j =>
    have hj : j < cs.blocks.length := hk
    rw [lastPoint_take_succ _ hj]
    have hne : cs.blocks[j].point ≠ Point.origin := fun h => by
      have := congrArg Point.slot h
      have := linked_slot_gt hv.linked _ (List.getElem_mem hj)
      simp_all [Block.point, Point.origin]
    have hfind : (cs.blocks.take (j + 1)).findIdx? (·.point == cs.blocks[j].point) = some j := by
      refine List.findIdx?_eq_some_iff_getElem.2 ⟨by simp; omega, by simp, fun i hi => ?_⟩
      have hnd := List.pairwise_iff_getElem.1 hv.nodup i j (by simp; omega) (by simp; omega) hi
      simp only [List.getElem_map] at hnd
      simpa [Block.point] using fun _ => hnd
    simp [pointPos, hne, hfind]

/-- A follower holding a prefix of a valid chain, then anything, and rolling back to the prefix's
end, holds the prefix. -/
theorem followerApply_rollback_take {cs : ChainStore} (hv : cs.Valid) {k : Nat}
    (hk : k ≤ cs.blocks.length) (stale : List Block) :
    followerApply (cs.blocks.take k ++ stale) (.rollback (lastPoint Point.origin (cs.blocks.take k))) =
      cs.blocks.take k := by
  simp only [followerApply, pointPos_take_append hv hk stale, Option.getD_some]
  exact List.take_left' (by simp; omega)

theorem appendBlock_blocks {cs cs' : ChainStore} {b : Block} (h : cs.appendBlock b = .ok cs') :
    cs'.blocks = cs.blocks ++ [b] := by
  unfold ChainStore.appendBlock at h
  split_ifs at h
  cases h
  rfl

theorem rollback_blocks {cs cs' : ChainStore} {p : Point} (h : cs.rollback p = .ok cs') :
    ∃ keep, pointPos cs.blocks p = some keep ∧ cs'.blocks = cs.blocks.take keep := by
  unfold ChainStore.rollback at h
  split at h
  · cases h
  · split_ifs at h
    cases h
    exact ⟨_, ‹_›, rfl⟩

/-! ## The follower against the iterator -/

/-- The follower's chain `F` against a connection's iterator `it` over the chain `cs`: `F` links up
from the origin and starts with the blocks the iterator has passed. It is exactly those blocks
unless the iterator owes a rollback, and an owed rollback is to the end of them. -/
structure Tracks (cs : ChainStore) (it : ChainIter) (F : List Block) : Prop where
  pos_le : it.pos ≤ cs.blocks.length
  linked : Linked Point.origin F
  agrees : cs.blocks.take it.pos <+: F
  settled : it.rollbackPoint = none → F = cs.blocks.take it.pos
  owed : ∀ q, it.rollbackPoint = some q → q = lastPoint Point.origin (cs.blocks.take it.pos)

section Tracks

variable {cs cs' : ChainStore} {it : ChainIter} {F : List Block}

theorem tracks_take (hv : cs.Valid) (hk : it.pos ≤ cs.blocks.length) (hr : it.rollbackPoint = none) :
    Tracks cs it (cs.blocks.take it.pos) :=
  ⟨hk, linked_take _ hv.linked, List.prefix_refl _, fun _ => rfl, by simp [hr]⟩

/-- The iterator's next result brings the follower to the blocks the iterator has passed. -/
theorem Tracks.next (hv : cs.Valid) (h : Tracks cs it F) {r : ChainIteratorResult} {it' : ChainIter}
    (hn : it.next cs = some (r, it')) : Tracks cs it' (followerApply F r) := by
  unfold ChainIter.next at hn
  split at hn
  · rename_i q hq
    cases hn
    obtain ⟨stale, rfl⟩ := h.agrees
    rw [h.owed q hq, followerApply_rollback_take hv h.pos_le]
    exact tracks_take hv h.pos_le rfl
  · rename_i hq
    obtain ⟨b, hb, hr⟩ := Option.map_eq_some'.1 hn
    cases hr
    obtain ⟨hlt, rfl⟩ := List.getElem?_eq_some_iff.1 hb
    rw [h.settled hq, followerApply, List.take_concat_get' _ _ hlt]
    exact tracks_take hv hlt hq

theorem Tracks.appendBlock (h : Tracks cs it F) {b : Block} (happ : cs.appendBlock b = .ok cs') :
    Tracks cs' it F := by
  have htake : cs'.blocks.take it.pos = cs.blocks.take it.pos := by
    rw [appendBlock_blocks happ, List.take_append_of_le_length h.pos_le]
  refine ⟨?_, h.linked, htake ▸ h.agrees, htake ▸ h.settled, fun q hq => htake ▸ h.owed q hq⟩
  rw [appendBlock_blocks happ, List.length_append]
  exact Nat.le_succ_of_le h.pos_le

/-- A chain rollback below the iterator leaves the follower ahead of the chain, owed a rollback to
the new tip; one above it changes nothing the follower has. -/
theorem Tracks.rollback (h : Tracks cs it F) {p : Point} (hr : cs.rollback p = .ok cs') :
    Tracks cs' (it.rollback cs'.blocks.length p) F := by
  obtain ⟨keep, hkeep, hblocks⟩ := rollback_blocks hr
  obtain ⟨hle, hp⟩ := pointPos_lastPoint hkeep
  have hlen : cs'.blocks.length = keep := by simp [hblocks, hle]
  rw [hlen]
  unfold ChainIter.rollback
  split
  · rename_i hlt
    have hagrees : cs'.blocks.take keep <+: F := by
      rw [hblocks, List.take_take, min_self]
      exact (List.take_prefix_take_left _ hlt.le).trans h.agrees
    exact ⟨by simp [hlen], h.linked, hagrees, nofun, fun q hq => by
      cases hq; rw [hblocks, List.take_take, min_self, hp]⟩
  · rename_i hge
    have htake : cs'.blocks.take it.pos = cs.blocks.take it.pos := by
      rw [hblocks, List.take_take, min_eq_left (by omega)]
    exact ⟨by omega, h.linked, htake ▸ h.agrees, htake ▸ h.settled, fun q hq => htake ▸ h.owed q hq⟩

end Tracks

/-- A `FindIntersect` on connection `c`. -/
def Action.findsIntersectOn (c : ConnId) : Action → Bool
  | .conn d (.findIntersect _) => d == c
  | _ => false

/-- What one step on a connection other than a `FindIntersect` does to its iterator: nothing, or
one `Next` whose result is added to the results returned. -/
theorem connStep_iter {cs : ChainStore} {S S' : Session} {ca : ConnAction}
    (hca : ∀ points, ca ≠ .findIntersect points) (h : connStep cs S ca = some S')
    {st : ChainsyncClientState} (hst : S.client = some st) :
    (∃ st', S'.client = some st' ∧ st'.chainIter = st.chainIter ∧ S'.yielded = S.yielded) ∨
      ∃ r it', st.chainIter.next cs = some (r, it') ∧
        ∃ st', S'.client = some st' ∧ st'.chainIter = it' ∧ S'.yielded = S.yielded ++ [r] := by
  rcases connStep_eq_some h with ⟨points, rfl, -, -⟩ | ⟨-, -, rfl⟩ | ⟨tip, -, -, rfl⟩ |
    ⟨tip, st₁, -, -, hst₁, rfl⟩ | ⟨st₁, -, -, hst₁, hw⟩ | ⟨-, -, rfl⟩ | ⟨r, -, -, rfl⟩
  · exact absurd rfl (hca points)
  · exact .inl ⟨st, hst, rfl, rfl⟩
  · unfold requestNextAddClient
    split
    · simp_all [addClient]
    · rename_i st₂ hst₂
      simp only [hst, addClient, Option.some.injEq] at hst₂
      subst hst₂
      split
      · exact .inl ⟨_, rfl, rfl, rfl⟩
      · exact .inl ⟨st, rfl, rfl, rfl⟩
  · cases hst.symm.trans hst₁
    unfold requestNextNext
    split
    · exact .inr ⟨_, _, ‹_›, _, rfl, rfl, rfl⟩
    · exact .inl ⟨st, hst, rfl, rfl⟩
  · cases hst.symm.trans hst₁
    obtain ⟨⟨r, it'⟩, hn, rfl⟩ := Option.map_eq_some'.1 hw
    exact .inr ⟨r, it', hn, _, rfl, rfl, rfl⟩
  · exact .inl ⟨st, hst, rfl, rfl⟩
  · exact .inl ⟨st, hst, rfl, rfl⟩

/-- A connection's follower, from the chain `F₀` it held after the initial rollback, tracks the
connection's iterator. -/
def SessionTracks (cs : ChainStore) (F₀ : List Block) (S : Session) : Prop :=
  ∃ st, S.client = some st ∧ Tracks cs st.chainIter (followChain F₀ S.yielded)

theorem connStep_sessionTracks {cs : ChainStore} {F₀ : List Block} {S S' : Session}
    {ca : ConnAction} (hca : ∀ points, ca ≠ .findIntersect points) (hv : cs.Valid)
    (h : SessionTracks cs F₀ S) (hs : connStep cs S ca = some S') :
    SessionTracks cs F₀ S' := by
  obtain ⟨st, hst, htr⟩ := h
  rcases connStep_iter hca hs hst with ⟨st', hst', hit, hy⟩ | ⟨r, it', hn, st', hst', hit, hy⟩
  · exact ⟨st', hst', by rw [hit, hy]; exact htr⟩
  · exact ⟨st', hst', by rw [hit, hy, followChain_append]; exact htr.next hv hn⟩

/-- Every step of the system but a `FindIntersect` on the connection keeps the chain valid and the
connection's follower tracking its iterator. -/
theorem step_sessionTracks {s s' : ServerState} {a : Action} {c : ConnId} {F₀ : List Block}
    (h : s.chain.Valid ∧ SessionTracks s.chain F₀ (s.sessions c)) (ha : a.findsIntersectOn c = false)
    (hs : s.step a = some s') :
    s'.chain.Valid ∧ SessionTracks s'.chain F₀ (s'.sessions c) := by
  obtain ⟨hv, st, hst, htr⟩ := h
  cases a with
  | conn d ca =>
    simp only [ServerState.step, Option.map_eq_some'] at hs
    obtain ⟨S, hS, rfl⟩ := hs
    refine ⟨hv, ?_⟩
    by_cases hd : d = c
    · subst hd
      have hca : ∀ points, ca ≠ .findIntersect points := by
        rintro points rfl
        simp [Action.findsIntersectOn] at ha
      simpa using connStep_sessionTracks hca hv ⟨st, hst, htr⟩ hS
    · simpa [Function.update_noteq (Ne.symm hd)] using ⟨st, hst, htr⟩
  | appendBlock b =>
    simp only [ServerState.step] at hs
    split at hs <;> cases hs
    exact ⟨appendBlock_valid hv ‹_›, st, hst, htr.appendBlock ‹_›⟩
  | rollback p =>
    simp only [ServerState.step] at hs
    split at hs <;> cases hs
    exact ⟨rollback_valid hv ‹_›, { st with chainIter := st.chainIter.rollback _ p },
      by simp [Session.rollbackIter, hst], htr.rollback ‹_›⟩

/-- After `IntersectFound p` on a fresh connection, the connection's entry starts at `p` with no
result returned, and a follower holding the chain up to `p` tracks it. -/
theorem findIntersect_sessionTracks {s₀ s₁ : ServerState} {c : ConnId} {points : List Point}
    {p : Point} {tip : Tip} (hvalid : s₀.chain.Valid) (hfirst : s₀.sessions c = Session.init)
    (hfind : s₀.step (.conn c (.findIntersect points)) = some s₁)
    (hfound : (s₁.sessions c).sent = [.intersectFound p tip]) :
    s₁.chain.Valid ∧
      SessionTracks s₁.chain (followerApply s₀.chain.blocks (.rollback p)) (s₁.sessions c) := by
  simp only [ServerState.step, connStep, hfirst, Session.init, if_true, Option.map_some',
    Option.some.injEq] at hfind
  subst hfind
  simp only [Function.update_same] at hfound ⊢
  refine ⟨hvalid, ?_⟩
  unfold chainsyncServerFindIntersect at hfound ⊢
  cases hip : s₀.chain.getIntersectPoint points with
  | none => simp [hip] at hfound
  | some p' =>
    cases hac : addClient s₀.chain none p' with
    | none => simp [hip, hac] at hfound
    | some st =>
      simp only [hip, hac, List.nil_append, List.cons.injEq, Msg.intersectFound.injEq,
        and_true] at hfound ⊢
      obtain ⟨rfl, -⟩ := hfound
      simp only [addClient, ChainStore.getChainFromPoint, Option.map_map, Option.map_eq_some',
        Function.comp] at hac
      obtain ⟨pos, hpos, rfl⟩ := hac
      refine ⟨_, rfl, ?_⟩
      simp only [followChain, List.foldl_nil, followerApply, hpos, Option.getD_some]
      exact tracks_take hvalid (pointPos_lastPoint hpos).1 rfl

/-- A downstream follower starts from this node's chain as it was when `IntersectFound p` was sent
on a fresh connection. It applies the initial rollback to `p`, which keeps the blocks up to `p`,
and then every result the connection's iterator returns, in order. Whatever interleaving of steps
follows with no second `FindIntersect` on the connection, the follower's chain links up from the
origin and starts with the server's current chain up to the iterator. Once the rollback
the iterator owes, if any, is applied, the follower holds exactly that prefix of the server's
chain. -/
theorem follower_tracks_server_chain {s₀ s₁ s : ServerState} {c : ConnId} {points : List Point}
    {p : Point} {tip : Tip} {acts : List Action} (hvalid : s₀.chain.Valid)
    (hfirst : s₀.sessions c = Session.init)
    (hfind : s₀.step (.conn c (.findIntersect points)) = some s₁)
    (hfound : (s₁.sessions c).sent = [.intersectFound p tip])
    (hacts : ∀ a ∈ acts, a.findsIntersectOn c = false) (hrun : s₁.run acts = some s) :
    ∃ st, (s.sessions c).client = some st ∧
      Linked Point.origin (followChain s₀.chain.blocks (.rollback p :: (s.sessions c).yielded)) ∧
      s.chain.blocks.take st.chainIter.pos <+:
        followChain s₀.chain.blocks (.rollback p :: (s.sessions c).yielded) ∧
      followChain s₀.chain.blocks (.rollback p :: (s.sessions c).yielded ++
          st.chainIter.rollbackPoint.toList.map ChainIteratorResult.rollback) =
        s.chain.blocks.take st.chainIter.pos := by
  obtain ⟨hv, st, hst, htr⟩ := @run_invariant
    (fun s => s.chain.Valid ∧
      SessionTracks s.chain (followerApply s₀.chain.blocks (.rollback p)) (s.sessions c))
    (fun a => a.findsIntersectOn c = false) (fun _ _ _ h ha hs => step_sessionTracks h ha hs) s₁ s
    acts (findIntersect_sessionTracks hvalid hfirst hfind hfound) hacts hrun
  refine ⟨st, hst, htr.linked, htr.agrees, ?_⟩
  cases hr : st.chainIter.rollbackPoint with
  | none => simpa using htr.settled hr
  | some q =>
    obtain ⟨stale, hstale⟩ := htr.agrees
    rw [Option.toList_some, List.map_singleton, followChain_append]
    change followerApply (followChain (followerApply s₀.chain.blocks (.rollback p))
      (s.sessions c).yielded) (.rollback q) = _
    rw [← hstale, htr.owed q hr, followerApply_rollback_take hv htr.pos_le]

/-- Two blocks, and a security parameter that allows rolling both back. -/
def forkStore : ServerState :=
  ⟨⟨[⟨1, [1], 1, Point.origin, 0, []⟩, ⟨2, [2], 2, ⟨1, [1]⟩, 0, []⟩], 2⟩, fun _ => Session.init⟩

/-- From the origin, the client is sent the initial rollback and both blocks; then the second block
is rolled back and another is appended on the first. -/
def forkRun : List Action :=
  [.conn 0 .requestNext, .conn 0 .addClient, .conn 0 .requestNext, .conn 0 .addClient,
    .conn 0 .next, .conn 0 .requestNext, .conn 0 .addClient, .conn 0 .next,
    .rollback ⟨1, [1]⟩, .appendBlock ⟨3, [3], 2, ⟨1, [1]⟩, 0, []⟩]

theorem follower_after_fork :
    let s₁ := (forkStore.step (.conn 0 (.findIntersect [Point.origin]))).get rfl
    let s := (s₁.run forkRun).get rfl
    ∃ st, (s.sessions 0).client = some st ∧
      Linked Point.origin
        (followChain forkStore.chain.blocks (.rollback Point.origin :: (s.sessions 0).yielded)) ∧
      s.chain.blocks.take st.chainIter.pos <+:
        followChain forkStore.chain.blocks (.rollback Point.origin :: (s.sessions 0).yielded) ∧
      followChain forkStore.chain.blocks (.rollback Point.origin :: (s.sessions 0).yielded ++
          st.chainIter.rollbackPoint.toList.map ChainIteratorResult.rollback) =
        s.chain.blocks.take st.chainIter.pos :=
  @follower_tracks_server_chain forkStore _ _ 0 [Point.origin] Point.origin _ _
    ⟨⟨rfl, by decide, rfl, by decide, trivial⟩, by decide⟩ rfl (Option.some_get _).symm rfl
    (by decide) (Option.some_get _).symm

/- After the fork the follower still holds the rolled-back second block, and the iterator owes
the rollback to the first. -/
example :
    let s₁ := (forkStore.step (.conn 0 (.findIntersect [Point.origin]))).get rfl
    let s := (s₁.run forkRun).get rfl
    followChain forkStore.chain.blocks (.rollback Point.origin :: (s.sessions 0).yielded) =
        forkStore.chain.blocks ∧
      (s.sessions 0).client.map (·.chainIter) = some ⟨1, some ⟨1, [1]⟩⟩ := by
  decide

end DingoNode

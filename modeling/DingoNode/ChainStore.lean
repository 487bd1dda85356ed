import Mathlib.Data.List.Nodup

/-! The chain store and its iterator, which the ChainSync server handlers read. Their code is not
among the sources: both are modelled from the specification (Chain Store, Chain Iterator), with
the operations the handlers call and the checks the specification lists for them. -/

namespace DingoNode

/-- A chain position (`ocommon.Point`). -/
structure Point where
  slot : Nat
  hash : List UInt8
  deriving DecidableEq, Repr

/-- The sentinel point before any block. -/
def Point.origin : Point := ⟨0, []⟩

/-- A chain tip (`ochainsync.Tip`). -/
structure Tip where
  point : Point
  blockNumber : Nat
  deriving DecidableEq, Repr

/-- A stored block: its position, number and parent, and the era tag and raw bytes that a
`RollForward` carries. -/
structure Block where
  slot : Nat
  hash : List UInt8
  number : Nat
  parent : Point
  type : Nat
  cbor : List UInt8
  deriving DecidableEq, Repr

def Block.point (b : Block) : Point := ⟨b.slot, b.hash⟩

def Block.tip (b : Block) : Tip := ⟨b.point, b.number⟩

/-- Modelled from the spec: the chain store, its blocks in chain order and the security parameter
bounding how many blocks a rollback may remove. -/
structure ChainStore where
  blocks : List Block
  securityParam : Nat
  deriving DecidableEq, Repr

inductive ChainError
  | parentMismatch
  | nonMonotonicSlot
  | alreadyExists
  | notInVolatile
  | notFound
  deriving DecidableEq, Repr

/-- The point of the last block, or `prev` for no blocks. -/
def lastPoint (prev : Point) (blocks : List Block) : Point :=
  (blocks.getLast?.map Block.point).getD prev

/-- Modelled from the spec: `Tip()`. -/
def ChainStore.tip (cs : ChainStore) : Tip :=
  match cs.blocks.getLast? with
  | some b => b.tip
  | none => ⟨Point.origin, 0⟩

/-- Modelled from the spec: `AppendBlock`, with its three checks in the order listed. -/
def ChainStore.appendBlock (cs : ChainStore) (b : Block) : Except ChainError ChainStore :=
  if b.parent ≠ cs.tip.point then .error .parentMismatch
  else if b.slot ≤ cs.tip.point.slot then .error .nonMonotonicSlot
  else if cs.blocks.any (·.hash == b.hash) then .error .alreadyExists
  else .ok { cs with blocks := cs.blocks ++ [b] }

/-- How many blocks lie at or before `p` on the chain: none for a point not on it. -/
def pointPos (blocks : List Block) (p : Point) : Option Nat :=
  if p = Point.origin then some 0 else (blocks.findIdx? (·.point == p)).map (· + 1)

/-- Modelled from the spec: `Rollback`, which keeps the blocks up to `p`. -/
def ChainStore.rollback (cs : ChainStore) (p : Point) : Except ChainError ChainStore :=
  match pointPos cs.blocks p with
  | none => .error .notFound
  | some keep =>
    if cs.securityParam < cs.blocks.length - keep then .error .notInVolatile
    else .ok { cs with blocks := cs.blocks.take keep }

/-- Modelled from the spec: `GetIntersectPoint`, the first candidate on the chain. -/
def ChainStore.getIntersectPoint (cs : ChainStore) (points : List Point) : Option Point :=
  points.find? fun p => (pointPos cs.blocks p).isSome

/-- Modelled from the spec: a chain iterator, the number of blocks it has passed and the point of
a rollback it has yet to report. -/
structure ChainIter where
  pos : Nat
  rollbackPoint : Option Point
  deriving DecidableEq, Repr

/-- One delta a follower applies (`ChainIteratorResult`). -/
inductive ChainIteratorResult
  | rollback (point : Point)
  | block (b : Block)
  deriving DecidableEq, Repr

/-- Modelled from the spec: `Iterator(startPoint)`, positioned just after `p`. -/
def ChainStore.getChainFromPoint (cs : ChainStore) (p : Point) : Option ChainIter :=
  (pointPos cs.blocks p).map fun pos => ⟨pos, none⟩

/-- Modelled from the spec: `Next`, a pending rollback first, then the next block; `none` is
`ErrIteratorChainTip`. -/
def ChainIter.next (it : ChainIter) (cs : ChainStore) : Option (ChainIteratorResult × ChainIter) :=
  match it.rollbackPoint with
  | some p => some (.rollback p, { it with rollbackPoint := none })
  | none => cs.blocks[it.pos]?.map fun b => (.block b, { it with pos := it.pos + 1 })

/-- An iterator after the chain was cut back to `keep` blocks ending at `p`: one that had passed
the cut reports a rollback to `p` next. -/
def ChainIter.rollback (it : ChainIter) (keep : Nat) (p : Point) : ChainIter :=
  if keep < it.pos then ⟨keep, some p⟩ else it

/-! ## Chain invariants -/

/-- Every block's parent is the previous block's point and slots strictly increase, starting
after `prev`. -/
def Linked : Point → List Block → Prop
  | _, [] => True
  | prev, b :: bs => b.parent = prev ∧ prev.slot < b.slot ∧ Linked b.point bs

/-- The chain invariants of the specification: parents link up from the origin, slots strictly
increase, hashes are unique. -/
structure ChainStore.Valid (cs : ChainStore) : Prop where
  linked : Linked Point.origin cs.blocks
  nodup : (cs.blocks.map Block.hash).Nodup

theorem tip_point (cs : ChainStore) : cs.tip.point = lastPoint Point.origin cs.blocks := by
  unfold ChainStore.tip lastPoint
  cases cs.blocks.getLast? <;> rfl

theorem lastPoint_cons (prev : Point) (b : Block) (bs : List Block) :
    lastPoint prev (b :: bs) = lastPoint b.point bs := by
  simp only [lastPoint, List.getLast?_cons]
  cases bs.getLast? <;> rfl

theorem linked_append {prev : Point} {bs : List Block} {b : Block} :
    Linked prev (bs ++ [b]) ↔
      Linked prev bs ∧ b.parent = lastPoint prev bs ∧ (lastPoint prev bs).slot < b.slot := by
  induction bs generalizing prev with
  | nil => simp [Linked, lastPoint]
  | cons x xs ih =>
    show (_ ∧ _ ∧ Linked x.point (xs ++ [b])) ↔ _
    rw [ih, lastPoint_cons]
    simp only [Linked, and_assoc]

theorem linked_take {prev : Point} {bs : List Block} (n : Nat) (h : Linked prev bs) :
    Linked prev (bs.take n) := by
  induction bs generalizing prev n with
  | nil => simp [Linked]
  | cons b bs ih =>
    cases n with
    | zero => trivial
    | succ n => exact ⟨h.1, h.2.1, ih n h.2.2⟩

/-- On a linked chain every block's slot is at most the last block's. -/
theorem slot_le_lastPoint {prev : Point} {bs : List Block} (h : Linked prev bs) :
    ∀ b ∈ bs, b.slot ≤ (lastPoint prev bs).slot := by
  induction bs generalizing prev with
  | nil => simp
  | cons x xs ih =>
    rw [lastPoint_cons]
    intro b hb
    rcases List.mem_cons.1 hb with rfl | hb
    · cases xs with
      | nil => simp [lastPoint, Block.point]
      | cons y ys =>
        have := ih h.2.2 y (List.mem_cons_self _ _)
        have := h.2.2.2.1
        simp only [Block.point] at *
        omega
    · exact ih h.2.2 b hb

/-- A successful append makes the new block the tip. -/
theorem appendBlock_tip {cs cs' : ChainStore} {b : Block} (h : cs.appendBlock b = .ok cs') :
    cs'.tip = b.tip := by
  unfold ChainStore.appendBlock at h
  split_ifs at h
  cases h
  simp [ChainStore.tip]

theorem appendBlock_valid {cs cs' : ChainStore} {b : Block} (hv : cs.Valid)
    (h : cs.appendBlock b = .ok cs') : cs'.Valid := by
  unfold ChainStore.appendBlock at h
  split_ifs at h with h1 h2 h3
  cases h
  rw [tip_point] at h1 h2
  refine ⟨linked_append.2 ⟨hv.linked, not_not.1 h1, by omega⟩, ?_⟩
  simp only [List.any_eq_true, beq_iff_eq, not_exists, not_and] at h3
  simpa [List.nodup_append, hv.nodup] using fun x hx => h3 x hx

theorem rollback_valid {cs cs' : ChainStore} {p : Point} (hv : cs.Valid)
    (h : cs.rollback p = .ok cs') : cs'.Valid := by
  unfold ChainStore.rollback at h
  split at h
  · cases h
  · split_ifs at h
    cases h
    exact ⟨linked_take _ hv.linked,
      (List.map_take Block.hash _ _ ▸ (List.take_sublist _ _)).nodup hv.nodup⟩

end DingoNode

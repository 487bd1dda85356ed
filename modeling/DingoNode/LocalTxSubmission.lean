import Mathlib.Data.List.Basic

/-! The LocalTxSubmission server handler. `localtxsubmissionServerSubmitTx` takes the transaction
bytes out of the message's CBOR tag with an unchecked type assertion, which panics when the tag
holds anything but a byte string. The transaction decoder and the mempool are not among the
sources and are parameters. -/

namespace DingoNode

/-- A decoded CBOR data item, the dynamic value a `cbor.Tag` holds. -/
inductive CborValue
  | uint (n : Nat)
  | nint (n : Nat)
  | bytes (b : List UInt8)
  | text (s : String)
  | array (items : List CborValue)
  | map (entries : List (CborValue × CborValue))
  | tag (number : Nat) (content : CborValue)
  | simple (v : Nat)

/-- `cbor.Tag`. -/
structure CborTag where
  number : Nat
  content : CborValue

/-- `MsgSubmitTxTransaction`. -/
structure MsgSubmitTxTransaction where
  eraId : UInt16
  raw : CborTag

/-- `mempool.MempoolTransaction`. -/
structure MempoolTransaction where
  hash : List UInt8
  type : Nat
  cbor : List UInt8
  lastSeen : Nat
  deriving DecidableEq, Repr

/-- How a handler ends: it returns nil or an error, or it panics. -/
inductive HandlerResult
  | ok
  | error (msg : String)
  | panic
  deriving DecidableEq, Repr

section

variable {Tx Mempool : Type} (newTransactionFromCbor : Nat → List UInt8 → Except String Tx)
  (txHash : Tx → List UInt8) (addTransaction : Mempool → MempoolTransaction → Except String Mempool)
  (now : Nat)

/-- `localtxsubmissionServerSubmitTx`: the mempool after the call and how the call ends. -/
def localtxsubmissionServerSubmitTx (mempool : Mempool) (tx : MsgSubmitTxTransaction) :
    Mempool × HandlerResult :=
  match tx.raw.content with
  | .bytes txBytes =>
    match newTransactionFromCbor tx.eraId.toNat txBytes with
    | .error e => (mempool, .error e)
    | .ok tmpTx =>
      match addTransaction mempool ⟨txHash tmpTx, tx.eraId.toNat, txBytes, now⟩ with
      | .error e => (mempool, .error e)
      | .ok mempool' => (mempool', .ok)
  | _ => (mempool, .panic)

/-- A submission whose tag holds a byte string never panics: either it is rejected with an error
and the mempool is left as it was, or the transaction decodes and the mempool accepts it under its
hash, era and bytes, and the handler returns nil. -/
theorem submitTx_bytes_returns (mempool : Mempool) (eraId : UInt16) (number : Nat)
    (txBytes : List UInt8) :
    (∃ e, localtxsubmissionServerSubmitTx newTransactionFromCbor txHash addTransaction now mempool
        ⟨eraId, ⟨number, .bytes txBytes⟩⟩ = (mempool, .error e)) ∨
      ∃ tmpTx mempool', newTransactionFromCbor eraId.toNat txBytes = .ok tmpTx ∧
        addTransaction mempool ⟨txHash tmpTx, eraId.toNat, txBytes, now⟩ = .ok mempool' ∧
        localtxsubmissionServerSubmitTx newTransactionFromCbor txHash addTransaction now mempool
          ⟨eraId, ⟨number, .bytes txBytes⟩⟩ = (mempool', .ok) := by
  simp only [localtxsubmissionServerSubmitTx]
  split
  · exact .inl ⟨_, rfl⟩
  · rename_i tmpTx hd
    split
    · exact .inl ⟨_, rfl⟩
    · rename_i mempool' ha
      exact .inr ⟨tmpTx, mempool', hd, ha, rfl⟩

/-- Whatever the decoder and the mempool do, a submission whose tag holds an integer makes the
handler panic. -/
theorem submitTx_panics_on_uint (mempool : Mempool) :
    (localtxsubmissionServerSubmitTx newTransactionFromCbor txHash addTransaction now mempool
      ⟨5, ⟨24, .uint 0⟩⟩).2 = .panic :=
  rfl

end

end DingoNode

import Mathlib.Algebra.Group.Nat.Basic
import Mathlib.Data.List.Basic

/-! The era functions of the sources: the Byron epoch length and the Alonzo protocol-parameter
update, hard fork and nonce functions. Go's `any` becomes a value tagged by its dynamic type; the
CBOR codecs, the parameter records and the rolling-nonce hash are parameters. Unlike
`localtxsubmissionServerSubmitTx`, these functions check their type assertions and return an
error on a value of the wrong type. -/

namespace DingoNode

/-- The Byron genesis fields `EpochLengthByron` reads (`BlockVersionData.SlotDuration` and
`ProtocolConsts.K`, Go `int`s). -/
structure ByronGenesis where
  slotDuration : BitVec 64
  k : BitVec 64
  deriving DecidableEq, Repr

/-- `EpochLengthByron`: the slot duration and the number of slots of an epoch, as Go `uint`s. -/
def epochLengthByron (byronGenesis : Except String ByronGenesis) : Nat × Nat × Option String :=
  match byronGenesis with
  | .error e => (0, 0, some e)
  | .ok g => (g.slotDuration.toNat, (g.k * 10).toNat, none)

/-- A Byron epoch is ten times the security parameter `K` slots long, for every `K` whose tenfold
fits in an `int`. -/
theorem epochLengthByron_slots (g : ByronGenesis) (hk : g.k.toNat * 10 < 2 ^ 63) :
    (epochLengthByron (.ok g)).2.1 = 10 * g.k.toNat := by
  simp only [epochLengthByron, BitVec.toNat_mul]
  have : (10 : BitVec 64).toNat = 10 := rfl
  rw [this, Nat.mod_eq_of_lt (by omega), Nat.mul_comm]

/- The mainnet Byron parameters, `K` = 2160: epochs of 21600 slots. -/
example : (epochLengthByron (.ok ⟨20000, 2160⟩)).2.1 = 21600 := rfl

/-- A protocol-parameter value behind Go's `any`, by its dynamic type. -/
inductive PParamsValue (AlonzoPP AlonzoUpdate MaryPP : Type)
  | alonzo (p : AlonzoPP)
  | alonzoUpdate (u : AlonzoUpdate)
  | mary (p : MaryPP)
  | other (typeName : String)

/-- What `%T` prints for a value. -/
def PParamsValue.typeName {α β μ : Type} : PParamsValue α β μ → String
  | .alonzo _ => "alonzo.AlonzoProtocolParameters"
  | .alonzoUpdate _ => "alonzo.AlonzoProtocolParameterUpdate"
  | .mary _ => "mary.MaryProtocolParameters"
  | .other t => t

/-- A block header behind `ledger.BlockHeader`: an Alonzo header with its VRF nonce output, or
another type. -/
inductive BlockHeaderValue
  | alonzo (nonceVrfOutput : List UInt8)
  | other
  deriving DecidableEq, Repr

section Alonzo

variable {AlonzoPP AlonzoUpdate MaryPP : Type} (update : AlonzoPP → AlonzoUpdate → AlonzoPP)
  (upgradePParams : MaryPP → AlonzoPP) (updateFromGenesis : AlonzoPP → AlonzoPP)

/-- `PParamsUpdateAlonzo`. -/
def pparamsUpdateAlonzo (currentPParams pparamsUpdate : PParamsValue AlonzoPP AlonzoUpdate MaryPP) :
    Except String (PParamsValue AlonzoPP AlonzoUpdate MaryPP) :=
  match currentPParams with
  | .alonzo alonzoPParams =>
    match pparamsUpdate with
    | .alonzoUpdate alonzoPParamsUpdate => .ok (.alonzo (update alonzoPParams alonzoPParamsUpdate))
    | v => .error ("PParams update (" ++ v.typeName ++ ") is not expected type")
  | v => .error ("current PParams (" ++ v.typeName ++ ") is not expected type")

/-- `HardForkAlonzo`. -/
def hardForkAlonzo (prevPParams : PParamsValue AlonzoPP AlonzoUpdate MaryPP) :
    Except String (PParamsValue AlonzoPP AlonzoUpdate MaryPP) :=
  match prevPParams with
  | .mary maryPParams => .ok (.alonzo (updateFromGenesis (upgradePParams maryPParams)))
  | v => .error ("previous PParams (" ++ v.typeName ++ ") are not expected type")

/-- `PParamsUpdateAlonzo` applies an Alonzo update to Alonzo parameters, and on any other pair
returns an error naming the dynamic type of the first value that is not of the expected type. -/
theorem pparamsUpdateAlonzo_spec (cur upd : PParamsValue AlonzoPP AlonzoUpdate MaryPP) :
    (∀ p u, cur = .alonzo p → upd = .alonzoUpdate u →
      pparamsUpdateAlonzo update cur upd = .ok (.alonzo (update p u))) ∧
    ((∀ p, cur ≠ .alonzo p) →
      pparamsUpdateAlonzo update cur upd =
        .error ("current PParams (" ++ cur.typeName ++ ") is not expected type")) ∧
    (∀ p, cur = .alonzo p → (∀ u, upd ≠ .alonzoUpdate u) →
      pparamsUpdateAlonzo update cur upd =
        .error ("PParams update (" ++ upd.typeName ++ ") is not expected type")) := by
  refine ⟨?_, fun h => ?_, ?_⟩
  · rintro p u rfl rfl
    rfl
  · cases cur with
    | alonzo p => exact absurd rfl (h p)
    | _ => rfl
  · rintro p rfl h
    cases upd with
    | alonzoUpdate u => exact absurd rfl (h u)
    | _ => rfl

end Alonzo

section Nonce

variable (hexDecodeString : String → Except String (List UInt8))
  (calculateRollingNonce : List UInt8 → List UInt8 → Except String (List UInt8))

/-- `CalculateEtaVAlonzo`: an empty previous nonce is seeded from the Shelley genesis hash. -/
def calculateEtaVAlonzo (shelleyGenesisHash : String) (prevBlockNonce : List UInt8)
    (header : BlockHeaderValue) : Except String (List UInt8) := do
  let prevBlockNonce ←
    if prevBlockNonce.isEmpty then hexDecodeString shelleyGenesisHash else pure prevBlockNonce
  match header with
  | .alonzo nonceVrfOutput => calculateRollingNonce prevBlockNonce nonceVrfOutput
  | .other => .error "unexpected block type"

/-- With no previous nonce, the Alonzo nonce is the one computed from the Shelley genesis hash
taken as the previous nonce. -/
theorem calculateEtaVAlonzo_empty_nonce {shelleyGenesisHash : String} {seed : List UInt8}
    (header : BlockHeaderValue) (h : hexDecodeString shelleyGenesisHash = .ok seed) :
    calculateEtaVAlonzo hexDecodeString calculateRollingNonce shelleyGenesisHash [] header =
      calculateEtaVAlonzo hexDecodeString calculateRollingNonce shelleyGenesisHash seed header := by
  cases seed <;> simp [calculateEtaVAlonzo, h, bind, Except.bind, pure, Except.pure]

end Nonce

/- With the genesis hash decoding to one byte and a rolling nonce that concatenates, the first
Alonzo block's nonce is computed from that byte. -/
example :
    calculateEtaVAlonzo (fun _ => .ok [1]) (fun a b => .ok (a ++ b)) "01" [] (.alonzo [2]) =
      .ok [1, 2] :=
  rfl

end DingoNode

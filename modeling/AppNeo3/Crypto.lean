import AppNeo3.Types

/-!
# Deriving keys and signing

`crypto.c`. Every call of the SDK may report an error. `cryptoDerivePrivateKey`
and `cryptoInitPublicKey` report it to their callers; `cryptoSignTx` reports a
failed hash or signature, but does not look at the result of the derivation.
-/

set_option autoImplicit false

namespace AppNeo3

open Memory

variable (sdk : Sdk) (outcomes : CxOutcomes)

/-- Whether the calls that derive a private key succeed. -/
def CxOutcomes.derives : Bool :=
  outcomes.osDeriveBip32WithSeed == cxOk && outcomes.cxEcfpInitPrivateKey == cxOk

/-- The private key of a path. -/
def Sdk.privateKey (path : Bip44Path) : PrivateKey :=
  sdk.cxEcfpInitPrivateKey (sdk.osDeriveBip32WithSeed path.toList)

/-- The key and the result: after an error the key is zeroed. -/
def cryptoDerivePrivateKey (path : Bip44Path) : PrivateKey × Int :=
  if outcomes.osDeriveBip32WithSeed != cxOk then (.zero, -1)
  else if outcomes.cxEcfpInitPrivateKey != cxOk then (.zero, -1)
  else (sdk.privateKey path, 0)

/-- The raw public key and the result: after an error the key is as it was. -/
def cryptoInitPublicKey (key : PrivateKey) (rawPublicKey : Area UInt8 pubkeyLen) :
    Area UInt8 pubkeyLen × Int :=
  if outcomes.cxEcfpGeneratePair != cxOk then (rawPublicKey, -1)
  else (sdk.cxEcfpGeneratePair key, 0)

theorem cryptoDerivePrivateKey_of_derives (derives : outcomes.derives = true) (path : Bip44Path) :
    cryptoDerivePrivateKey sdk outcomes path = (sdk.privateKey path, 0) := by
  rw [CxOutcomes.derives, Bool.and_eq_true, beq_iff_eq, beq_iff_eq] at derives
  rw [cryptoDerivePrivateKey, derives.1, derives.2]
  rfl

theorem cryptoDerivePrivateKey_of_not (fails : outcomes.derives = false) (path : Bip44Path) :
    cryptoDerivePrivateKey sdk outcomes path = (.zero, -1) := by
  rw [CxOutcomes.derives] at fails
  rw [cryptoDerivePrivateKey]
  by_cases derive : outcomes.osDeriveBip32WithSeed = cxOk
  · by_cases init : outcomes.cxEcfpInitPrivateKey = cxOk
    · rw [derive, init] at fails
      exact absurd fails (by decide)
    · rw [derive, if_neg (by decide), if_pos (by simpa using init)]
  · rw [if_pos (by simpa using derive)]

/-! ## Signing -/

/-- A call of the signature function that succeeded: its key and its digest. -/
structure Signing where
  key : PrivateKey
  digest : Area UInt8 sha256HashLen
deriving DecidableEq

/-- What is hashed for the signature: the network magic and the stored hash. -/
def GlobalCtx.signedData (ctx : GlobalCtx) : List UInt8 :=
  ByteOrder.leBytes 4 ctx.networkMagic.toNat ++ ctx.txInfo.hash.cells

theorem GlobalCtx.length_signedData (ctx : GlobalCtx) : ctx.signedData.length = 36 := by
  rw [signedData, List.length_append, ByteOrder.length_leBytes, ctx.txInfo.hash.size_eq]
  rfl

/-- The signed data is gathered over the start of the raw transaction. -/
def GlobalCtx.gatherSignedData (ctx : GlobalCtx) : GlobalCtx :=
  ctx.overwriteStart ctx.signedData (by
    rw [ctx.length_signedData]
    decide)

/-- Store the digest over the hash. -/
def GlobalCtx.setHash (ctx : GlobalCtx) (hash : Area UInt8 sha256HashLen) : GlobalCtx :=
  { ctx with txInfo := { ctx.txInfo with hash := hash } }

/-- Store a signature and its length. -/
def GlobalCtx.setSignature (ctx : GlobalCtx) (key : PrivateKey)
    (digest : Area UInt8 sha256HashLen) : GlobalCtx :=
  { ctx with txInfo := { ctx.txInfo with
      signature := ctx.txInfo.signature.write 0 (sdk.cxEcdsaSign key digest) (by
        rw [Nat.zero_add]
        exact sdk.cxEcdsaSign_length key digest)
      signatureLen := UInt8.ofNat (sdk.cxEcdsaSign key digest).length } }

/-- The context left, the result, and the signature call if it succeeded. -/
def cryptoSignTx (ctx : GlobalCtx) : GlobalCtx × Int × Option Signing :=
  let key := (cryptoDerivePrivateKey sdk outcomes ctx.bip44Path).1
  let gathered := ctx.gatherSignedData
  if outcomes.cxHash 0 != cxOk then (gathered, -1, none)
  else
    let digest := sdk.sha256 (gathered.txInfo.rawTx.cells.take 36)
    let hashed := gathered.setHash digest
    if outcomes.cxEcdsaSign != cxOk then (hashed, -1, none)
    else (hashed.setSignature sdk key digest, 0, some ⟨key, digest⟩)

theorem take_gatherSignedData (ctx : GlobalCtx) :
    ctx.gatherSignedData.txInfo.rawTx.cells.take 36 = ctx.signedData := by
  have size := ctx.length_signedData
  show (overwrite ctx.txInfo.rawTx.cells 0 ctx.signedData).take 36 = _
  rw [overwrite_zero, List.take_append_of_le_length (Nat.le_of_eq size.symm),
    List.take_of_length_le (Nat.le_of_eq size)]

/-- The digest that is signed. -/
def Sdk.digest (ctx : GlobalCtx) : Area UInt8 sha256HashLen := sdk.sha256 ctx.signedData

/-- The bytes of the stored signature. -/
def TransactionCtx.signatureBytes (txInfo : TransactionCtx) : List UInt8 :=
  txInfo.signature.cells.take txInfo.signatureLen.toNat

/-- Whether the hash and the signature succeed. -/
def CxOutcomes.signs : Bool := outcomes.cxHash 0 == cxOk && outcomes.cxEcdsaSign == cxOk

/-- **Signing succeeds when the hash and the signature do, whatever became of the
derivation.** -/
theorem cryptoSignTx_of_signs (signs : outcomes.signs = true) (ctx : GlobalCtx) :
    cryptoSignTx sdk outcomes ctx =
      ((ctx.gatherSignedData.setHash (sdk.digest ctx)).setSignature sdk
        (cryptoDerivePrivateKey sdk outcomes ctx.bip44Path).1 (sdk.digest ctx), 0,
        some ⟨(cryptoDerivePrivateKey sdk outcomes ctx.bip44Path).1, sdk.digest ctx⟩) := by
  rw [CxOutcomes.signs, Bool.and_eq_true, beq_iff_eq, beq_iff_eq] at signs
  rw [cryptoSignTx, signs.1, signs.2, take_gatherSignedData]
  rfl

theorem cryptoSignTx_of_not (fails : outcomes.signs = false) (ctx : GlobalCtx) :
    (cryptoSignTx sdk outcomes ctx).2 = (-1, none) := by
  rw [CxOutcomes.signs] at fails
  rw [cryptoSignTx]
  by_cases hash : outcomes.cxHash 0 = cxOk
  · by_cases sign : outcomes.cxEcdsaSign = cxOk
    · rw [hash, sign] at fails
      exact absurd fails (by decide)
    · rw [hash, if_neg (by decide), if_pos (by simpa using sign)]
  · rw [if_pos (by simpa using hash)]

/-- Signing leaves the state, the request and the path as they are. -/
theorem cryptoSignTx_frame (ctx : GlobalCtx) :
    (cryptoSignTx sdk outcomes ctx).1.state = ctx.state ∧
      (cryptoSignTx sdk outcomes ctx).1.reqType = ctx.reqType ∧
      (cryptoSignTx sdk outcomes ctx).1.bip44Path = ctx.bip44Path := by
  rw [cryptoSignTx]
  by_cases hash : outcomes.cxHash 0 = cxOk
  · by_cases sign : outcomes.cxEcdsaSign = cxOk
    · rw [hash, sign]
      exact ⟨rfl, rfl, rfl⟩
    · rw [hash, if_neg (by decide), if_pos (by simpa using sign)]
      exact ⟨rfl, rfl, rfl⟩
  · rw [if_pos (by simpa using hash)]
    exact ⟨rfl, rfl, rfl⟩

/-- The signature sent is the one made. -/
theorem signatureBytes_setSignature (ctx : GlobalCtx) (key : PrivateKey)
    (digest : Area UInt8 sha256HashLen) :
    (ctx.setSignature sdk key digest).txInfo.signatureBytes = sdk.cxEcdsaSign key digest := by
  have short := sdk.cxEcdsaSign_length key digest
  have length : (UInt8.ofNat (sdk.cxEcdsaSign key digest).length).toNat =
      (sdk.cxEcdsaSign key digest).length :=
    (UInt8.toNat_ofNat').trans (Nat.mod_eq_of_lt (by omega))
  show (overwrite ctx.txInfo.signature.cells 0 (sdk.cxEcdsaSign key digest)).take
    (UInt8.ofNat (sdk.cxEcdsaSign key digest).length).toNat = _
  rw [length, overwrite_zero, List.take_left]

end AppNeo3

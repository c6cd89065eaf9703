import AppNeo3.Common.Bip44
import AppNeo3.Transaction.Types

/-!
# The global context

`types.h`: the context that all handlers and both review callbacks share. The
64-byte public key and the transaction context are members of one union. Both
begin with it, so the key occupies the first bytes of the raw transaction and is
read from and stored to them.
-/

set_option autoImplicit false

namespace AppNeo3

open Memory

/-- `state_e`, the parsing state. -/
inductive State where
  | none
  | bip44Ok
  | magicOk
  | parsed
  | approved
deriving DecidableEq, Repr

/-- `request_type_e`. -/
inductive RequestType where
  | confirmAddress
  | confirmTransaction
deriving DecidableEq, Repr

/-- The length of a public key without its first byte. -/
abbrev pubkeyLen : Nat := 64

/-- `transaction_ctx_t`. -/
structure TransactionCtx where
  rawTx : Area UInt8 maxTransactionLen
  scriptHash : Area UInt8 sha256HashLen
  rawTxLen : Nat
  rawTxLen_le : rawTxLen ≤ maxTransactionLen
  transaction : Transaction
  hash : Area UInt8 sha256HashLen
  signature : Area UInt8 maxDerSigLen
  signatureLen : UInt8
deriving DecidableEq

def TransactionCtx.zero : TransactionCtx where
  rawTx := Area.fill _ 0
  scriptHash := Area.fill _ 0
  rawTxLen := 0
  rawTxLen_le := Nat.zero_le _
  transaction := Transaction.zero
  hash := Area.fill _ 0
  signature := Area.fill _ 0
  signatureLen := 0

/-- The bytes received so far. -/
def TransactionCtx.received (txInfo : TransactionCtx) : List UInt8 :=
  txInfo.rawTx.cells.take txInfo.rawTxLen

theorem TransactionCtx.length_received (txInfo : TransactionCtx) :
    txInfo.received.length = txInfo.rawTxLen := by
  rw [received, List.length_take, txInfo.rawTx.size_eq, Nat.min_eq_left txInfo.rawTxLen_le]

/-- `global_ctx_t`. -/
structure GlobalCtx where
  state : State
  txInfo : TransactionCtx
  networkMagic : UInt32
  reqType : RequestType
  bip44Path : Bip44Path
deriving DecidableEq

namespace GlobalCtx

/-- The zeroed context. -/
def zero : GlobalCtx where
  state := .none
  txInfo := TransactionCtx.zero
  networkMagic := 0
  reqType := .confirmAddress
  bip44Path := Vector.replicate _ 0

/-- The public key of the union. -/
def rawPublicKey (ctx : GlobalCtx) : Area UInt8 pubkeyLen :=
  ⟨ctx.txInfo.rawTx.cells.take pubkeyLen, by
    rw [List.length_take, ctx.txInfo.rawTx.size_eq]
    rfl⟩

/-- Store data over the start of the union. -/
def overwriteStart (ctx : GlobalCtx) (data : List UInt8)
    (fits : 0 + data.length ≤ maxTransactionLen) : GlobalCtx :=
  { ctx with txInfo := { ctx.txInfo with rawTx := ctx.txInfo.rawTx.write 0 data fits } }

/-- Store a public key to the union. -/
def setRawPublicKey (ctx : GlobalCtx) (key : Area UInt8 pubkeyLen) : GlobalCtx :=
  ctx.overwriteStart key.cells (by rw [key.size_eq]; decide)

@[simp] theorem rawPublicKey_setRawPublicKey (ctx : GlobalCtx) (key : Area UInt8 pubkeyLen) :
    (ctx.setRawPublicKey key).rawPublicKey = key := by
  refine Area.ext_cells ?_
  have size := key.size_eq
  show (overwrite ctx.txInfo.rawTx.cells 0 key.cells).take pubkeyLen = key.cells
  rw [overwrite_zero, List.take_append_of_le_length (Nat.le_of_eq size.symm),
    List.take_of_length_le (Nat.le_of_eq size)]

end GlobalCtx

/-! ## Stored settings -/

/-- `internalStorage_t`, the settings that the modelled functions read. -/
structure InternalStorage where
  scriptsAllowed : UInt8
  showScriptHash : UInt8
  signerAccountFormat : UInt8
deriving DecidableEq

/-- The settings of a new installation. -/
def InternalStorage.zero : InternalStorage := ⟨0, 0, 0⟩

end AppNeo3

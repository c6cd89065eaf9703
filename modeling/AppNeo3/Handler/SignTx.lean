import AppNeo3.App
import AppNeo3.Common.Bip44
import AppNeo3.Transaction.Deserialize
import AppNeo3.Ui.SignTxCommon

/-!
# The signing command

`sign_tx.c`: a session sends the path (chunk 0), the network magic (chunk 1) and
the transaction in parts (the chunks from 2 on). The last part is parsed, hashed
and reviewed. The two guards join their tests with "and", so each refuses a chunk
only when the request is another one and the state is not the expected one.
-/

set_option autoImplicit false

namespace AppNeo3

open Memory CBody

/-! ## Receiving bytes -/

/-- Append bytes to the raw transaction. -/
def TransactionCtx.receive (txInfo : TransactionCtx) (bytes : List UInt8)
    (fits : txInfo.rawTxLen + bytes.length ≤ maxTransactionLen) : TransactionCtx :=
  { txInfo with
    rawTx := txInfo.rawTx.write txInfo.rawTxLen bytes fits
    rawTxLen := txInfo.rawTxLen + bytes.length
    rawTxLen_le := fits }

/-- What has been received before comes first. -/
theorem TransactionCtx.received_receive (txInfo : TransactionCtx) (bytes : List UInt8)
    (fits : txInfo.rawTxLen + bytes.length ≤ maxTransactionLen) :
    (txInfo.receive bytes fits).received = txInfo.received ++ bytes :=
  take_overwrite_end (by rw [txInfo.rawTx.size_eq]; exact txInfo.rawTxLen_le)

variable (sdk : Sdk)

/-- Check the length and copy the data of a chunk behind the bytes received. -/
def receiveChunk (cdata : Buffer) (txInfo : TransactionCtx) : Option TransactionCtx :=
  if long : txInfo.rawTxLen + cdata.size > maxTransactionLen then none
  else
    match moved : sdk.bufferMove cdata cdata.size with
    | none => none
    | some (bytes, _) =>
        have short : bytes.length ≤ cdata.size := Sdk.length_le_of_bufferMove moved
        some (txInfo.receive bytes ((Nat.add_le_add_left short _).trans (Nat.le_of_not_lt long)))

variable {sdk} in
/-- **A chunk that fits is received whole.** -/
theorem receiveChunk_eq (data : List UInt8) (txInfo : TransactionCtx) :
    receiveChunk sdk (.ofBytes data) txInfo =
      if fits : txInfo.rawTxLen + data.length ≤ maxTransactionLen then
        some (txInfo.receive data fits)
      else none := by
  have moved : sdk.bufferMove (.ofBytes data) data.length =
      some (data, (sdk.bufferSeekCur (.ofBytes data) data.length).2) := by
    rw [sdk.bufferMove_eq, Buffer.rest_ofBytes, if_pos (Nat.le_refl _)]
  rw [receiveChunk]
  by_cases fits : txInfo.rawTxLen + data.length ≤ maxTransactionLen
  · rw [dif_neg (by rw [Buffer.size_ofBytes]; exact Nat.not_lt.mpr fits), dif_pos fits]
    split
    · rename_i refused
      cases refused.symm.trans moved
    · rename_i bytes _ copied
      cases copied.symm.trans moved
      rfl
  · rw [dif_pos (by rw [Buffer.size_ofBytes]; exact Nat.lt_of_not_le fits), dif_neg fits]

/-! ## The chunks -/

variable (build : Build) (outcomes : CxOutcomes) (app : App)

/-- The context that a signing session starts from. -/
def GlobalCtx.forTransaction : GlobalCtx := { GlobalCtx.zero with reqType := .confirmTransaction }

/-- Chunk 0: wipe the context and read the path. -/
def signTxPath (cdata : Buffer) : Handled :=
  match bufferReadAndValidateBip44 sdk cdata GlobalCtx.forTransaction.bip44Path with
  | .fault => none
  | .ret status read => app.send { GlobalCtx.forTransaction with bip44Path := read.path } status
  | .next () read =>
      app.send { GlobalCtx.forTransaction with bip44Path := read.path, state := .bip44Ok }
        .swoSuccess

/-- Chunk 1: read the network magic into the context. -/
def signTxMagic (cdata : Buffer) : Handled :=
  if app.ctx.reqType ≠ .confirmTransaction ∧ app.ctx.state ≠ .bip44Ok then
    app.send app.ctx .swBadState
  else
    let read := sdk.bufferReadU32 cdata .le
    let ctx := { app.ctx with networkMagic := read.2.1 }
    if !read.1 then app.send ctx .swMagicParsingFail
    else app.send { ctx with state := .magicOk } .swoSuccess

/-- `start_sign_tx`: fill the texts, and open the review. -/
def openReview : Handled :=
  match startSignTx sdk app.ctx app.gTx with
  | .fault => none
  | .ret sw texts => ({ app with gTx := texts } : App).send app.ctx sw
  | .next () texts =>
      some ({ app with gTx := texts }, .start (.transaction
        ⟨startSignTxUi build app.ctx.txInfo.transaction app.storage, app.ctx, app.storage⟩))

/-- The two hashes of a parsed transaction. -/
def TransactionCtx.hashed (txInfo : TransactionCtx) : TransactionCtx :=
  { txInfo with
    hash := sdk.sha256 txInfo.received
    scriptHash := sdk.sha256 (txInfo.transaction.scriptBytes txInfo.received) }

/-- A parsed transaction is hashed and reviewed. Both hashes are asserted to
succeed. -/
def reviewParsed : Handled :=
  let ctx := { app.ctx with state := .parsed, txInfo := app.ctx.txInfo.hashed sdk }
  if outcomes.hashesOk 2 then
    if ctx.reqType ≠ .confirmTransaction ∨ ctx.state ≠ .parsed then
      app.send { ctx with state := .none } .swBadState
    else openReview sdk build { app with ctx := ctx }
  else none

/-- The last part: parse all bytes received. The union of the recognisers lies on
the stack; what it holds before does not matter. -/
def parseReceived : Handled :=
  match transactionDeserialize sdk (.ofBytes app.ctx.txInfo.received) app.ctx.txInfo.transaction
      (Area.fill 8 0) with
  | none => none
  | some (status, tx, _) =>
      let parsed := { app with
        ctx := { app.ctx with txInfo := { app.ctx.txInfo with transaction := tx } } }
      if status ≠ .parsingOk then
        some (parsed, .send ⟨[UInt8.ofInt status.code], .swTxParsingFail⟩)
      else reviewParsed sdk build outcomes parsed

/-- A chunk from 2 on: a part of the transaction. -/
def signTxPart (cdata : Buffer) (more : Bool) : Handled :=
  if app.ctx.reqType ≠ .confirmTransaction ∧ app.ctx.state ≠ .magicOk then
    app.send app.ctx .swBadState
  else
    match receiveChunk sdk cdata app.ctx.txInfo with
    | none => app.send app.ctx .swWrongTxLength
    | some txInfo =>
        let received := { app with ctx := { app.ctx with txInfo := txInfo } }
        if more then received.send received.ctx .swoSuccess
        else parseReceived sdk build outcomes received

def handlerSignTx (cdata : Buffer) (chunk : UInt8) (more : Bool) : Handled :=
  if chunk = 0 then signTxPath sdk app cdata
  else if chunk = 1 then signTxMagic sdk app cdata
  else signTxPart sdk build outcomes app cdata more

end AppNeo3

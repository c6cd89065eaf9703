import AppNeo3.Apdu.Dispatcher
import AppNeo3.Transaction.DeserializeRefinement

/-!
# What a command does

A command that reaches a handler does one of the things listed in `Effect`, for its
own reason and with its own answer (`handle_effect`). What holds along the runs of
the device is proved from this list, not from the handlers.

The guards of the handlers let a chunk pass when the request or the state is the
expected one. A context in which an address was asked for is never in a state of a
signing session (`GlobalCtx.Separate`), so there the request alone decides.
-/

set_option autoImplicit false

namespace AppNeo3

open Memory CBody

/-- The context of an address request is in no state of a signing session. -/
def GlobalCtx.Separate (ctx : GlobalCtx) : Prop :=
  ctx.reqType = .confirmTransaction ∨ ctx.state = .none ∨ ctx.state = .approved

theorem GlobalCtx.Separate.refused {ctx : GlobalCtx} (separate : ctx.Separate) {expected : State}
    (session : expected ≠ .none ∧ expected ≠ .approved) :
    (ctx.reqType ≠ .confirmTransaction ∧ ctx.state ≠ expected) ↔
      ctx.reqType ≠ .confirmTransaction := by
  refine ⟨And.left, fun other => ⟨other, fun same => ?_⟩⟩
  rcases separate with request | none | approved
  · exact other request
  · exact session.1 (same.symm.trans none)
  · exact session.2 (same.symm.trans approved)

/-! ## The last part of a transaction -/

/-- Receive bytes behind those of the context. -/
def GlobalCtx.receive (ctx : GlobalCtx) (bytes : List UInt8)
    (fits : ctx.txInfo.rawTxLen + bytes.length ≤ maxTransactionLen) : GlobalCtx :=
  { ctx with txInfo := ctx.txInfo.receive bytes fits }

/-- Parse the bytes received over the transaction of the context. -/
def GlobalCtx.parse (sdk : Sdk) (ctx : GlobalCtx) : GlobalCtx :=
  { ctx with txInfo := { ctx.txInfo with
      transaction := ctx.txInfo.transaction.parse sdk ctx.txInfo.received } }

/-- The status of parsing the bytes received. -/
def GlobalCtx.parseStatus (sdk : Sdk) (ctx : GlobalCtx) : ParserStatus :=
  ctx.txInfo.transaction.parseStatus sdk ctx.txInfo.received

/-- Hash what was parsed, for a review. -/
def GlobalCtx.reviewed (sdk : Sdk) (ctx : GlobalCtx) : GlobalCtx :=
  { ctx with state := .parsed, txInfo := ctx.txInfo.hashed sdk }

/-- The review that is opened. -/
def App.review (build : Build) (app : App) : TransactionReview :=
  ⟨startSignTxUi build app.ctx.txInfo.transaction app.storage, app.ctx, app.storage⟩

/-- Fill the texts of a review of the context given. -/
def App.fill (sdk : Sdk) (app : App) (ctx : GlobalCtx) : App :=
  { app with ctx := ctx, gTx := reviewTexts sdk ctx app.gTx }

variable {sdk : Sdk} {build : Build} {outcomes : CxOutcomes} {app : App}

/-- **A parsed transaction is reviewed, unless the application ends.** -/
theorem reviewParsed_eq (request : app.ctx.reqType = .confirmTransaction) :
    reviewParsed sdk build outcomes app =
      if outcomes.hashesOk 2 then
        let filled := app.fill sdk (app.ctx.reviewed sdk)
        some (filled, .start (.transaction (filled.review build)))
      else none := by
  have placed : ¬ ((app.ctx.reviewed sdk).reqType ≠ .confirmTransaction ∨
      (app.ctx.reviewed sdk).state ≠ .parsed) :=
    not_or.mpr ⟨not_not_intro request, not_not_intro rfl⟩
  have filled := @startSignTx_run sdk (app.ctx.reviewed sdk) app.gTx
  show (if outcomes.hashesOk 2 then
    if (app.ctx.reviewed sdk).reqType ≠ .confirmTransaction ∨
        (app.ctx.reviewed sdk).state ≠ .parsed then _
    else openReview sdk build { app with ctx := app.ctx.reviewed sdk }
    else none) = _
  rw [if_neg placed, openReview, filled]
  rfl

/-- What becomes of the last part, once it is received. -/
def lastPart (sdk : Sdk) (build : Build) (outcomes : CxOutcomes) (received : App) : Handled :=
  if received.ctx.parseStatus sdk ≠ .parsingOk then
    some ({ received with ctx := received.ctx.parse sdk },
      .send ⟨[UInt8.ofInt (received.ctx.parseStatus sdk).code], .swTxParsingFail⟩)
  else if outcomes.hashesOk 2 then
    let filled := received.fill sdk ((received.ctx.parse sdk).reviewed sdk)
    some (filled, .start (.transaction (filled.review build)))
  else none

/-- **The last part is parsed, and answered with the status or reviewed.** -/
theorem parseReceived_eq (request : app.ctx.reqType = .confirmTransaction) :
    parseReceived sdk build outcomes app = lastPart sdk build outcomes app := by
  obtain ⟨size, run⟩ := @transactionDeserialize_eq sdk app.ctx.txInfo.received
    app.ctx.txInfo.transaction (Area.fill 8 0)
  rw [parseReceived, run]
  exact congrArg (ite _ _) (reviewParsed_eq request)

/-- The transaction context that a command has parsed, for a command that reaches the
parser. -/
def parserInput (sdk : Sdk) (app : App) : Route → Option TransactionCtx
  | .signTx data chunk false =>
      if chunk = 0 ∨ chunk = 1 ∨
          app.ctx.reqType ≠ .confirmTransaction ∧ app.ctx.state ≠ .magicOk then none
      else receiveChunk sdk (.ofBytes data) app.ctx.txInfo
  | _ => none

/-- Only a last part that is taken in reaches the parser. -/
theorem route_of_parserInput {route : Route} {txInfo : TransactionCtx}
    (input : parserInput sdk app route = some txInfo) :
    ∃ data chunk, route = .signTx data chunk false ∧
      ¬ (chunk = 0 ∨ chunk = 1 ∨
        app.ctx.reqType ≠ .confirmTransaction ∧ app.ctx.state ≠ .magicOk) ∧
      receiveChunk sdk (.ofBytes data) app.ctx.txInfo = some txInfo := by
  cases route with
  | signTx data chunk more =>
      cases more with
      | true => cases input
      | false =>
          rw [parserInput] at input
          split at input
          · cases input
          · rename_i reaches
            exact ⟨data, chunk, rfl, reaches, input⟩
  | _ => cases input

/-- What reaches the parser is parsed. -/
theorem handle_of_parserInput {route : Route} {txInfo : TransactionCtx}
    (input : parserInput sdk app route = some txInfo) :
    handle sdk build outcomes app route =
      parseReceived sdk build outcomes { app with ctx := { app.ctx with txInfo := txInfo } } := by
  obtain ⟨data, chunk, rfl, reaches, received⟩ := route_of_parserInput input
  rw [not_or, not_or] at reaches
  rw [handle, handlerSignTx, if_neg reaches.1, if_neg reaches.2.1, signTxPart,
    if_neg reaches.2.2, received]
  rfl

/-! ## What the chunks do in a session -/

/-- The magic that a chunk 1 carries. -/
def magicOf (data : List UInt8) : UInt32 := UInt32.ofNat (ByteOrder.leNat (data.take 4))

/-- The context of a magic. -/
def GlobalCtx.ofMagic (ctx : GlobalCtx) (magic : UInt32) : GlobalCtx :=
  { ctx with networkMagic := magic, state := .magicOk }

/-- Chunk 1 stores a magic; when there are too few bytes, it stores zero. -/
theorem signTxMagic_eq (request : app.ctx.reqType = .confirmTransaction) (data : List UInt8) :
    signTxMagic sdk app (.ofBytes data) =
      if 4 ≤ data.length then app.send (app.ctx.ofMagic (magicOf data)) .swoSuccess
      else app.send { app.ctx with networkMagic := 0 } .swMagicParsingFail := by
  have accepted : ¬ (app.ctx.reqType ≠ .confirmTransaction ∧ app.ctx.state ≠ .bip44Ok) :=
    fun other => other.1 request
  rw [signTxMagic, if_neg accepted, sdk.bufferReadU32_eq, Buffer.read]
  by_cases long : 4 ≤ (Buffer.ofBytes data).rest.length
  · rw [dif_pos long, if_pos (show 4 ≤ data.length from long)]
    rfl
  · rw [dif_neg long, if_neg (show ¬ 4 ≤ data.length from long)]
    rfl

/-- **A part is stored when it fits, and the last one is parsed.** -/
theorem signTxPart_eq (request : app.ctx.reqType = .confirmTransaction) (data : List UInt8)
    (more : Bool) :
    signTxPart sdk build outcomes app (.ofBytes data) more =
      if fits : app.ctx.txInfo.rawTxLen + data.length ≤ maxTransactionLen then
        if more then app.send (app.ctx.receive data fits) .swoSuccess
        else lastPart sdk build outcomes { app with ctx := app.ctx.receive data fits }
      else app.send app.ctx .swWrongTxLength := by
  have accepted : ¬ (app.ctx.reqType ≠ .confirmTransaction ∧ app.ctx.state ≠ .magicOk) :=
    fun other => other.1 request
  rw [signTxPart, if_neg accepted, receiveChunk_eq]
  by_cases fits : app.ctx.txInfo.rawTxLen + data.length ≤ maxTransactionLen
  · rw [dif_pos fits, dif_pos fits]
    cases more with
    | true => rfl
    | false =>
        exact @parseReceived_eq _ _ _ { app with ctx := app.ctx.receive data fits } request
  · rw [dif_neg fits, dif_neg fits]

/-! ## The effects of commands -/

/-- The context of a path that chunk 0 has accepted. -/
def GlobalCtx.ofPath (path : Bip44Path) : GlobalCtx :=
  { GlobalCtx.forTransaction with bip44Path := path, state := .bip44Ok }

/-- The review of the address of the stored key. -/
def App.addressReview (sdk : Sdk) (app : App) : AddressReview :=
  ⟨CText.text (shownAddress sdk app.ctx.rawPublicKey).cells, app.ctx.rawPublicKey⟩

/-- Store the public key of a path. -/
def App.key (sdk : Sdk) (outcomes : CxOutcomes) (app : App) (path : Bip44Path) : App :=
  { app with ctx := GlobalCtx.ofAddress sdk outcomes path }

/-- What a command does that takes a route. -/
inductive Effect (sdk : Sdk) (build : Build) (outcomes : CxOutcomes) (app : App) :
    Route → Handled → Prop
  | refused (sw : StatusWord) : Effect sdk build outcomes app (.refused sw) (app.send app.ctx sw)
  | version : Effect sdk build outcomes app .getVersion
      (some (app, .send ⟨appVersion, .swoSuccess⟩))
  | name : Effect sdk build outcomes app .getAppName (some (app, .send ⟨appName, .swoSuccess⟩))
  | keyRefused {data : List UInt8} {showOnScreen : Bool} (path : Bip44Path) {sw : StatusWord}
      (refusal : sw.Refusal) : Effect sdk build outcomes app (.getPublicKey data showOnScreen)
        (app.send { GlobalCtx.forAddress with bip44Path := path } sw)
  | keySent {data : List UInt8} {path : Bip44Path} (accepted : PathAccepted sdk data path) :
      Effect sdk build outcomes app (.getPublicKey data false)
        (some (app.key sdk outcomes path, .send (app.key sdk outcomes path).sendResponsePubkey))
  | keyShown {data : List UInt8} {path : Bip44Path} (accepted : PathAccepted sdk data path)
      (gAddress : Area Char (addressLen + 1)) :
      Effect sdk build outcomes app (.getPublicKey data true)
        (some ({ app.key sdk outcomes path with gAddress := gAddress },
          .start (.address ((app.key sdk outcomes path).addressReview sdk))))
  | keyEnded {data : List UInt8} : Effect sdk build outcomes app (.getPublicKey data true) none
  | pathRefused {data : List UInt8} {more : Bool} (path : Bip44Path) {sw : StatusWord}
      (refusal : sw.Refusal) : Effect sdk build outcomes app (.signTx data 0 more)
        (app.send { GlobalCtx.forTransaction with bip44Path := path } sw)
  | pathAccepted {data : List UInt8} {more : Bool} {path : Bip44Path}
      (accepted : PathAccepted sdk data path) :
      Effect sdk build outcomes app (.signTx data 0 more) (app.send (.ofPath path) .swoSuccess)
  | misplaced {data : List UInt8} {chunk : UInt8} {more : Bool} (later : chunk ≠ 0)
      (request : app.ctx.reqType ≠ .confirmTransaction) :
      Effect sdk build outcomes app (.signTx data chunk more) (app.send app.ctx .swBadState)
  | magicRefused {data : List UInt8} {more : Bool}
      (request : app.ctx.reqType = .confirmTransaction) (short : ¬ 4 ≤ data.length) :
      Effect sdk build outcomes app (.signTx data 1 more)
        (app.send { app.ctx with networkMagic := 0 } .swMagicParsingFail)
  | magicAccepted {data : List UInt8} {more : Bool}
      (request : app.ctx.reqType = .confirmTransaction) (magic : UInt32) :
      Effect sdk build outcomes app (.signTx data 1 more)
        (app.send (app.ctx.ofMagic magic) .swoSuccess)
  | tooLong {data : List UInt8} {chunk : UInt8} {more : Bool} (part : chunk ≠ 0 ∧ chunk ≠ 1)
      (request : app.ctx.reqType = .confirmTransaction) :
      Effect sdk build outcomes app (.signTx data chunk more) (app.send app.ctx .swWrongTxLength)
  | partStored {data : List UInt8} {chunk : UInt8} (part : chunk ≠ 0 ∧ chunk ≠ 1)
      (request : app.ctx.reqType = .confirmTransaction)
      (fits : app.ctx.txInfo.rawTxLen + data.length ≤ maxTransactionLen) :
      Effect sdk build outcomes app (.signTx data chunk true)
        (app.send (app.ctx.receive data fits) .swoSuccess)
  | parseFailed {data : List UInt8} {chunk : UInt8} (part : chunk ≠ 0 ∧ chunk ≠ 1)
      (request : app.ctx.reqType = .confirmTransaction)
      (fits : app.ctx.txInfo.rawTxLen + data.length ≤ maxTransactionLen)
      (failed : (app.ctx.receive data fits).parseStatus sdk ≠ .parsingOk) (code : UInt8) :
      Effect sdk build outcomes app (.signTx data chunk false)
        (some ({ app with ctx := (app.ctx.receive data fits).parse sdk },
          .send ⟨[code], .swTxParsingFail⟩))
  | reviewOpened {data : List UInt8} {chunk : UInt8} (part : chunk ≠ 0 ∧ chunk ≠ 1)
      (request : app.ctx.reqType = .confirmTransaction)
      (fits : app.ctx.txInfo.rawTxLen + data.length ≤ maxTransactionLen)
      (ok : (app.ctx.receive data fits).parseStatus sdk = .parsingOk) {filled : App}
      (fill : filled = app.fill sdk (((app.ctx.receive data fits).parse sdk).reviewed sdk)) :
      Effect sdk build outcomes app (.signTx data chunk false)
        (some (filled, .start (.transaction (filled.review build))))
  | reviewEnded {data : List UInt8} {chunk : UInt8} (part : chunk ≠ 0 ∧ chunk ≠ 1)
      (request : app.ctx.reqType = .confirmTransaction) :
      Effect sdk build outcomes app (.signTx data chunk false) none

theorem effect_getPublicKey (data : List UInt8) (showOnScreen : Bool) :
    Effect sdk build outcomes app (.getPublicKey data showOnScreen)
      (handlerGetPublicKey sdk outcomes (.ofBytes data) showOnScreen app) := by
  cases run : bufferReadAndValidateBip44 sdk (.ofBytes data) (Vector.replicate _ 0) with
  | fault => exact absurd run (bufferReadAndValidateBip44_ne_fault _ _)
  | ret status read =>
      have handled : handlerGetPublicKey sdk outcomes (.ofBytes data) showOnScreen app =
          app.send { GlobalCtx.forAddress with bip44Path := read.path } status := by
        rw [handlerGetPublicKey, show GlobalCtx.forAddress.bip44Path = Vector.replicate _ 0 from rfl,
          run]
      rw [handled]
      exact .keyRefused read.path (bufferReadAndValidateBip44_refusal run)
  | next value read =>
      have accepted : PathAccepted sdk data read.path := ⟨read, rfl, run⟩
      rw [handlerGetPublicKey_of_accepted outcomes accepted]
      cases showOnScreen with
      | false => exact .keySent accepted
      | true =>
          cases outcomes.hashesOk 4 with
          | true => exact .keyShown accepted _
          | false => exact .keyEnded

theorem effect_signTxPath (data : List UInt8) (more : Bool) :
    Effect sdk build outcomes app (.signTx data 0 more) (signTxPath sdk app (.ofBytes data)) := by
  have zeroPath : GlobalCtx.forTransaction.bip44Path = Vector.replicate _ 0 := rfl
  rw [signTxPath, zeroPath]
  cases run : bufferReadAndValidateBip44 sdk (.ofBytes data) (Vector.replicate _ 0) with
  | fault => exact absurd run (bufferReadAndValidateBip44_ne_fault _ _)
  | ret status read => exact .pathRefused read.path (bufferReadAndValidateBip44_refusal run)
  | next value read => exact .pathAccepted ⟨read, rfl, run⟩

theorem effect_signTxMagic (separate : app.ctx.Separate) (data : List UInt8) (more : Bool) :
    Effect sdk build outcomes app (.signTx data 1 more) (signTxMagic sdk app (.ofBytes data)) := by
  by_cases request : app.ctx.reqType = .confirmTransaction
  · rw [signTxMagic_eq request]
    split
    · exact .magicAccepted request _
    · rename_i short
      exact .magicRefused request short
  · rw [signTxMagic, if_pos ((separate.refused (by decide)).mpr request)]
    exact .misplaced (by decide) request

theorem effect_signTxPart (separate : app.ctx.Separate) (data : List UInt8) {chunk : UInt8}
    (part : chunk ≠ 0 ∧ chunk ≠ 1) (more : Bool) :
    Effect sdk build outcomes app (.signTx data chunk more)
      (signTxPart sdk build outcomes app (.ofBytes data) more) := by
  by_cases request : app.ctx.reqType = .confirmTransaction
  · rw [signTxPart_eq request]
    by_cases fits : app.ctx.txInfo.rawTxLen + data.length ≤ maxTransactionLen
    · rw [dif_pos fits]
      cases more with
      | true => exact .partStored part request fits
      | false =>
          rw [if_neg Bool.false_ne_true, lastPart]
          by_cases ok : (app.ctx.receive data fits).parseStatus sdk = .parsingOk
          · rw [if_neg (not_not_intro ok)]
            cases outcomes.hashesOk 2 with
            | true => exact .reviewOpened part request fits ok rfl
            | false => exact .reviewEnded part request
          · rw [if_pos ok]
            exact .parseFailed part request fits ok _
    · rw [dif_neg fits]
      exact .tooLong part request
  · rw [signTxPart, if_pos ((separate.refused (by decide)).mpr request)]
    exact .misplaced part.1 request

/-- **A command does what is listed for its route.** -/
theorem handle_effect (separate : app.ctx.Separate) (route : Route) :
    Effect sdk build outcomes app route (handle sdk build outcomes app route) := by
  cases route with
  | refused sw => exact .refused sw
  | getVersion => exact .version
  | getAppName => exact .name
  | getPublicKey data showOnScreen => exact effect_getPublicKey data showOnScreen
  | signTx data chunk more =>
      rw [handle, handlerSignTx]
      by_cases first : chunk = 0
      · subst first
        rw [if_pos rfl]
        exact effect_signTxPath data more
      · by_cases second : chunk = 1
        · subst second
          rw [if_neg first, if_pos rfl]
          exact effect_signTxMagic separate data more
        · rw [if_neg first, if_neg second]
          exact effect_signTxPart separate data ⟨first, second⟩ more

end AppNeo3

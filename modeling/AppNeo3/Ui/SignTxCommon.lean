import AppNeo3.Common.AppFormat
import AppNeo3.Types
import AppNeo3.Ui.Utils

/-!
# The texts of a transaction review

`sign_tx_common.c`: `startSignTx` fills the fixed texts of a review from the
context, and the `format…` functions write the title and the text of one item
of a signer into a slot. The slot keeps what it held before wherever an item is
not written: a text without terminator is followed by the rest of the older
text, and a key that does not fit leaves the older text as it was.
-/

set_option autoImplicit false

namespace AppNeo3

open Memory CText DecimalText CBody Body

/-! ## Buffers -/

/-- Ticker, a 64-bit number and a terminator. -/
abbrev amountsMaxSize : Nat := 30

/-- `global_item_storage_t`, the fixed texts of a review. -/
structure GlobalItemStorage where
  dstAddress : Area Char (addressLen + 1)
  systemFee : Area Char amountsMaxSize
  networkFee : Area Char amountsMaxSize
  totalFees : Area Char amountsMaxSize
  tokenAmount : Area Char amountsMaxSize
  voteTo : Area Char (ecpointLen * 2 + 1)
  network : Area Char 11
  validUntilBlock : Area Char 11
  scriptHash : Area Char (32 * 2 + 1)
deriving DecidableEq

def GlobalItemStorage.zero : GlobalItemStorage where
  dstAddress := Area.fill _ nul
  systemFee := Area.fill _ nul
  networkFee := Area.fill _ nul
  totalFees := Area.fill _ nul
  tokenAmount := Area.fill _ nul
  voteTo := Area.fill _ nul
  network := Area.fill _ nul
  validUntilBlock := Area.fill _ nul
  scriptHash := Area.fill _ nul

namespace GlobalItemStorage

variable (g : GlobalItemStorage) (amount : Area Char amountsMaxSize)

def setTokenAmount : GlobalItemStorage := { g with tokenAmount := amount }

def setSystemFee : GlobalItemStorage := { g with systemFee := amount }

def setNetworkFee : GlobalItemStorage := { g with networkFee := amount }

def setTotalFees : GlobalItemStorage := { g with totalFees := amount }

end GlobalItemStorage

/-- The fixed texts, by the facts they state. -/
inductive StaticFact where
  | dstAddress
  | systemFee
  | networkFee
  | totalFees
  | tokenAmount
  | voteTo
  | network
  | validUntilBlock
  | scriptHash
deriving DecidableEq

/-- The string that states a fact. -/
def GlobalItemStorage.shown (g : GlobalItemStorage) : StaticFact → List Char
  | .dstAddress => CText.text g.dstAddress.cells
  | .systemFee => CText.text g.systemFee.cells
  | .networkFee => CText.text g.networkFee.cells
  | .totalFees => CText.text g.totalFees.cells
  | .tokenAmount => CText.text g.tokenAmount.cells
  | .voteTo => CText.text g.voteTo.cells
  | .network => CText.text g.network.cells
  | .validUntilBlock => CText.text g.validUntilBlock.cells
  | .scriptHash => CText.text g.scriptHash.cells

/-- `dynamic_slot_t`, a title and a text. -/
structure DynamicSlot where
  title : Area Char 64
  text : Area Char 64
deriving DecidableEq

/-- What a slot shows: its two strings. -/
def DynamicSlot.shown (slot : DynamicSlot) : List Char × List Char :=
  (CText.text slot.title.cells, CText.text slot.text.cells)

/-- The text that `%d` prints. -/
def intText (value : Int) : List Char :=
  if value < 0 then '-' :: digits value.natAbs else digits value.natAbs

/-- The bytes a pointer points to. A null pointer and bytes outside the raw
transaction cannot be read. -/
def bytesAt (rawTx : List UInt8) (pointer : Option Nat) (count : Nat) : Option (List UInt8) :=
  match pointer with
  | some position =>
      if position + count ≤ rawTx.length then some (slice rawTx position count) else none
  | none => none

/-- Both user interfaces refuse a script that is neither a transfer nor a vote
unless the setting allows it. -/
def scriptRefused (tx : Transaction) (storage : InternalStorage) : Bool :=
  !tx.isSystemAssetTransfer && !tx.isVoteScript && storage.scriptsAllowed == 0

/-! ## The items of a signer -/

variable (sdk : Sdk)

def formatSigner (signerIdx signersSize : Nat) (dest : DynamicSlot) : DynamicSlot where
  title := strlcpy dest.title "Signer".toList
  text := snprintf dest.text (digits (signerIdx + 1) ++ " of ".toList ++ digits signersSize)

/-- Write an account, as hexadecimal text or as an address. The results of the
writers are not looked at. -/
def accountItem (storage : InternalStorage) (account : List UInt8) (dest : DynamicSlot) :
    DynamicSlot where
  title := strlcpy dest.title "Account".toList
  text :=
    if storage.signerAccountFormat = 0 then (sdk.formatHex account dest.text).2
    else scriptHashToAddress sdk dest.text account

def formatAccount (storage : InternalStorage) (rawTx : List UInt8) (s : Signer)
    (dest : DynamicSlot) : Option DynamicSlot :=
  (bytesAt rawTx s.account uint160Len).map fun account => accountItem sdk storage account dest

/-- Append a text, with a comma in front unless it is the first. -/
def strlcatWithComma {n : Nat} (dest : Area Char n × Bool) (text : List Char) :
    Area Char n × Bool :=
  (strlcat (if !dest.2 then strlcat dest.1 [','] else dest.1) text, false)

/-- Append a text when the scope has a bit. -/
def scopeBit {n : Nat} (scope bit : UInt8) (text : List Char) (dest : Area Char n × Bool) :
    Area Char n × Bool :=
  if scope &&& bit ≠ 0 then strlcatWithComma dest text else dest

def formatScope (s : Signer) (dest : DynamicSlot) : DynamicSlot where
  title := strlcpy dest.title "Scope".toList
  text :=
    if s.scope = 0 then strlcpy dest.text "None".toList
    else if s.scope = global then strlcpy dest.text "Global".toList
    else (scopeBit s.scope customGroups "Groups".toList <|
      scopeBit s.scope customContracts "Contracts".toList <|
      scopeBit s.scope calledByEntry "Entry".toList (strlcpy dest.text "By ".toList, true)).1

/-- Write an entry of a list as hexadecimal text, with its place in the list. The
result of the writer is not looked at. -/
def entryItem (kind : List Char) (size index : Nat) (entry : List UInt8) (dest : DynamicSlot) :
    DynamicSlot where
  title := snprintf dest.title
    (kind ++ ' ' :: (digits (index + 1) ++ " of ".toList ++ digits size))
  text := (sdk.formatHex entry dest.text).2

def formatContract (rawTx : List UInt8) (s : Signer) (contractIndex : Nat) (dest : DynamicSlot) :
    Option DynamicSlot :=
  (bytesAt rawTx (s.allowedContracts[contractIndex]?.getD none) uint160Len).map fun contract =>
    entryItem sdk "Contract".toList s.allowedContractsSize.toNat contractIndex contract dest

def formatGroup (rawTx : List UInt8) (s : Signer) (groupIndex : Nat) (dest : DynamicSlot) :
    Option DynamicSlot :=
  (bytesAt rawTx (s.allowedGroups[groupIndex]?.getD none) ecpointLen).map fun group =>
    entryItem sdk "Group".toList s.allowedGroupsSize.toNat groupIndex group dest

/-! ## The fixed texts -/

/-- The status word of a text that cannot be shown ends the filling. -/
abbrev TextFiller : Type → Type := Body GlobalItemStorage StatusWord

/-- Write an amount with its ticker over a zeroed text. -/
def displayAmount (put : GlobalItemStorage → Area Char amountsMaxSize → GlobalItemStorage)
    (ticker : List Char) (value : UInt64) (decimals : UInt8) (sw : StatusWord) :
    TextFiller Unit := do
  modify fun g => put g (Area.fill _ nul)
  let amount := formatAmount sdk (Area.fill amountsMaxSize nul) value decimals
  returnIf (!amount.1) sw
  modify fun g => put g (snprintf (Area.fill _ nul) (ticker ++ ' ' :: text amount.2.cells))

/-- The name of the asset that a transfer moves. -/
def tokenName (isNeo : Bool) : List Char := if isNeo then "NEO".toList else "GAS".toList

/-- The stored destination has no terminator; the text ends where its buffer does. -/
def displayTransfer (tx : Transaction) : TextFiller Unit := do
  modify fun g => { g with
    dstAddress := snprintf (Area.fill _ nul) (text tx.dstAddress.cells) }
  displayAmount sdk .setTokenAmount (tokenName tx.isNeo)
    tx.amount.toUInt64 (if tx.isNeo then 0 else 8) .swDisplayTokenTransferAmountFail

def displayVoteTo (tx : Transaction) : TextFiller Unit :=
  modify fun g => { g with
    voteTo := (sdk.formatHex tx.voteTo.cells (Area.fill _ nul)).2 }

/-- Known networks have names. -/
def displayNetwork (networkMagic : UInt32) : TextFiller Unit := modify fun g => { g with
  network :=
    if networkMagic = networkMainnet then strcpy g.network "MainNet".toList (by decide)
    else if networkMagic = networkTestnet then strcpy g.network "TestNet".toList (by decide)
    else snprintf g.network (intText networkMagic.toInt32.toInt) }

def displayScriptHash (scriptHash : Area UInt8 sha256HashLen) : TextFiller Unit := do
  let formatted := sdk.formatHex scriptHash.cells (Area.fill (32 * 2 + 1) nul)
  modify fun g => { g with scriptHash := formatted.2 }
  returnIf (formatted.1 == -1) .swDisplayScriptHashFail

/-- Fill a text that some transactions only have. -/
def displayWhen (condition : Bool) (body : TextFiller Unit) : TextFiller Unit :=
  if condition then body else pure ()

/-- Fill the texts; the user interface follows when none fails. -/
def startSignTx (ctx : GlobalCtx) : TextFiller Unit := do
  let tx := ctx.txInfo.transaction
  displayWhen tx.isSystemAssetTransfer (displayTransfer sdk tx)
  displayWhen (tx.isVoteScript && !tx.isRemoveVote) (displayVoteTo sdk tx)
  displayNetwork ctx.networkMagic
  displayAmount sdk .setSystemFee "GAS".toList
    tx.systemFee.toUInt64 8 .swDisplaySystemFeeFail
  displayAmount sdk .setNetworkFee "GAS".toList
    tx.networkFee.toUInt64 8 .swDisplayNetworkFeeFail
  displayAmount sdk .setTotalFees "GAS".toList
    (tx.networkFee.toUInt64 + tx.systemFee.toUInt64) 8 .swDisplayTotalFeeFail
  modify fun g => { g with
    validUntilBlock := snprintf g.validUntilBlock (intText tx.validUntilBlock.toInt32.toInt) }
  displayScriptHash sdk ctx.txInfo.scriptHash

/-! ## The filling never fails -/

/-- The text of an amount with its ticker. -/
def amountText (ticker : List Char) (value : UInt64) (decimals : UInt8) :
    Area Char amountsMaxSize :=
  snprintf (Area.fill _ nul) (ticker ++ ' ' ::
    text (formatAmount sdk (Area.fill amountsMaxSize nul) value decimals).2.cells)

variable {sdk}

theorem length_fixedPoint_le {value : Nat} (small : value < 2 ^ 64) {decimals : Nat}
    (known : decimals = 0 ∨ decimals = 8) : (fixedPoint decimals value).length ≤ 22 := by
  rcases known with rfl | rfl
  · have short : (digits (value / 10 ^ 0)).length ≤ 20 :=
      (length_digits_le_iff (by decide)).mpr (by omega)
    rw [fixedPoint, List.length_append, List.length_cons, if_pos rfl, List.length_singleton]
    omega
  · have short : (digits (value / 10 ^ 8)).length ≤ 12 :=
      (length_digits_le_iff (by decide)).mpr (by omega)
    rw [fixedPoint, List.length_append, List.length_cons, if_neg (by decide), length_padded]
    omega

/-- The decimals of the two assets. -/
theorem toNat_decimals {decimals : UInt8} (known : decimals = 0 ∨ decimals = 8) :
    decimals.toNat = 0 ∨ decimals.toNat = 8 :=
  known.imp (fun same => congrArg UInt8.toNat same) (fun same => congrArg UInt8.toNat same)

/-- Amounts of both assets fit. -/
theorem formatAmount_fits {value : UInt64} {decimals : UInt8}
    (known : decimals = 0 ∨ decimals = 8) :
    ∃ area, formatAmount sdk (Area.fill amountsMaxSize nul) value decimals = (true, area) ∧
      text area.cells = fixedPoint decimals.toNat value.toNat := by
  have short := length_digits_toNat value
  refine formatAmount_text sdk ?_
  rw [AmountRoom, amountsMaxSize]
  rcases toNat_decimals known with zero | eight
  · rw [zero]
    split <;> omega
  · rw [eight]
    split <;> omega

theorem displayAmount_run (put : GlobalItemStorage → Area Char amountsMaxSize → GlobalItemStorage)
    (absorbs : ∀ g first second, put (put g first) second = put g second) {ticker : List Char}
    {value : UInt64} {decimals : UInt8} (known : decimals = 0 ∨ decimals = 8) {sw : StatusWord}
    (g : GlobalItemStorage) :
    displayAmount sdk put ticker value decimals sw g =
      .next () (put g (amountText sdk ticker value decimals)) := by
  obtain ⟨area, formatted, _⟩ := @formatAmount_fits sdk value _ known
  rw [displayAmount, bind_of_next (modify_run _ _), formatted, bind_run, returnIf_run, amountText,
    formatted]
  exact congrArg (Outcome.next ()) (absorbs _ _ _)

/-- **The text of an amount is its ticker and its exact decimal number.** -/
theorem text_amountText {ticker : List Char} (size : ticker.length = 3) (clean : nul ∉ ticker)
    {value : UInt64} {decimals : UInt8} (known : decimals = 0 ∨ decimals = 8) :
    text (amountText sdk ticker value decimals).cells =
      ticker ++ ' ' :: fixedPoint decimals.toNat value.toNat := by
  obtain ⟨area, formatted, shown⟩ := @formatAmount_fits sdk value _ known
  have short := length_fixedPoint_le value.toNat_lt (toNat_decimals known)
  rw [amountText, formatted, shown]
  refine text_snprintf ?_ ?_
  · rw [List.length_append, List.length_cons, size]
    show _ < 30
    omega
  · rw [List.mem_append, List.mem_cons, not_or, not_or]
    exact ⟨clean, by decide, nul_not_mem_fixedPoint _ _⟩

/-- The texts that a review of the context shows, over older ones. -/
def reviewTexts (sdk : Sdk) (ctx : GlobalCtx) (g : GlobalItemStorage) : GlobalItemStorage :=
  let tx := ctx.txInfo.transaction
  { dstAddress :=
      if tx.isSystemAssetTransfer then snprintf (Area.fill _ nul) (text tx.dstAddress.cells)
      else g.dstAddress
    tokenAmount :=
      if tx.isSystemAssetTransfer then
        amountText sdk (tokenName tx.isNeo) tx.amount.toUInt64 (if tx.isNeo then 0 else 8)
      else g.tokenAmount
    voteTo :=
      if tx.isVoteScript && !tx.isRemoveVote then
        (sdk.formatHex tx.voteTo.cells (Area.fill _ nul)).2
      else g.voteTo
    network :=
      if ctx.networkMagic = networkMainnet then strcpy g.network "MainNet".toList (by decide)
      else if ctx.networkMagic = networkTestnet then
        strcpy g.network "TestNet".toList (by decide)
      else snprintf g.network (intText ctx.networkMagic.toInt32.toInt)
    systemFee := amountText sdk "GAS".toList tx.systemFee.toUInt64 8
    networkFee := amountText sdk "GAS".toList tx.networkFee.toUInt64 8
    totalFees := amountText sdk "GAS".toList (tx.networkFee.toUInt64 + tx.systemFee.toUInt64) 8
    validUntilBlock := snprintf g.validUntilBlock (intText tx.validUntilBlock.toInt32.toInt)
    scriptHash := (sdk.formatHex ctx.txInfo.scriptHash.cells (Area.fill _ nul)).2 }

theorem displayTransfer_run (tx : Transaction) (g : GlobalItemStorage) :
    displayTransfer sdk tx g = .next () { g with
      dstAddress := snprintf (Area.fill _ nul) (text tx.dstAddress.cells)
      tokenAmount :=
        amountText sdk (tokenName tx.isNeo) tx.amount.toUInt64 (if tx.isNeo then 0 else 8) } := by
  have known : (if tx.isNeo then 0 else 8 : UInt8) = 0 ∨ (if tx.isNeo then 0 else 8 : UInt8) = 8 := by
    cases tx.isNeo <;> decide
  rw [displayTransfer, bind_of_next (modify_run _ _)]
  exact displayAmount_run .setTokenAmount (fun _ _ _ => rfl) known _

theorem displayVoteTo_run (tx : Transaction) (g : GlobalItemStorage) :
    displayVoteTo sdk tx g = .next () { g with
      voteTo := (sdk.formatHex tx.voteTo.cells (Area.fill _ nul)).2 } := rfl

theorem displayScriptHash_run (scriptHash : Area UInt8 sha256HashLen) (g : GlobalItemStorage) :
    displayScriptHash sdk scriptHash g = .next () { g with
      scriptHash := (sdk.formatHex scriptHash.cells (Area.fill _ nul)).2 } := by
  have fits : (hexText scriptHash.cells).length < 32 * 2 + 1 := by
    rw [length_hexText, scriptHash.size_eq]
    decide
  have formatted := sdk.formatHex_eq scriptHash.cells (Area.fill (32 * 2 + 1) nul)
  rw [dif_pos fits] at formatted
  rw [displayScriptHash, bind_of_next (modify_run _ _), formatted, scriptHash.size_eq]
  rfl

theorem displayWhen_run {condition : Bool} {body : TextFiller Unit}
    {fill : GlobalItemStorage → GlobalItemStorage} (runs : ∀ g, body g = .next () (fill g))
    (g : GlobalItemStorage) :
    displayWhen condition body g = .next () (if condition then fill g else g) := by
  cases condition with
  | true => exact runs g
  | false => rfl

/-- **Filling the texts of a review never fails.** -/
theorem startSignTx_run (ctx : GlobalCtx) (g : GlobalItemStorage) :
    startSignTx sdk ctx g = .next () (reviewTexts sdk ctx g) := by
  have known : (8 : UInt8) = 0 ∨ (8 : UInt8) = 8 := .inr rfl
  rw [startSignTx, bind_of_next (displayWhen_run (displayTransfer_run _) _),
    bind_of_next (displayWhen_run (displayVoteTo_run _) _), displayNetwork,
    bind_of_next (modify_run _ _),
    bind_of_next (displayAmount_run .setSystemFee (fun _ _ _ => rfl) known _),
    bind_of_next (displayAmount_run .setNetworkFee (fun _ _ _ => rfl) known _),
    bind_of_next (displayAmount_run .setTotalFees (fun _ _ _ => rfl) known _),
    bind_of_next (modify_run _ _), displayScriptHash_run]
  rw [reviewTexts]
  cases ctx.txInfo.transaction.isSystemAssetTransfer <;>
    cases ctx.txInfo.transaction.isVoteScript && !ctx.txInfo.transaction.isRemoveVote <;> rfl

end AppNeo3

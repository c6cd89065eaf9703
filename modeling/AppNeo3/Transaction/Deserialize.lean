import AppNeo3.Transaction.TxUtils

/-!
# The transaction parser

`deserialize.c`, in stages: the fixed fields at the front, the signers with their
two optional lists, the attributes, and the script, which is handed to the two
recognisers. Every field is stored before it is checked, and nothing is cleared
first: what an earlier parse has left in the transaction is still there.
-/

set_option autoImplicit false

namespace AppNeo3

open Memory CBody Body

/-- The state of the parser: the buffer, the transaction it fills, and the
operand union of the recognisers. -/
structure ParserState where
  buf : Buffer
  tx : Transaction
  size : Data

/-- The parser returns a status. -/
abbrev TxReader : Type → Type := Body ParserState ParserStatus

variable (sdk : Sdk)

/-! ## Steps of the parser -/

/-- Read from the buffer: the result of the reader and the value. -/
def readBuffer {α : Type} (reader : Buffer → Bool × α × Buffer) : TxReader (Bool × α) := fun s =>
  let (ok, value, buf) := reader s.buf
  .next (ok, value) { s with buf := buf }

/-- An assignment to the transaction. An index outside its array is a fault. -/
def assign (write : TxWrite) : TxReader Unit := fun s =>
  if write.target.inBounds then .next () { s with tx := s.tx.assign write } else .fault

/-- Read into a field of the transaction; return when the reader fails. -/
def readField {α : Type} (reader : Buffer → Bool × α × Buffer) (write : α → TxWrite)
    (status : ParserStatus) : TxReader α := do
  let r ← readBuffer reader
  assign (write r.2)
  returnIf (!r.1) status
  pure r.2

/-- Read into a local variable; return when the reader fails. -/
def readLocal {α : Type} (reader : Buffer → Bool × α × Buffer) (status : ParserStatus) :
    TxReader α := do
  let r ← readBuffer reader
  returnIf (!r.1) status
  pure r.2

/-- The position `buf->ptr + buf->offset`. -/
def here : TxReader Nat := fun s => .next s.buf.offset s

/-- Move on in the buffer; return when it is too short. -/
def seek (count : Nat) (status : ParserStatus) : TxReader Unit := do
  let s ← get
  let (ok, buf) := sdk.bufferSeekCur s.buf count
  modify fun s => { s with buf := buf }
  returnIf (!ok) status

/-! ## The fixed fields -/

def parseHeader : TxReader Unit := do
  let version ← readField sdk.bufferReadU8 .version .versionParsingError
  returnIf (version > 0) .versionValueError
  let _ ← readField (sdk.bufferReadU32 · .le) .nonce .nonceParsingError
  let systemFee ← readField (bufferReadS64 sdk · .le) .systemFee .systemFeeParsingError
  returnIf (systemFee < 0) .systemFeeValueError
  let networkFee ← readField (bufferReadS64 sdk · .le) .networkFee .networkFeeParsingError
  returnIf (networkFee < 0) .networkFeeValueError
  let _ ← readField (sdk.bufferReadU32 · .le) .validUntilBlock .validUntilBlockParsingError

/-! ## The signers -/

/-- The 20 bytes at the account pointer of a signer. A null pointer, an index
outside the array and bytes outside the buffer are faults. -/
def accountAt (signer : Nat) : TxReader (List UInt8) := fun s =>
  match (s.tx.signers[signer]?.getD Signer.zero).account with
  | some position =>
      if position + uint160Len ≤ s.buf.ptr.length then
        .next (slice s.buf.ptr position uint160Len) s
      else .fault
  | none => .fault

/-- Compare the account of a signer with the one being added. -/
def compareAccounts (signer earlier : Nat) : TxReader Unit := do
  let earlierAccount ← accountAt earlier
  let account ← accountAt signer
  returnIf (earlierAccount == account) .signerAccountDuplicateError

def parseAccount (signer : Nat) : TxReader Unit := do
  let position ← here
  assign (.signer signer (.account position))
  seek sdk uint160Len .signerAccountParsingError
  loop (compareAccounts signer) signer 0

/-- Scope GLOBAL is not allowed to have other flags. -/
def globalWithOtherFlags (value : UInt8) : Bool := value &&& global == global && value != global

def parseScope (signer : Nat) : TxReader UInt8 := do
  let value ← readLocal sdk.bufferReadU8 .signerScopeParsingError
  assign (.signer signer (.scope value))
  returnIf (globalWithOtherFlags value) .signerScopeValueErrorGlobalFlag
  pure value

/-- One of the two optional lists of a signer: its limits, the fields it fills,
and its statuses. Below its limit it fills elements of its array, and never the
account. -/
structure EntryList where
  flag : UInt8
  maxEntries : Nat
  width : Nat
  sizeWrite : UInt8 → SignerWrite
  entryWrite : Nat → Nat → SignerWrite
  lengthParsingError : ParserStatus
  lengthValueError : ParserStatus
  entryParsingError : ParserStatus
  size_inBounds : ∀ value, (sizeWrite value).target.inBounds = true
  size_other : ∀ value, (sizeWrite value).target ≠ .account
  entry_inBounds : ∀ index position, index < maxEntries →
    (entryWrite index position).target.inBounds = true
  entry_other : ∀ index position, (entryWrite index position).target ≠ .account

/-- The allowed contracts. -/
def allowedContracts : EntryList where
  flag := customContracts
  maxEntries := maxSignerAllowedContracts
  width := uint160Len
  sizeWrite := .allowedContractsSize
  entryWrite := .allowedContract
  lengthParsingError := .signerAllowedContractsLengthParsingError
  lengthValueError := .signerAllowedContractsLengthValueError
  entryParsingError := .signerAllowedContractParsingError
  size_inBounds _ := rfl
  size_other := nofun
  entry_inBounds _ _ inside := decide_eq_true inside
  entry_other := nofun

/-- The allowed groups. A group that is cut off is reported with the status of a
contract. -/
def allowedGroups : EntryList where
  flag := customGroups
  maxEntries := maxSignerAllowedGroups
  width := ecpointLen
  sizeWrite := .allowedGroupsSize
  entryWrite := .allowedGroup
  lengthParsingError := .signerAllowedGroupsLengthParsingError
  lengthValueError := .signerAllowedGroupsLengthValueError
  entryParsingError := .signerAllowedContractParsingError
  size_inBounds _ := rfl
  size_other := nofun
  entry_inBounds _ _ inside := decide_eq_true inside
  entry_other := nofun

def parseEntry (list : EntryList) (signer index : Nat) : TxReader Unit := do
  let position ← here
  assign (.signer signer (list.entryWrite index position))
  seek sdk list.width list.entryParsingError

def parseEntries (list : EntryList) (signer : Nat) : TxReader Unit := do
  let varIntLength ← readLocal (bufferReadUvarint sdk) list.lengthParsingError
  returnIf (varIntLength.toNat > list.maxEntries) list.lengthValueError
  assign (.signer signer (list.sizeWrite varIntLength.toUInt8))
  loop (parseEntry sdk list signer) varIntLength.toNat 0

/-- Parse an optional list when the scope has its flag. -/
def parseOptionalEntries (list : EntryList) (signer : Nat) (scope : UInt8) : TxReader Unit :=
  if scope &&& list.flag = list.flag then parseEntries sdk list signer else pure ()

def parseSigner (signer : Nat) : TxReader Unit := do
  parseAccount sdk signer
  let scope ← parseScope sdk signer
  parseOptionalEntries sdk allowedContracts signer scope
  parseOptionalEntries sdk allowedGroups signer scope

def parseSigners : TxReader Unit := do
  let signerLength ← readLocal (bufferReadUvarint sdk) .signerLengthParsingError
  returnIf (signerLength.toNat < minTxSigners || signerLength.toNat > maxTxSigners)
    .signerLengthValueError
  assign (.signersSize signerLength.toUInt8)
  loop (parseSigner sdk) signerLength.toUInt8.toNat 0

/-! ## The attributes -/

/-- Compare a stored attribute with the one being added. -/
def compareAttribute (attributeType : UInt8) (index : Nat) : TxReader Unit := fun s =>
  match s.tx.attributes[index]? with
  | some stored => returnIf (stored.type == attributeType) .attributesDuplicateType s
  | none => .fault

/-- The new attribute is compared with every slot, also with its own and with
those that this parse has not filled. -/
def parseAttribute (attributesSize index : Nat) : TxReader Unit := do
  let r ← readBuffer sdk.bufferReadU8
  returnIf (!r.1 || r.2 != highPriority) .attributesUnsupportedType
  loop (compareAttribute r.2) attributesSize 0
  assign (.attributeType index r.2)

def parseAttributes : TxReader Unit := do
  let attributesLength ← readLocal (bufferReadUvarint sdk) .attributesLengthParsingError
  returnIf (attributesLength.toNat > maxAttributes || attributesLength > 2)
    .attributesLengthValueError
  assign (.attributesSize attributesLength.toUInt8)
  loop (parseAttribute sdk attributesLength.toUInt8.toNat) attributesLength.toUInt8.toNat 0

/-! ## The script -/

/-- Call a recogniser on a script, from its start. -/
def callRecogniser (recogniser : Recogniser Unit) (script : List UInt8) : TxReader Unit := fun s =>
  match recogniser ⟨Buffer.ofBytes script, s.tx, s.size⟩ with
  | .next _ r | .ret _ r => .next () { s with tx := r.tx, size := r.size }
  | .fault => .fault

/-- Look for a transfer, and for a vote when there is none. -/
def recogniseScript (script : List UInt8) : TxReader Unit := do
  callRecogniser (tryParseTransferScript sdk) script
  let s ← get
  if !s.tx.isSystemAssetTransfer then callRecogniser (tryParseVoteScript sdk) script else pure ()

def parseScript : TxReader Unit := do
  let scriptLength ← readLocal (bufferReadUvarint sdk) .scriptLengthParsingError
  let position ← here
  assign (.script position)
  returnIf (scriptLength.toNat > 0xFFFF || scriptLength == 0) .scriptLengthValueError
  seek sdk scriptLength.toNat .scriptLengthValueError
  assign (.scriptSize scriptLength.toUInt16)
  let s ← get
  recogniseScript sdk (slice s.buf.ptr position scriptLength.toNat)

/-! ## The whole transaction -/

def parseTransaction : TxReader Unit := do
  parseHeader sdk
  parseSigners sdk
  parseAttributes sdk
  parseScript sdk

def deserializeBody : TxReader ParserStatus := do
  let s ← get
  returnIf (s.buf.size > maxTransactionLen) .invalidLengthError
  parseTransaction sdk
  let s ← get
  pure (if s.buf.offset == s.buf.size then .parsingOk else .invalidLengthError)

/-- The status returned, and the transaction and the union left. Nothing is
returned when an access is outside. -/
def transactionDeserialize (buf : Buffer) (tx : Transaction) (size : Data) :
    Option (ParserStatus × Transaction × Data) :=
  match deserializeBody sdk ⟨buf, tx, size⟩ with
  | .next status s | .ret status s => some (status, s.tx, s.size)
  | .fault => none

end AppNeo3

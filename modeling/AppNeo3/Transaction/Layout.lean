import AppNeo3.Transaction.Deserialize
import AppNeo3.Transaction.Scripts

/-!
# The layout of a transaction

The transaction parser as a parser that logs its assignments. Two things that an
earlier parse may have left in the transaction still enter: the attribute slots,
which the duplicate check compares with, and the transfer flag, which keeps the
vote recogniser from being tried. They are the two parameters of `Leftovers`.

The log streams: an assignment made on a byte string is made again, to the same
field, on every longer one.
-/

set_option autoImplicit false

namespace AppNeo3

open CursorParsing Cursor ByteOrder

/-- Parsers over transaction bytes. -/
abbrev TxParser : Type → Type := Cursor UInt8 TxWrite ParserStatus

/-! ## Varints -/

/-- Consume a varint. -/
def uvarint (e : ParserStatus) : TxParser UInt64 := fun pos input =>
  match Varint.decode input with
  | some (length, value) => ⟨[], .ok (value, pos + length, input.drop length)⟩
  | none => ⟨[], .error e⟩

theorem uvarint_of_some {e : ParserStatus} {pos length : Nat} {input : List UInt8} {value : UInt64}
    (encoded : Varint.decode input = some (length, value)) :
    uvarint e pos input = ⟨[], .ok (value, pos + length, input.drop length)⟩ := by
  rw [uvarint, encoded]

theorem uvarint_of_none {e : ParserStatus} {pos : Nat} {input : List UInt8}
    (missing : Varint.decode input = none) : uvarint e pos input = ⟨[], .error e⟩ := by
  rw [uvarint, missing]

theorem streams_uvarint (e : ParserStatus) : Streams TxWrite.target (uvarint e) := by
  intro pos input more
  cases read : Varint.decode input with
  | none =>
      rw [uvarint_of_none read]
      exact fun _ member => nomatch member
  | some result =>
      obtain ⟨length, value⟩ := result
      rw [uvarint_of_some read, uvarint_of_some (Varint.decode_append_of_decode read more),
        List.drop_append_of_le_length (Varint.decode_length read).2]

theorem sound_uvarint (e : ParserStatus) : Sound (uvarint e) Varint.Encodes := by
  intro pos input writes value pos' rest run
  cases read : Varint.decode input with
  | none =>
      rw [uvarint_of_none read] at run
      cases run
  | some result =>
      obtain ⟨length, value⟩ := result
      rw [uvarint_of_some read] at run
      cases run
      refine ⟨input.take length, (List.take_append_drop _ _).symm, ?_, Varint.encodes_take read⟩
      rw [List.length_take, Nat.min_eq_left (Varint.decode_length read).2]

theorem writesWithin_uvarint {holds : TxWrite → Prop} (e : ParserStatus) :
    WritesWithin holds (uvarint e) := by
  intro pos input w member
  rw [uvarint] at member
  split at member <;> cases member

theorem accepts_uvarint {bytes : List UInt8} {value : UInt64}
    (encodes : Varint.Encodes bytes value) (e : ParserStatus) :
    Accepts (uvarint e) bytes value (fun _ => []) := by
  intro pos rest
  rw [uvarint_of_some (encodes.decode_append rest), List.drop_left]

/-! ## The fixed fields -/

def headerLayout : TxParser Unit := do
  let version ← takeInto 1 (fun bytes => bytes.headD 0) 0 .version .versionParsingError
  failIf (version > 0) .versionValueError
  let _ ← takeInto 4 (fun bytes => UInt32.ofNat (leNat bytes)) 0 .nonce .nonceParsingError
  let systemFee ← takeInto 8 (fun bytes => (UInt64.ofNat (leNat bytes)).toInt64) 0 .systemFee
    .systemFeeParsingError
  failIf (systemFee < 0) .systemFeeValueError
  let networkFee ← takeInto 8 (fun bytes => (UInt64.ofNat (leNat bytes)).toInt64) 0 .networkFee
    .networkFeeParsingError
  failIf (networkFee < 0) .networkFeeValueError
  let _ ← takeInto 4 (fun bytes => UInt32.ofNat (leNat bytes)) 0 .validUntilBlock
    .validUntilBlockParsingError

/-! ## The signers -/

/-- The account of a signer, compared with the accounts before it. -/
def accountLayout (signer : Nat) (accounts : List (List UInt8)) : TxParser (List UInt8) := do
  let position ← position
  write (.signer signer (.account position))
  let account ← take uint160Len .signerAccountParsingError
  failIf (accounts.contains account) .signerAccountDuplicateError
  pure account

def scopeLayout (signer : Nat) : TxParser UInt8 := do
  let value ← takeAs 1 (fun bytes => bytes.headD 0) .signerScopeParsingError
  write (.signer signer (.scope value))
  failIf (globalWithOtherFlags value) .signerScopeValueErrorGlobalFlag
  pure value

def entryLayout (list : EntryList) (signer index : Nat) : TxParser Unit := do
  let position ← position
  write (.signer signer (list.entryWrite index position))
  let _ ← take list.width list.entryParsingError

def entriesLayout (list : EntryList) (signer : Nat) : TxParser Unit := do
  let varIntLength ← uvarint list.lengthParsingError
  failIf (varIntLength.toNat > list.maxEntries) list.lengthValueError
  write (.signer signer (list.sizeWrite varIntLength.toUInt8))
  repeatFrom (fun index (_ : Unit) => entryLayout list signer index) varIntLength.toNat 0 ()

def optionalEntriesLayout (list : EntryList) (signer : Nat) (scope : UInt8) : TxParser Unit :=
  if scope &&& list.flag = list.flag then entriesLayout list signer else pure ()

/-- What follows the account of a signer. -/
def authorisationLayout (signer : Nat) : TxParser Unit := do
  let scope ← scopeLayout signer
  optionalEntriesLayout allowedContracts signer scope
  optionalEntriesLayout allowedGroups signer scope

/-- A signer; the accounts so far with its own. -/
def signerLayout (signer : Nat) (accounts : List (List UInt8)) : TxParser (List (List UInt8)) := do
  let account ← accountLayout signer accounts
  authorisationLayout signer
  pure (accounts ++ [account])

def signersLayout : TxParser Unit := do
  let signerLength ← uvarint .signerLengthParsingError
  failIf (signerLength.toNat < minTxSigners || signerLength.toNat > maxTxSigners)
    .signerLengthValueError
  write (.signersSize signerLength.toUInt8)
  repeatFrom signerLayout signerLength.toUInt8.toNat 0 []

/-! ## The attributes -/

/-- The attribute slots of a transaction. -/
abbrev AttributeSlots : Type := Vector Attribute maxAttributes

/-- Whether one of the first slots holds an attribute type. -/
def holdsAttribute (slots : AttributeSlots) (attributesSize : Nat) (attributeType : UInt8) : Bool :=
  (List.range' 0 attributesSize).any fun index =>
    (slots[index]?.getD ⟨0⟩).type == attributeType

def attributeLayout (attributesSize index : Nat) (slots : AttributeSlots) :
    TxParser AttributeSlots := do
  let attributeType ← takeAs 1 (fun bytes => bytes.headD 0) .attributesUnsupportedType
  failIf (attributeType != highPriority) .attributesUnsupportedType
  failIf (holdsAttribute slots attributesSize attributeType) .attributesDuplicateType
  write (.attributeType index attributeType)
  pure (modifyAt slots index fun _ => ⟨attributeType⟩)

def attributesLayout (slots : AttributeSlots) : TxParser Unit := do
  let attributesLength ← uvarint .attributesLengthParsingError
  failIf (attributesLength.toNat > maxAttributes || attributesLength > 2)
    .attributesLengthValueError
  write (.attributesSize attributesLength.toUInt8)
  repeatFrom (attributeLayout attributesLength.toUInt8.toNat) attributesLength.toUInt8.toNat 0 slots

/-! ## The script -/

/-- Whether a script is recognised as a transfer. -/
def recognisesTransfer (sdk : Sdk) (script : List UInt8) : Bool :=
  (transferScript sdk 0 script).outcome.isOk

/-- The assignments of the recognisers on a script, for a stored transfer flag. -/
def scriptWrites (sdk : Sdk) (transferFlag : Bool) (script : List UInt8) : List TxWrite :=
  (transferScript sdk 0 script).writes ++
    if transferFlag || recognisesTransfer sdk script then [] else (voteScript 0 script).writes

def scriptLayout (sdk : Sdk) (transferFlag : Bool) : TxParser Unit := do
  let scriptLength ← uvarint .scriptLengthParsingError
  let position ← position
  write (.script position)
  failIf (scriptLength.toNat > 0xFFFF || scriptLength == 0) .scriptLengthValueError
  let script ← take scriptLength.toNat .scriptLengthValueError
  write (.scriptSize scriptLength.toUInt16)
  writeAll (scriptWrites sdk transferFlag script)

/-- The script before the recognisers run. -/
def scriptBytesLayout : TxParser (List UInt8) := do
  let scriptLength ← uvarint .scriptLengthParsingError
  let position ← position
  write (.script position)
  failIf (scriptLength.toNat > 0xFFFF || scriptLength == 0) .scriptLengthValueError
  let script ← take scriptLength.toNat .scriptLengthValueError
  write (.scriptSize scriptLength.toUInt16)
  pure script

/-- The recognisers come last. -/
theorem scriptLayout_eq (sdk : Sdk) (transferFlag : Bool) :
    scriptLayout sdk transferFlag = scriptBytesLayout >>= fun script =>
      writeAll (scriptWrites sdk transferFlag script) := by
  simp only [scriptLayout, scriptBytesLayout, bind_assoc, pure_bind]

/-! ## The whole transaction -/

/-- What an earlier parse has left that a parse looks at. -/
structure Leftovers where
  slots : AttributeSlots
  transferFlag : Bool

/-- The leftovers in a transaction. -/
def Transaction.leftovers (tx : Transaction) : Leftovers := ⟨tx.attributes, tx.isSystemAssetTransfer⟩

/-- No leftovers: the slots and the flag of the all-zero transaction. -/
def Leftovers.none : Leftovers := Transaction.zero.leftovers

def transactionLayout (sdk : Sdk) (left : Leftovers) : TxParser Unit := do
  headerLayout
  signersLayout
  attributesLayout left.slots
  scriptLayout sdk left.transferFlag

/-- The parts of a transaction before the recognisers run; its script. -/
def fieldsLayout (slots : AttributeSlots) : TxParser (List UInt8) := do
  headerLayout
  signersLayout
  attributesLayout slots
  scriptBytesLayout

theorem transactionLayout_eq (sdk : Sdk) (left : Leftovers) :
    transactionLayout sdk left = fieldsLayout left.slots >>= fun script =>
      writeAll (scriptWrites sdk left.transferFlag script) := by
  simp only [transactionLayout, fieldsLayout, scriptLayout_eq, bind_assoc]

/-- The status of a reading: all bytes have to be consumed. -/
def wholeStatus (reading : Reading UInt8 TxWrite ParserStatus Unit) : ParserStatus :=
  match reading.outcome with
  | .ok (_, _, rest) => if rest.isEmpty then .parsingOk else .invalidLengthError
  | .error status => status

/-- The status that the deserializer returns for some bytes. -/
def layoutStatus (sdk : Sdk) (left : Leftovers) (bytes : List UInt8) : ParserStatus :=
  if bytes.length > maxTransactionLen then .invalidLengthError
  else wholeStatus (transactionLayout sdk left 0 bytes)

/-- The assignments that the deserializer makes for some bytes. -/
def layoutWrites (sdk : Sdk) (left : Leftovers) (bytes : List UInt8) : List TxWrite :=
  if bytes.length > maxTransactionLen then [] else (transactionLayout sdk left 0 bytes).writes

/-! ## The parts of a transaction -/

/-- The parts, in the order in which they are assigned. -/
inductive TxPart where
  | header
  | signers
  | attributes
  | script
  | recognisers
deriving DecidableEq

/-- The part that a field is of. -/
def TxField.part : TxField → TxPart
  | .version | .nonce | .systemFee | .networkFee | .validUntilBlock => .header
  | .signer _ _ | .signersSize => .signers
  | .attributeType _ | .attributesSize => .attributes
  | .script | .scriptSize => .script
  | _ => .recognisers

/-- A write of a part. -/
structure TxPart.Holds (part : TxPart) (write : TxWrite) : Prop where
  part_eq : write.target.part = part

theorem TxPart.Holds.ne {part : TxPart} {write : TxWrite} (holds : part.Holds write)
    {field : TxField} (other : field.part ≠ part) : write.target ≠ field := by
  intro same
  exact other ((congrArg TxField.part same).symm.trans holds.part_eq)

theorem writesWithin_header : WritesWithin TxPart.header.Holds headerLayout :=
  (writesWithin_takeInto 1 _ _ (fun _ => ⟨rfl⟩) _).bind fun _ =>
  (writesWithin_failIf _ _).bind fun _ =>
  (writesWithin_takeInto 4 _ _ (fun _ => ⟨rfl⟩) _).bind fun _ =>
  (writesWithin_takeInto 8 _ _ (fun _ => ⟨rfl⟩) _).bind fun _ =>
  (writesWithin_failIf _ _).bind fun _ =>
  (writesWithin_takeInto 8 _ _ (fun _ => ⟨rfl⟩) _).bind fun _ =>
  (writesWithin_failIf _ _).bind fun _ =>
  (writesWithin_takeInto 4 _ _ (fun _ => ⟨rfl⟩) _).bind fun _ => writesWithin_pure _

theorem writesWithin_optionalEntries (list : EntryList) (signer : Nat) (scope : UInt8) :
    WritesWithin TxPart.signers.Holds (optionalEntriesLayout list signer scope) := by
  rw [optionalEntriesLayout]
  split
  · exact (writesWithin_uvarint _).bind fun _ => (writesWithin_failIf _ _).bind fun _ =>
      (writesWithin_write ⟨rfl⟩).bind fun _ => writesWithin_repeatFrom (fun _ _ =>
      writesWithin_position.bind fun _ => (writesWithin_write ⟨rfl⟩).bind fun _ =>
      (writesWithin_take _ _).bind fun _ => writesWithin_pure _) _ _ _
  · exact writesWithin_pure _

theorem writesWithin_signers : WritesWithin TxPart.signers.Holds signersLayout := by
  have account : ∀ signer accounts,
      WritesWithin TxPart.signers.Holds (accountLayout signer accounts) := fun _ _ =>
    writesWithin_position.bind fun _ => (writesWithin_write ⟨rfl⟩).bind fun _ =>
    (writesWithin_take _ _).bind fun _ => (writesWithin_failIf _ _).bind fun _ =>
    writesWithin_pure _
  have authorisation : ∀ signer,
      WritesWithin TxPart.signers.Holds (authorisationLayout signer) := fun _ =>
    ((writesWithin_takeAs 1 _ _).bind fun _ => (writesWithin_write ⟨rfl⟩).bind fun _ =>
      (writesWithin_failIf _ _).bind fun _ => writesWithin_pure _).bind fun _ =>
    (writesWithin_optionalEntries _ _ _).bind fun _ => writesWithin_optionalEntries _ _ _
  exact (writesWithin_uvarint _).bind fun _ => (writesWithin_failIf _ _).bind fun _ =>
    (writesWithin_write ⟨rfl⟩).bind fun _ => writesWithin_repeatFrom (fun _ _ =>
    (account _ _).bind fun _ => (authorisation _).bind fun _ => writesWithin_pure _) _ _ _

theorem writesWithin_attributes (slots : AttributeSlots) :
    WritesWithin TxPart.attributes.Holds (attributesLayout slots) :=
  (writesWithin_uvarint _).bind fun _ => (writesWithin_failIf _ _).bind fun _ =>
  (writesWithin_write ⟨rfl⟩).bind fun _ => writesWithin_repeatFrom (fun _ _ =>
  (writesWithin_takeAs 1 _ _).bind fun _ => (writesWithin_failIf _ _).bind fun _ =>
  (writesWithin_failIf _ _).bind fun _ => (writesWithin_write ⟨rfl⟩).bind fun _ =>
  writesWithin_pure _) _ _ _

/-! ## Streaming -/

theorem streams_header : Streams TxWrite.target headerLayout :=
  (streams_takeInto 1 _ _ (fun _ _ => rfl) _).bind fun _ => (streams_failIf _ _).bind fun _ =>
  (streams_takeInto 4 _ _ (fun _ _ => rfl) _).bind fun _ =>
  (streams_takeInto 8 _ _ (fun _ _ => rfl) _).bind fun _ => (streams_failIf _ _).bind fun _ =>
  (streams_takeInto 8 _ _ (fun _ _ => rfl) _).bind fun _ => (streams_failIf _ _).bind fun _ =>
  (streams_takeInto 4 _ _ (fun _ _ => rfl) _).bind fun _ => streams_pure _

theorem streams_entries (list : EntryList) (signer : Nat) (scope : UInt8) :
    Streams TxWrite.target (optionalEntriesLayout list signer scope) := by
  rw [optionalEntriesLayout]
  split
  · exact (streams_uvarint _).bind fun _ => (streams_failIf _ _).bind fun _ =>
      (streams_write _).bind fun _ => streams_repeatFrom (fun _ _ =>
        streams_position.bind fun _ => (streams_write _).bind fun _ =>
        (streams_take _ _).bind fun _ => streams_pure _) _ _ _
  · exact streams_pure _

theorem streams_signers : Streams TxWrite.target signersLayout := by
  have account : ∀ signer accounts, Streams TxWrite.target (accountLayout signer accounts) :=
    fun _ _ => streams_position.bind fun _ => (streams_write _).bind fun _ =>
      (streams_take _ _).bind fun _ => (streams_failIf _ _).bind fun _ => streams_pure _
  have authorisation : ∀ signer, Streams TxWrite.target (authorisationLayout signer) := fun _ =>
    ((streams_takeAs 1 _ _).bind fun _ => (streams_write _).bind fun _ =>
      (streams_failIf _ _).bind fun _ => streams_pure _).bind fun _ =>
    (streams_entries _ _ _).bind fun _ => streams_entries _ _ _
  exact (streams_uvarint _).bind fun _ => (streams_failIf _ _).bind fun _ =>
    (streams_write _).bind fun _ => streams_repeatFrom (fun _ _ =>
      (account _ _).bind fun _ => (authorisation _).bind fun _ => streams_pure _) _ _ _

theorem streams_attributes (slots : AttributeSlots) :
    Streams TxWrite.target (attributesLayout slots) :=
  (streams_uvarint _).bind fun _ => (streams_failIf _ _).bind fun _ =>
  (streams_write _).bind fun _ => streams_repeatFrom (fun _ _ =>
    (streams_takeAs 1 _ _).bind fun _ => (streams_failIf _ _).bind fun _ =>
    (streams_failIf _ _).bind fun _ => (streams_write _).bind fun _ => streams_pure _) _ _ _

theorem streams_script (sdk : Sdk) (transferFlag : Bool) :
    Streams TxWrite.target (scriptLayout sdk transferFlag) :=
  (streams_uvarint _).bind fun _ => streams_position.bind fun _ => (streams_write _).bind fun _ =>
  (streams_failIf _ _).bind fun _ => (streams_take _ _).bind fun _ =>
  (streams_write _).bind fun _ => streams_writeAll _

/-- **What an earlier part of the bytes has assigned, the whole assigns again.** -/
theorem streams_transaction (sdk : Sdk) (left : Leftovers) :
    Streams TxWrite.target (transactionLayout sdk left) :=
  streams_header.bind fun _ => streams_signers.bind fun _ =>
  (streams_attributes _).bind fun _ => streams_script _ _

end AppNeo3

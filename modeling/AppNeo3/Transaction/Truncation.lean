import AppNeo3.Foundation.Cuts
import AppNeo3.Sdk.Reference
import AppNeo3.Transaction.Recognised

/-!
# Truncated and over-long transactions

Every byte of a transaction is of one field, its place. A transaction that is cut
short is refused with the status for the place of the first missing byte. The
one exception is a missing byte of a group, which is refused with the status for
a contract (`truncation_iff`). Bytes behind a transaction are refused with the
status for its length.
-/

set_option autoImplicit false

namespace AppNeo3

open Memory CursorParsing Cursor ByteOrder

/-! ## The places of the bytes -/

/-- The fields of a serialised transaction. -/
inductive TxPlace where
  | version
  | nonce
  | systemFee
  | networkFee
  | validUntilBlock
  | signerCount
  | signerAccount
  | signerScope
  | contractCount
  | contract
  | groupCount
  | group
  | attributeCount
  | attribute
  | scriptLength
  | script
deriving DecidableEq

namespace TxPlace

/-- The status that names a field whose bytes are missing. -/
def code : TxPlace → ParserStatus
  | .version => .versionParsingError
  | .nonce => .nonceParsingError
  | .systemFee => .systemFeeParsingError
  | .networkFee => .networkFeeParsingError
  | .validUntilBlock => .validUntilBlockParsingError
  | .signerCount => .signerLengthParsingError
  | .signerAccount => .signerAccountParsingError
  | .signerScope => .signerScopeParsingError
  | .contractCount => .signerAllowedContractsLengthParsingError
  | .contract => .signerAllowedContractParsingError
  | .groupCount => .signerAllowedGroupsLengthParsingError
  | .group => .signerAllowedGroupsParsingError
  | .attributeCount => .attributesLengthParsingError
  | .attribute => .attributesUnsupportedType
  | .scriptLength => .scriptLengthParsingError
  | .script => .scriptLengthValueError

/-- The status that is returned. -/
def returned (place : TxPlace) : ParserStatus :=
  if place = .group then .signerAllowedContractParsingError else place.code

theorem returned_eq_code_iff {place : TxPlace} : place.returned = place.code ↔ place ≠ .group := by
  cases place <;> decide

theorem returned_ne_ok (place : TxPlace) : place.returned ≠ .parsingOk := by
  cases place <;> decide

end TxPlace

/-- Bytes of one place. -/
def marked (place : TxPlace) (bytes : List UInt8) : List TxPlace := bytes.map fun _ => place

@[simp] theorem map_marked (place : TxPlace) (bytes : List UInt8) :
    (marked place bytes).map TxPlace.returned = bytes.map fun _ => place.returned :=
  List.map_map

def EntriesImage.places {limit width : Nat} (count entry : TxPlace)
    (image : EntriesImage limit width) : List TxPlace :=
  marked count image.count.bytes ++ image.entries.flatMap fun item => marked entry item.cells

def optionalPlaces {limit width : Nat} (count entry : TxPlace) :
    Option (EntriesImage limit width) → List TxPlace
  | none => []
  | some image => image.places count entry

def SignerImage.places (image : SignerImage) : List TxPlace :=
  marked .signerAccount image.account.cells ++ marked .signerScope [image.scope] ++
    optionalPlaces .contractCount .contract image.contracts ++
    optionalPlaces .groupCount .group image.groups

def HeaderImage.places (image : HeaderImage) : List TxPlace :=
  marked .version [0x00] ++ marked .nonce image.nonce.cells ++
    marked .systemFee image.systemFee.cells ++ marked .networkFee image.networkFee.cells ++
    marked .validUntilBlock image.validUntilBlock.cells

def SignersImage.places (image : SignersImage) : List TxPlace :=
  marked .signerCount image.count.bytes ++ image.signers.flatMap SignerImage.places

def AttributesImage.places (image : AttributesImage) : List TxPlace :=
  marked .attributeCount image.count.bytes ++
    marked .attribute (List.replicate image.count.value.toNat highPriority)

def ScriptImage.places (image : ScriptImage) : List TxPlace :=
  marked .scriptLength image.count.bytes ++ marked .script image.script

/-- The place of every byte of a transaction. -/
def TransactionImage.places (image : TransactionImage) : List TxPlace :=
  image.header.places ++ image.signers.places ++ image.attributes.places ++ image.script.places

/-! ## The layout fails at the place of the cut -/

theorem reads_uvarint {bytes : List UInt8} {value : UInt64}
    (encodes : Varint.Encodes bytes value) (e : ParserStatus) :
    Reads (uvarint e) bytes value (bytes.map fun _ => e) where
  whole pos rest := ⟨[], accepts_uvarint encodes e pos rest⟩
  length_eq := List.length_map _
  cut pos k e' found := by
    obtain ⟨short, rfl⟩ := lt_of_getElem?_map found
    exact ⟨[], uvarint_of_none (encodes.decode_take short)⟩

theorem reads_entries (list : EntryList) (signer : Nat) (image : list.Image)
    {count entry : TxPlace} (countCode : count.returned = list.lengthParsingError)
    (entryCode : entry.returned = list.entryParsingError) :
    Reads (entriesLayout list signer) image.bytes ()
      ((image.places count entry).map TxPlace.returned) := by
  have turn : ∀ index (item : Area UInt8 list.width), Reads (entryLayout list signer index)
      item.cells () ((marked entry item.cells).map TxPlace.returned) := by
    intro index item
    rw [map_marked, entryCode]
    refine reads_position_bind fun here => ?_
    exact Reads.of_eq (Reads.bind (reads_write _) <|
      Reads.bind (reads_take item.size_eq _) <| reads_pure ()) (List.append_nil _).symm
      (List.append_nil _).symm
  have repeated := @reads_repeatFrom UInt8 TxWrite ParserStatus Unit _ Area.cells
    (fun item => (marked entry item.cells).map TxPlace.returned)
    (fun index _ => entryLayout list signer index) (fun _ _ _ => ()) (fun _ _ _ => True)
    (fun index _ item _ _ => ⟨turn index item, trivial⟩) image.entries 0 () trivial
  rw [image.length_eq] at repeated
  refine Reads.of_eq (Reads.bind (reads_uvarint image.count.encodes _) <|
    Reads.bind (reads_failIf image.inLimits _) <| Reads.bind (reads_write _) repeated) rfl ?_
  rw [EntriesImage.places, List.map_append, map_marked, countCode, List.map_flatMap]
  rfl

theorem reads_optionalEntries (list : EntryList) (signer : Nat) {scope : UInt8}
    {image : Option list.Image} (present : image.isSome = true ↔ scope &&& list.flag = list.flag)
    {count entry : TxPlace} (countCode : count.returned = list.lengthParsingError)
    (entryCode : entry.returned = list.entryParsingError) :
    Reads (optionalEntriesLayout list signer scope) (optionalBytes image) ()
      ((optionalPlaces count entry image).map TxPlace.returned) := by
  cases image with
  | none =>
      have absent : ¬ scope &&& list.flag = list.flag := fun set =>
        Bool.false_ne_true (present.mpr set)
      rw [optionalEntriesLayout, if_neg absent]
      exact reads_pure ()
  | some image =>
      rw [optionalEntriesLayout, if_pos (present.mp rfl)]
      exact reads_entries list signer image countCode entryCode

theorem reads_signer (index : Nat) {accounts : List (List UInt8)} {image : SignerImage}
    (other : image.account.cells ∉ accounts) :
    Reads (signerLayout index accounts) image.bytes (accounts ++ [image.account.cells])
      (image.places.map TxPlace.returned) := by
  have different : accounts.contains image.account.cells = false := by
    rw [List.contains_eq_mem, decide_eq_false other]
  have account : Reads (accountLayout index accounts) image.account.cells image.account.cells
      (image.account.cells.map fun _ => .signerAccountParsingError) := by
    refine reads_position_bind fun here => ?_
    exact Reads.of_eq (Reads.bind (reads_write _) <|
      Reads.bind (reads_take image.account.size_eq _) <|
      Reads.bind (reads_failIf different _) <| reads_pure _)
      (by rw [List.append_nil, List.append_nil]; rfl)
      (by rw [List.append_nil, List.append_nil]; rfl)
  have size : [image.scope].length = 1 := rfl
  have scope : Reads (scopeLayout index) [image.scope] image.scope
      ([image.scope].map fun _ => .signerScopeParsingError) :=
    Reads.of_eq (Reads.bind (reads_takeAs size _ _) <| Reads.bind (reads_write _) <|
      Reads.bind (reads_failIf (globalWithOtherFlags_eq_false.mpr image.scope_ok) _) <|
      reads_pure _) rfl rfl
  have contracts := @reads_optionalEntries allowedContracts index _ _ image.contracts_iff
    .contractCount .contract rfl rfl
  have groups := @reads_optionalEntries allowedGroups index _ _ image.groups_iff
    .groupCount .group rfl rfl
  refine Reads.of_eq (Reads.bind account <| Reads.bind (Reads.bind scope <|
    Reads.bind contracts groups) <| reads_pure _) ?_ ?_
  · simp only [SignerImage.bytes, List.append_assoc, List.append_nil]
    rfl
  · simp only [SignerImage.places, List.map_append, map_marked, List.append_assoc,
      List.append_nil]
    rfl

theorem reads_header (image : HeaderImage) :
    Reads headerLayout image.bytes () (image.places.map TxPlace.returned) := by
  have size : [(0x00 : UInt8)].length = 1 := rfl
  refine Reads.of_eq (Reads.bind (reads_takeInto size _ _ _ _) <|
    Reads.bind (reads_failIf (by decide) _) <|
    Reads.bind (reads_takeInto image.nonce.size_eq _ _ _ _) <|
    Reads.bind (reads_takeInto image.systemFee.size_eq _ _ _ _) <|
    Reads.bind (reads_failIf (fee_passes image.systemFee_ok) _) <|
    Reads.bind (reads_takeInto image.networkFee.size_eq _ _ _ _) <|
    Reads.bind (reads_failIf (fee_passes image.networkFee_ok) _) <|
    Reads.bind (reads_takeInto image.validUntilBlock.size_eq _ _ _ _) <| reads_pure ()) ?_ ?_
  · simp only [HeaderImage.bytes, List.append_assoc, List.append_nil, List.nil_append]
  · simp only [HeaderImage.places, List.map_append, map_marked, List.append_assoc,
      List.append_nil, List.nil_append]
    rfl

theorem reads_signers (image : SignersImage) :
    Reads signersLayout image.bytes () (image.places.map TxPlace.returned) := by
  have repeated := @reads_repeatFrom UInt8 TxWrite ParserStatus _ _ SignerImage.bytes
    (fun signer => signer.places.map TxPlace.returned) signerLayout
    (fun _ accounts signer => accounts ++ [signer.account.cells])
    (fun _ accounts signers => Distinct accounts signers)
    (fun index accounts signer signers different =>
      have split := distinct_cons.mp different
      ⟨reads_signer index split.1, split.2⟩)
    image.signers 0 [] ⟨image.distinct, fun _ _ => List.not_mem_nil⟩
  rw [← image.turns] at repeated
  refine Reads.of_eq (Reads.bind (reads_uvarint image.count.encodes _) <|
    Reads.bind (reads_failIf image.inLimits _) <| Reads.bind (reads_write _) repeated) rfl ?_
  rw [SignersImage.places, List.map_append, map_marked, List.map_flatMap]
  rfl

theorem reads_attributes (image : AttributesImage) :
    Reads (attributesLayout Leftovers.none.slots) image.bytes ()
      (image.places.map TxPlace.returned) := by
  have small := image.le_one
  have turns : Reads (repeatFrom (attributeLayout image.count.value.toUInt8.toNat)
      image.count.value.toUInt8.toNat 0 Leftovers.none.slots)
      (List.replicate image.count.value.toNat highPriority) ()
      ((List.replicate image.count.value.toNat highPriority).map
        fun _ => .attributesUnsupportedType) := by
    rw [UInt64.toNat_toUInt8_of_lt (by omega)]
    rcases Nat.le_one_iff_eq_zero_or_eq_one.mp small with zero | one
    · rw [zero]
      exact reads_pure ()
    · rw [one]
      have size : [highPriority].length = 1 := rfl
      have free : holdsAttribute Leftovers.none.slots 1 highPriority = false := by decide
      exact Reads.of_eq (Reads.bind (Reads.bind (reads_takeAs size _ _) <|
        Reads.bind (reads_failIf (by decide) _) <| Reads.bind (reads_failIf free _) <|
        Reads.bind (reads_write _) <| reads_pure _) <| reads_pure ()) rfl rfl
  refine Reads.of_eq (Reads.bind (reads_uvarint image.count.encodes _) <|
    Reads.bind (reads_failIf image.inLimits _) <| Reads.bind (reads_write _) turns) rfl ?_
  rw [AttributesImage.places, List.map_append, map_marked, map_marked]
  rfl

theorem reads_script (sdk : Sdk) (transferFlag : Bool) (image : ScriptImage) :
    Reads (scriptLayout sdk transferFlag) image.bytes () (image.places.map TxPlace.returned) := by
  refine Reads.of_eq (Reads.bind (reads_uvarint image.count.encodes _) <|
    reads_position_bind fun here => Reads.bind (reads_write _) <|
    Reads.bind (reads_failIf image.inLimits _) <| Reads.bind (reads_take image.length_eq _) <|
    Reads.bind (reads_write _) <| reads_writeAll _) ?_ ?_
  · simp only [ScriptImage.bytes, List.append_nil, List.nil_append]
  · simp only [ScriptImage.places, List.map_append, map_marked, List.append_nil,
      List.nil_append]
    rfl

/-- **The layout fails at the place of the cut.** -/
theorem reads_transaction (sdk : Sdk) (image : TransactionImage) :
    Reads (transactionLayout sdk Leftovers.none) image.bytes ()
      (image.places.map TxPlace.returned) := by
  refine Reads.of_eq (Reads.bind (reads_header image.header) <|
    Reads.bind (reads_signers image.signers) <| Reads.bind (reads_attributes image.attributes) <|
    reads_script sdk Leftovers.none.transferFlag image.script) ?_ ?_
  · simp only [TransactionImage.bytes, List.append_assoc]
  · simp only [TransactionImage.places, List.map_append, List.append_assoc]

/-! ## The status of a cut -/

variable {sdk : Sdk}

theorem length_places (image : TransactionImage) : image.places.length = image.bytes.length := by
  have length := (reads_transaction Sdk.reference image).length_eq
  rwa [List.length_map] at length

/-- The status of a transaction that is cut short. -/
theorem layoutStatus_take {image : TransactionImage}
    (short : image.bytes.length ≤ maxTransactionLen) {k : Nat} {place : TxPlace}
    (missing : image.places[k]? = some place) :
    layoutStatus sdk Leftovers.none (image.bytes.take k) = place.returned := by
  have fits : (image.bytes.take k).length ≤ maxTransactionLen :=
    (List.length_take_le' k image.bytes).trans short
  obtain ⟨writes, failed⟩ := (reads_transaction sdk image).cut 0 k place.returned (by
    rw [List.getElem?_map, missing]
    rfl)
  rw [layoutStatus, if_neg (Nat.not_lt.mpr fits), failed]
  rfl

/-- The status of a transaction with bytes behind it. -/
theorem layoutStatus_append (image : TransactionImage) {more : List UInt8} (some : more ≠ []) :
    layoutStatus sdk Leftovers.none (image.bytes ++ more) = .invalidLengthError := by
  rw [layoutStatus]
  split
  · rfl
  · obtain ⟨writes, read⟩ := (reads_transaction sdk image).whole 0 more
    rw [read, wholeStatus]
    exact if_neg (by simpa using some)

/-- **A truncated transaction is refused with the status for the place of the
cut, unless the cut is inside a group; an over-long one with the status for its
length.** -/
theorem truncation_iff (sdk : Sdk) {b : List UInt8} {tx : Transaction}
    (parses : Parses sdk b tx) (size : Data) :
    (∃ image : TransactionImage, b = image.bytes) ∧ ∀ image : TransactionImage, b = image.bytes →
      image.places.length = b.length ∧
      (∀ (k : Nat) (place : TxPlace), image.places[k]? = some place → ∃ status tx' size',
        transactionDeserialize sdk (Buffer.ofBytes (b.take k)) Transaction.zero size =
          some (status, tx', size') ∧
        status ≠ .parsingOk ∧ (status = place.code ↔ place ≠ .group)) ∧
      ∀ more : List UInt8, more ≠ [] → ∃ tx' size',
        transactionDeserialize sdk (Buffer.ofBytes (b ++ more)) Transaction.zero size =
          some (.invalidLengthError, tx', size') := by
  obtain ⟨grammatical, short⟩ := parses.image_short
  refine ⟨grammatical, ?_⟩
  rintro image rfl
  refine ⟨length_places image, fun k place missing => ?_, fun more some => ?_⟩
  · obtain ⟨size', run⟩ := @transactionDeserialize_eq sdk (image.bytes.take k) Transaction.zero size
    have status : layoutStatus sdk Transaction.zero.leftovers (image.bytes.take k) =
        place.returned := layoutStatus_take short missing
    rw [status] at run
    exact ⟨_, _, size', run, place.returned_ne_ok, TxPlace.returned_eq_code_iff⟩
  · obtain ⟨size', run⟩ := @transactionDeserialize_eq sdk (image.bytes ++ more) Transaction.zero
      size
    have status : layoutStatus sdk Transaction.zero.leftovers (image.bytes ++ more) =
        .invalidLengthError := layoutStatus_append image some
    rw [status] at run
    exact ⟨_, size', run⟩

/-- A cut inside the account of a signer. -/
theorem truncation_account :
    let signer := SignerImage.plain (Area.fill _ 0)
    ∃ tx' size', transactionDeserialize Sdk.reference
      (Buffer.ofBytes (signer.transaction.bytes.take 30)) Transaction.zero (Area.fill 8 0) =
        some (.signerAccountParsingError, tx', size') := by
  intro signer
  have parses := @SignerImage.transaction_parses Sdk.reference signer (by decide)
  obtain ⟨_, truncated⟩ := truncation_iff Sdk.reference parses (Area.fill 8 0)
  obtain ⟨_, cut, _⟩ := truncated signer.transaction rfl
  obtain ⟨status, tx', size', run, _, code⟩ := cut 30 .signerAccount (by decide)
  have named : status = .signerAccountParsingError := code.mpr nofun
  exact ⟨tx', size', named ▸ run⟩

/-- **A cut inside a group is reported as one inside a contract.** -/
theorem truncation_group :
    let signer := SignerImage.ofGroup (Area.fill _ 2)
    Parses Sdk.reference signer.transaction.bytes (signer.transaction.parsed Sdk.reference) ∧
      signer.transaction.places[60]? = some .group ∧
      TxPlace.code .group = .signerAllowedGroupsParsingError ∧
      ∃ tx' size', transactionDeserialize Sdk.reference
        (Buffer.ofBytes (signer.transaction.bytes.take 60)) Transaction.zero (Area.fill 8 0) =
          some (.signerAllowedContractParsingError, tx', size') := by
  intro signer
  have few : signer.bytes.length ≤ 512 := by decide
  have missing : signer.transaction.places[60]? = some .group := by decide
  obtain ⟨size', run⟩ := @transactionDeserialize_eq Sdk.reference
    (signer.transaction.bytes.take 60) Transaction.zero (Area.fill 8 0)
  have status : layoutStatus Sdk.reference Transaction.zero.leftovers
      (signer.transaction.bytes.take 60) = .signerAllowedContractParsingError :=
    layoutStatus_take (SignerImage.transaction_short few) missing
  rw [status] at run
  exact ⟨SignerImage.transaction_parses few, missing, rfl, _, size', run⟩

end AppNeo3

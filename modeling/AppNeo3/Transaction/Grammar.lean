import AppNeo3.Transaction.Layout

/-!
# The grammar of a transaction

A transaction image holds the parts of a serialised transaction; its fields say
what makes the parts fit together, so every image is well formed. The layout
accepts the bytes of every image and nothing else. Its assignments are those of
the image, each pointer at the position where the image has its bytes.
-/

set_option autoImplicit false

namespace AppNeo3

open Memory CursorParsing Cursor ByteOrder

/-! ## Images -/

/-- A varint in one of its encodings. -/
structure VarintImage where
  bytes : List UInt8
  value : UInt64
  encodes : Varint.Encodes bytes value

/-- A counted list of at most `limit` entries of `width` bytes. -/
structure EntriesImage (limit width : Nat) where
  count : VarintImage
  entries : List (Area UInt8 width)
  length_eq : entries.length = count.value.toNat
  length_le : entries.length ≤ limit

def EntriesImage.bytes {limit width : Nat} (image : EntriesImage limit width) : List UInt8 :=
  image.count.bytes ++ image.entries.flatMap Area.cells

/-- A list that may be absent. -/
def optionalBytes {limit width : Nat} : Option (EntriesImage limit width) → List UInt8
  | none => []
  | some image => image.bytes

/-- A signer. Each list is present when the scope has its bit. -/
structure SignerImage where
  account : Area UInt8 uint160Len
  scope : UInt8
  scope_ok : scope &&& global = global → scope = global
  contracts : Option (EntriesImage maxSignerAllowedContracts uint160Len)
  contracts_iff : contracts.isSome = true ↔ scope &&& customContracts = customContracts
  groups : Option (EntriesImage maxSignerAllowedGroups ecpointLen)
  groups_iff : groups.isSome = true ↔ scope &&& customGroups = customGroups

def SignerImage.bytes (image : SignerImage) : List UInt8 :=
  image.account.cells ++ [image.scope] ++ optionalBytes image.contracts ++
    optionalBytes image.groups

/-- The fields of fixed size at the front; the fees are not negative. -/
structure HeaderImage where
  nonce : Area UInt8 4
  systemFee : Area UInt8 8
  systemFee_ok : leNat systemFee.cells < 2 ^ 63
  networkFee : Area UInt8 8
  networkFee_ok : leNat networkFee.cells < 2 ^ 63
  validUntilBlock : Area UInt8 4

def HeaderImage.bytes (image : HeaderImage) : List UInt8 :=
  [0x00] ++ image.nonce.cells ++ image.systemFee.cells ++ image.networkFee.cells ++
    image.validUntilBlock.cells

/-- The signers, of different accounts. -/
structure SignersImage where
  count : VarintImage
  signers : List SignerImage
  length_eq : signers.length = count.value.toNat
  min_le : minTxSigners ≤ signers.length
  le_max : signers.length ≤ maxTxSigners
  distinct : (signers.map fun signer => signer.account.cells).Nodup

def SignersImage.bytes (image : SignersImage) : List UInt8 :=
  image.count.bytes ++ image.signers.flatMap SignerImage.bytes

/-- No attribute, or the one that is supported. -/
structure AttributesImage where
  count : VarintImage
  le_one : count.value.toNat ≤ 1

def AttributesImage.bytes (image : AttributesImage) : List UInt8 :=
  image.count.bytes ++ List.replicate image.count.value.toNat highPriority

/-- The script, of 1 to 65535 bytes. -/
structure ScriptImage where
  count : VarintImage
  script : List UInt8
  length_eq : script.length = count.value.toNat
  nonempty : 1 ≤ script.length
  length_le : script.length ≤ 0xFFFF

def ScriptImage.bytes (image : ScriptImage) : List UInt8 := image.count.bytes ++ image.script

/-- A transaction. -/
structure TransactionImage where
  header : HeaderImage
  signers : SignersImage
  attributes : AttributesImage
  script : ScriptImage

def TransactionImage.bytes (image : TransactionImage) : List UInt8 :=
  image.header.bytes ++ image.signers.bytes ++ image.attributes.bytes ++ image.script.bytes

/-! ## Small transactions -/

/-- A number below `0xFD` in one byte. -/
def VarintImage.single (n : Nat) (small : n < 0xFD) : VarintImage where
  bytes := [UInt8.ofNat n]
  value := UInt64.ofNat n
  encodes := Varint.encodes_single small

theorem VarintImage.toNat_single {n : Nat} (small : n < 0xFD) :
    (VarintImage.single n small).value.toNat = n :=
  (UInt64.toNat_ofNat' ).trans (Nat.mod_eq_of_lt (by omega))

/-- A transaction without fees and attributes around a signer and a short script. -/
def TransactionImage.single (signer : SignerImage) (script : List UInt8)
    (nonempty : 1 ≤ script.length) (short : script.length < 0xFD) : TransactionImage where
  header := ⟨Area.fill 4 0, Area.fill 8 0, by decide, Area.fill 8 0, by decide, Area.fill 4 0⟩
  signers := ⟨VarintImage.single 1 (by decide), [signer], rfl, Nat.le_refl 1, by
    rw [List.length_singleton]
    decide, List.nodup_singleton _⟩
  attributes := ⟨VarintImage.single 0 (by decide), by decide⟩
  script := ⟨VarintImage.single script.length short, script,
    (VarintImage.toNat_single short).symm, nonempty, by omega⟩

/-- A signer without lists. -/
def SignerImage.plain (account : Area UInt8 uint160Len) : SignerImage where
  account := account
  scope := calledByEntry
  scope_ok := by decide
  contracts := none
  contracts_iff := by decide
  groups := none
  groups_iff := by decide

/-- A signer with a bit of the scope that has no word. -/
def SignerImage.withUnknownBit : SignerImage :=
  { SignerImage.plain (Area.fill _ 0) with
    scope := 0x03
    scope_ok := by decide
    contracts_iff := by decide
    groups_iff := by decide }

/-- A signer bound to one group. -/
def SignerImage.ofGroup (group : Area UInt8 ecpointLen) : SignerImage :=
  { SignerImage.plain (Area.fill _ 0) with
    scope := customGroups
    scope_ok := by decide
    contracts_iff := by decide
    groups := some ⟨.single 1 (Nat.le_of_ble_eq_true rfl), [group], rfl, Nat.le_succ 1⟩
    groups_iff := ⟨fun _ => rfl, fun _ => rfl⟩ }

/-- One attribute. -/
def AttributesImage.one : AttributesImage := ⟨.single 1 (by decide), by decide⟩

/-- The signers are of different accounts, and of none of the given ones. -/
def Distinct (accounts : List (List UInt8)) (signers : List SignerImage) : Prop :=
  (signers.map fun signer => signer.account.cells).Nodup ∧
    ∀ signer ∈ signers, signer.account.cells ∉ accounts

theorem distinct_cons {accounts : List (List UInt8)} {signer : SignerImage}
    {signers : List SignerImage} :
    Distinct accounts (signer :: signers) ↔ signer.account.cells ∉ accounts ∧
      Distinct (accounts ++ [signer.account.cells]) signers := by
  simp only [Distinct, List.map_cons, List.nodup_cons, List.mem_map, List.forall_mem_cons,
    List.mem_append, List.mem_singleton, not_or, not_exists, not_and]
  constructor
  · rintro ⟨⟨fresh, distinct⟩, first, others⟩
    exact ⟨first, distinct, fun signer member => ⟨others signer member, fresh signer member⟩⟩
  · rintro ⟨first, distinct, others⟩
    exact ⟨⟨fun signer member => (others signer member).2, distinct⟩, first,
      fun signer member => (others signer member).1⟩

/-! ## The assignments of an image -/

/-- The lists of a signer, by the list of the parser that they are for. -/
abbrev EntryList.Image (list : EntryList) : Type := EntriesImage list.maxEntries list.width

def EntryList.writes (list : EntryList) (signer : Nat) (image : list.Image) (pos : Nat) :
    List TxWrite :=
  .signer signer (list.sizeWrite image.count.value.toUInt8) ::
    repeatLog Area.cells (fun index _ here => [.signer signer (list.entryWrite index here)]) 0
      image.entries (pos + image.count.bytes.length)

def EntryList.optionalWrites (list : EntryList) (signer : Nat) :
    Option list.Image → Nat → List TxWrite
  | none, _ => []
  | some image, pos => list.writes signer image pos

def SignerImage.writes (index : Nat) (image : SignerImage) (pos : Nat) : List TxWrite :=
  [.signer index (.account pos), .signer index (.scope image.scope)] ++
    allowedContracts.optionalWrites index image.contracts (pos + uint160Len + 1) ++
    allowedGroups.optionalWrites index image.groups
      (pos + uint160Len + 1 + (optionalBytes image.contracts).length)

def HeaderImage.writes (image : HeaderImage) : List TxWrite :=
  [.version 0, .nonce (UInt32.ofNat (leNat image.nonce.cells)),
    .systemFee (UInt64.ofNat (leNat image.systemFee.cells)).toInt64,
    .networkFee (UInt64.ofNat (leNat image.networkFee.cells)).toInt64,
    .validUntilBlock (UInt32.ofNat (leNat image.validUntilBlock.cells))]

def SignersImage.writes (image : SignersImage) (pos : Nat) : List TxWrite :=
  .signersSize image.count.value.toUInt8 ::
    repeatLog SignerImage.bytes SignerImage.writes 0 image.signers
      (pos + image.count.bytes.length)

def AttributesImage.writes (image : AttributesImage) : List TxWrite :=
  .attributesSize image.count.value.toUInt8 ::
    if image.count.value.toNat = 0 then [] else [.attributeType 0 highPriority]

def ScriptImage.writes (image : ScriptImage) (pos : Nat) : List TxWrite :=
  [.script (pos + image.count.bytes.length), .scriptSize image.count.value.toUInt16]

namespace TransactionImage

/-- Where the signers begin. -/
def signersAt (image : TransactionImage) : Nat := image.header.bytes.length

/-- Where the script with its length begins. -/
def scriptAt (image : TransactionImage) : Nat :=
  image.signersAt + image.signers.bytes.length + image.attributes.bytes.length

/-- The assignments of the fields; those of the recognisers follow. -/
def fieldWrites (image : TransactionImage) : List TxWrite :=
  image.header.writes ++ image.signers.writes image.signersAt ++ image.attributes.writes ++
    image.script.writes image.scriptAt

end TransactionImage

/-! ## Images pass the checks of the layout -/

theorem EntriesImage.inLimits {limit width : Nat} (image : EntriesImage limit width) :
    decide (image.count.value.toNat > limit) = false := by
  rw [decide_eq_false_iff_not, ← image.length_eq]
  exact Nat.not_lt.mpr image.length_le

/-- A fee passes the check of its sign. -/
theorem fee_passes {cells : Area UInt8 8} (bound : leNat cells.cells < 2 ^ 63) :
    decide ((UInt64.ofNat (leNat cells.cells)).toInt64 < 0) = false := by
  rw [decide_eq_false_iff_not, toInt64_neg_iff cells.size_eq]
  exact Nat.not_le.mpr bound

theorem UInt64.toNat_toUInt8_of_lt {value : UInt64} (small : value.toNat < 256) :
    value.toUInt8.toNat = value.toNat :=
  (UInt64.toNat_toUInt8 value).trans (Nat.mod_eq_of_lt small)

theorem SignersImage.inLimits (image : SignersImage) :
    (decide (image.count.value.toNat < minTxSigners) ||
      decide (image.count.value.toNat > maxTxSigners)) = false := by
  have least := image.min_le
  have most := image.le_max
  rw [← image.length_eq, Bool.or_eq_false_iff, decide_eq_false_iff_not, decide_eq_false_iff_not]
  omega

theorem SignersImage.turns (image : SignersImage) :
    image.count.value.toUInt8.toNat = image.signers.length := by
  have small : image.count.value.toNat < 256 := by
    rw [← image.length_eq]
    exact image.le_max.trans_lt (by decide)
  rw [UInt64.toNat_toUInt8_of_lt small, image.length_eq]

theorem AttributesImage.inLimits (image : AttributesImage) :
    (decide (image.count.value.toNat > maxAttributes) || decide (image.count.value > 2)) =
      false := by
  have small := image.le_one
  rw [Bool.or_eq_false_iff, decide_eq_false_iff_not, decide_eq_false_iff_not]
  have two : ¬ image.count.value > 2 := by
    rw [gt_iff_lt, UInt64.lt_iff_toNat_lt]
    exact Nat.not_lt.mpr (small.trans (by decide))
  exact ⟨Nat.not_lt.mpr (small.trans (by decide)), two⟩

theorem ScriptImage.inLimits (image : ScriptImage) :
    (decide (image.count.value.toNat > 0xFFFF) || image.count.value == 0) = false := by
  rw [Bool.or_eq_false_iff, decide_eq_false_iff_not, ← image.length_eq, beq_eq_false_iff_ne]
  refine ⟨Nat.not_lt.mpr image.length_le, fun zero => ?_⟩
  have nonempty := image.nonempty
  have empty := image.length_eq
  rw [zero] at empty
  have none : UInt64.toNat 0 = 0 := rfl
  omega

/-! ## The layout accepts every image -/

theorem accepts_entries (list : EntryList) (signer : Nat) (image : list.Image) :
    Accepts (entriesLayout list signer) image.bytes () (list.writes signer image) := by
  have entry : ∀ index (entry : Area UInt8 list.width),
      Accepts (entryLayout list signer index) entry.cells ()
        (fun here => [.signer signer (list.entryWrite index here)]) := by
    intro index entry
    have stored : ∀ here, Accepts (write (.signer signer (list.entryWrite index here)) >>= fun _ =>
        take list.width list.entryParsingError >>= fun _ => pure () : TxParser Unit) entry.cells ()
        (fun _ => [.signer signer (list.entryWrite index here)]) := fun here =>
      Accepts.of_eq (Accepts.bind (accepts_write _) <|
        Accepts.bind (accepts_take entry.size_eq _) <| accepts_pure ())
        (by rw [List.append_nil]; rfl) (fun _ => rfl)
    have placed := accepts_position_bind stored
    exact placed
  have repeated := @accepts_repeatFrom UInt8 TxWrite ParserStatus Unit _ Area.cells
    (fun index _ => entryLayout list signer index) _ (fun _ _ _ => ()) (fun _ _ _ => True)
    (fun index _ item _ _ => ⟨entry index item, trivial⟩) image.entries 0 () trivial
  rw [image.length_eq] at repeated
  refine Accepts.of_eq (Accepts.bind (accepts_uvarint image.count.encodes _) <|
    Accepts.bind (accepts_failIf image.inLimits _) <| Accepts.bind (accepts_write _) repeated)
    ?_ ?_
  · rfl
  · intro pos
    rfl

theorem accepts_optionalEntries (list : EntryList) (signer : Nat) {scope : UInt8}
    {image : Option list.Image} (present : image.isSome = true ↔ scope &&& list.flag = list.flag) :
    Accepts (optionalEntriesLayout list signer scope) (optionalBytes image) ()
      (list.optionalWrites signer image) := by
  cases image with
  | none =>
      have absent : ¬ scope &&& list.flag = list.flag := fun set => nomatch present.mpr set
      rw [optionalEntriesLayout, if_neg absent]
      exact accepts_pure ()
  | some image =>
      rw [optionalEntriesLayout, if_pos (present.mp rfl)]
      exact accepts_entries list signer image

/-- The scopes that pass the check of the global flag. -/
theorem globalWithOtherFlags_eq_false {scope : UInt8} :
    globalWithOtherFlags scope = false ↔ (scope &&& global = global → scope = global) := by
  rw [globalWithOtherFlags, Bool.and_eq_false_iff, beq_eq_false_iff_ne, bne_eq_false_iff_eq]
  exact imp_iff_not_or.symm

theorem accepts_signer (index : Nat) {accounts : List (List UInt8)} {image : SignerImage}
    (other : image.account.cells ∉ accounts) :
    Accepts (signerLayout index accounts) image.bytes (accounts ++ [image.account.cells])
      (image.writes index) := by
  have different : accounts.contains image.account.cells = false := by
    rw [List.contains_eq_mem, decide_eq_false other]
  have stored : ∀ here, Accepts (write (.signer index (.account here)) >>= fun _ =>
      take uint160Len .signerAccountParsingError >>= fun account =>
      failIf (accounts.contains account) .signerAccountDuplicateError >>= fun _ => pure account :
      TxParser (List UInt8)) image.account.cells image.account.cells
      (fun _ => [.signer index (.account here)]) := fun here =>
    Accepts.of_eq (Accepts.bind (accepts_write _) <|
      Accepts.bind (accepts_take image.account.size_eq _) <|
      Accepts.bind (accepts_failIf different _) <| accepts_pure _)
      (by rw [List.append_nil, List.append_nil]; rfl) (fun _ => rfl)
  have account : Accepts (accountLayout index accounts) image.account.cells image.account.cells
      (fun here => [.signer index (.account here)]) := by
    have placed := accepts_position_bind stored
    exact placed
  have size : [image.scope].length = 1 := rfl
  have scope : Accepts (scopeLayout index) [image.scope] image.scope
      (fun _ => [.signer index (.scope image.scope)]) :=
    Accepts.of_eq (Accepts.bind (accepts_takeAs size _ _) <| Accepts.bind (accepts_write _) <|
      Accepts.bind (accepts_failIf (globalWithOtherFlags_eq_false.mpr image.scope_ok) _) <|
      accepts_pure _) rfl (fun _ => rfl)
  refine Accepts.of_eq (Accepts.bind account <| Accepts.bind (Accepts.bind scope <|
    Accepts.bind (accepts_optionalEntries allowedContracts index image.contracts_iff) <|
    accepts_optionalEntries allowedGroups index image.groups_iff) <| accepts_pure _) ?_ ?_
  · simp only [SignerImage.bytes, List.append_assoc, List.append_nil]
    rfl
  · intro pos
    simp only [SignerImage.writes, image.account.size_eq, List.append_nil, List.cons_append,
      List.nil_append, List.length_singleton]
    rfl

theorem accepts_header (image : HeaderImage) :
    Accepts headerLayout image.bytes () (fun _ => image.writes) := by
  have size : [(0x00 : UInt8)].length = 1 := rfl
  refine Accepts.of_eq (Accepts.bind (accepts_takeInto size _ _ _ _) <|
    Accepts.bind (accepts_failIf (by decide) _) <|
    Accepts.bind (accepts_takeInto image.nonce.size_eq _ _ _ _) <|
    Accepts.bind (accepts_takeInto image.systemFee.size_eq _ _ _ _) <|
    Accepts.bind (accepts_failIf (fee_passes image.systemFee_ok) _) <|
    Accepts.bind (accepts_takeInto image.networkFee.size_eq _ _ _ _) <|
    Accepts.bind (accepts_failIf (fee_passes image.networkFee_ok) _) <|
    Accepts.bind (accepts_takeInto image.validUntilBlock.size_eq _ _ _ _) <| accepts_pure ()) ?_ ?_
  · simp only [HeaderImage.bytes, List.append_assoc, List.append_nil, List.nil_append]
  · intro pos
    rfl

theorem accepts_signers (image : SignersImage) :
    Accepts signersLayout image.bytes () image.writes := by
  have repeated := @accepts_repeatFrom UInt8 TxWrite ParserStatus _ _ SignerImage.bytes
    signerLayout SignerImage.writes (fun _ accounts signer => accounts ++ [signer.account.cells])
    (fun _ accounts signers => Distinct accounts signers)
    (fun index accounts signer signers different =>
      have split := distinct_cons.mp different
      ⟨accepts_signer index split.1, split.2⟩)
    image.signers 0 [] ⟨image.distinct, fun _ _ => List.not_mem_nil⟩
  rw [← image.turns] at repeated
  exact Accepts.of_eq (Accepts.bind (accepts_uvarint image.count.encodes _) <|
    Accepts.bind (accepts_failIf image.inLimits _) <| Accepts.bind (accepts_write _) repeated) rfl
    (fun _ => rfl)

theorem accepts_attributes (image : AttributesImage) :
    Accepts (attributesLayout Leftovers.none.slots) image.bytes () (fun _ => image.writes) := by
  have small := image.le_one
  have turns : Accepts (repeatFrom (attributeLayout image.count.value.toUInt8.toNat)
      image.count.value.toUInt8.toNat 0 Leftovers.none.slots)
      (List.replicate image.count.value.toNat highPriority) ()
      (fun _ => if image.count.value.toNat = 0 then [] else [.attributeType 0 highPriority]) := by
    rw [UInt64.toNat_toUInt8_of_lt (by omega)]
    rcases Nat.le_one_iff_eq_zero_or_eq_one.mp small with zero | one
    · rw [zero]
      exact accepts_pure ()
    · rw [one]
      have size : [highPriority].length = 1 := rfl
      have free : holdsAttribute Leftovers.none.slots 1 highPriority = false := by decide
      exact Accepts.of_eq (Accepts.bind (Accepts.bind (accepts_takeAs size _ _) <|
        Accepts.bind (accepts_failIf (by decide) _) <| Accepts.bind (accepts_failIf free _) <|
        Accepts.bind (accepts_write _) <| accepts_pure _) <| accepts_pure ()) rfl (fun _ => rfl)
  exact Accepts.of_eq (Accepts.bind (accepts_uvarint image.count.encodes _) <|
    Accepts.bind (accepts_failIf image.inLimits _) <| Accepts.bind (accepts_write _) turns) rfl
    (fun _ => rfl)

theorem accepts_scriptBytes (image : ScriptImage) :
    Accepts scriptBytesLayout image.bytes image.script image.writes := by
  have stored : ∀ here, Accepts (write (.script here) >>= fun _ =>
      failIf (decide (image.count.value.toNat > 0xFFFF) || image.count.value == 0)
        .scriptLengthValueError >>= fun _ =>
      take image.count.value.toNat .scriptLengthValueError >>= fun script =>
      write (.scriptSize image.count.value.toUInt16) >>= fun _ => pure script :
      TxParser (List UInt8)) image.script image.script
      (fun _ => [.script here, .scriptSize image.count.value.toUInt16]) := fun here =>
    Accepts.of_eq (Accepts.bind (accepts_write _) <|
      Accepts.bind (accepts_failIf image.inLimits _) <|
      Accepts.bind (accepts_take image.length_eq _) <| Accepts.bind (accepts_write _) <|
      accepts_pure _) (by simp only [List.nil_append, List.append_nil]) (fun _ => rfl)
  have placed := accepts_position_bind stored
  exact Accepts.of_eq (Accepts.bind (accepts_uvarint image.count.encodes _) placed) rfl
    (fun _ => rfl)

/-- The parts of an image, with its script. -/
theorem accepts_fields (image : TransactionImage) (rest : List UInt8) :
    fieldsLayout Leftovers.none.slots 0 (image.bytes ++ rest) =
      ⟨image.fieldWrites, .ok (image.script.script, image.bytes.length, rest)⟩ := by
  have whole : Accepts (fieldsLayout Leftovers.none.slots) (image.header.bytes ++
      (image.signers.bytes ++ (image.attributes.bytes ++ image.script.bytes)))
      image.script.script _ :=
    Accepts.bind (accepts_header image.header) <|
    Accepts.bind (accepts_signers image.signers) <|
    Accepts.bind (accepts_attributes image.attributes) <| accepts_scriptBytes image.script
  have read := whole 0 rest
  simp only [← List.append_assoc, Nat.zero_add] at read
  exact read

/-- **The layout accepts every transaction of the grammar.** -/
theorem accepts_transaction (sdk : Sdk) (image : TransactionImage) (rest : List UInt8) :
    transactionLayout sdk Leftovers.none 0 (image.bytes ++ rest) =
      ⟨image.fieldWrites ++ scriptWrites sdk false image.script.script,
        .ok ((), image.bytes.length, rest)⟩ := by
  rw [transactionLayout_eq, bind_of_ok (accepts_fields image rest)]
  rfl

/-! ## The layout accepts nothing else -/

theorem sound_header :
    Sound headerLayout (fun phrase _ => ∃ image : HeaderImage, phrase = image.bytes) := by
  refine Sound.mono (Sound.bind (sound_takeInto 1 _ _ _ _) fun version =>
    Sound.bind (sound_failIf _ _) fun _ => Sound.bind (sound_takeInto 4 _ _ _ _) fun _ =>
    Sound.bind (sound_takeInto 8 _ _ _ _) fun systemFee => Sound.bind (sound_failIf _ _) fun _ =>
    Sound.bind (sound_takeInto 8 _ _ _ _) fun networkFee => Sound.bind (sound_failIf _ _) fun _ =>
    Sound.bind (sound_takeInto 4 _ _ _ _) fun _ => sound_pure ()) ?_
  rintro _ _ ⟨version, _, _, rfl, ⟨versionSize, rfl⟩, _, _, _, rfl, ⟨rfl, isZero⟩,
    nonce, _, _, rfl, ⟨nonceSize, rfl⟩, systemFee, _, _, rfl, ⟨systemFeeSize, rfl⟩,
    _, _, _, rfl, ⟨rfl, systemFeeOk⟩, networkFee, _, _, rfl, ⟨networkFeeSize, rfl⟩,
    _, _, _, rfl, ⟨rfl, networkFeeOk⟩, validUntil, _, _, rfl, ⟨validUntilSize, rfl⟩, rfl, _⟩
  obtain ⟨version, rfl⟩ := List.length_eq_one_iff.mp versionSize
  have zero : version = 0 := by
    rw [decide_eq_false_iff_not, List.headD_cons, gt_iff_lt, UInt8.lt_iff_toNat_lt] at isZero
    exact UInt8.toNat_inj.mp (Nat.eq_zero_of_not_pos isZero)
  have fee : ∀ {cells : List UInt8}, cells.length = 8 →
      decide ((UInt64.ofNat (leNat cells)).toInt64 < 0) = false → leNat cells < 2 ^ 63 := by
    intro cells size passed
    rw [decide_eq_false_iff_not, toInt64_neg_iff size] at passed
    exact Nat.not_le.mp passed
  refine ⟨⟨⟨nonce, nonceSize⟩, ⟨systemFee, systemFeeSize⟩, fee systemFeeSize systemFeeOk,
    ⟨networkFee, networkFeeSize⟩, fee networkFeeSize networkFeeOk,
    ⟨validUntil, validUntilSize⟩⟩, ?_⟩
  simp only [HeaderImage.bytes, zero, List.nil_append, List.append_nil, List.append_assoc]

theorem sound_entries (list : EntryList) (signer : Nat) :
    Sound (entriesLayout list signer)
      (fun phrase _ => ∃ image : list.Image, phrase = image.bytes) := by
  have entry : ∀ index (gathered : Unit), Sound (entryLayout list signer index)
      (fun front _ => ∃ item : Area UInt8 list.width, front = item.cells ∧ () = () ∧ True) := by
    intro index gathered
    refine Sound.mono (Sound.bind sound_position fun here => Sound.bind (sound_write _) fun _ =>
      Sound.bind (sound_take list.width _) fun _ => sound_pure ()) ?_
    rintro _ _ ⟨_, _, _, rfl, rfl, _, _, _, rfl, rfl, entry, _, _, rfl, ⟨size, _⟩, rfl, _⟩
    exact ⟨⟨entry, size⟩, by simp only [List.nil_append, List.append_nil], rfl, trivial⟩
  have repeated := @sound_repeatFrom UInt8 TxWrite ParserStatus Unit _ Area.cells
    (fun index _ => entryLayout list signer index) (fun _ _ _ => ()) (fun _ _ _ => True)
    (fun _ _ _ => True) entry (fun _ _ => trivial) (fun _ _ _ _ _ _ => trivial)
  refine Sound.mono (Sound.bind (sound_uvarint _) fun count =>
    Sound.bind (sound_failIf _ _) fun _ => Sound.bind (sound_write _) fun _ =>
    repeated count.toNat 0 ()) ?_
  rintro _ _ ⟨bytes, _, count, rfl, encodes, _, _, _, rfl, ⟨rfl, inLimits⟩, _, _, _, rfl, rfl,
    entries, size, rfl, _⟩
  have bound : count.toNat ≤ list.maxEntries := by simpa using inLimits
  exact ⟨⟨⟨bytes, count, encodes⟩, entries, size, size.trans_le bound⟩, rfl⟩

theorem sound_optionalEntries (list : EntryList) (signer : Nat) (scope : UInt8) :
    Sound (optionalEntriesLayout list signer scope) (fun phrase _ =>
      ∃ image : Option list.Image, (image.isSome = true ↔ scope &&& list.flag = list.flag) ∧
        phrase = optionalBytes image) := by
  rw [optionalEntriesLayout]
  split
  · rename_i set
    refine Sound.mono (sound_entries list signer) ?_
    rintro _ _ ⟨image, rfl⟩
    exact ⟨some image, iff_of_true rfl set, rfl⟩
  · rename_i unset
    refine Sound.mono (sound_pure ()) ?_
    rintro _ _ ⟨rfl, _⟩
    exact ⟨none, iff_of_false Bool.false_ne_true unset, rfl⟩

theorem sound_signer (index : Nat) (accounts : List (List UInt8)) :
    Sound (signerLayout index accounts) (fun phrase accounts' => ∃ image : SignerImage,
      phrase = image.bytes ∧ accounts' = accounts ++ [image.account.cells] ∧
        image.account.cells ∉ accounts) := by
  refine Sound.mono (Sound.bind (Sound.bind sound_position fun here =>
      Sound.bind (sound_write _) fun _ => Sound.bind (sound_take uint160Len _) fun account =>
      Sound.bind (sound_failIf _ _) fun _ => sound_pure account) fun account =>
    Sound.bind (Sound.bind (Sound.bind (sound_takeAs 1 _ _) fun scope =>
      Sound.bind (sound_write _) fun _ => Sound.bind (sound_failIf _ _) fun _ =>
      sound_pure scope) fun scope =>
    Sound.bind (sound_optionalEntries allowedContracts index scope) fun _ =>
      sound_optionalEntries allowedGroups index scope) fun _ => sound_pure _) ?_
  rintro _ _ ⟨_, _, account, rfl, ⟨_, _, _, rfl, rfl, _, _, _, rfl, rfl, _, _, _, rfl,
    ⟨accountSize, rfl⟩, _, _, _, rfl, ⟨rfl, fresh⟩, rfl, rfl⟩, _, _, _, rfl,
    ⟨_, _, scope, rfl, ⟨scopeByte, _, _, rfl, ⟨scopeSize, rfl⟩, _, _, _, rfl, rfl, _, _, _, rfl,
    ⟨rfl, scopeOk⟩, rfl, rfl⟩, _, _, _, rfl, ⟨contracts, contractsIff, rfl⟩, groups, groupsIff,
    rfl⟩, rfl, rfl⟩
  obtain ⟨scope, rfl⟩ := List.length_eq_one_iff.mp scopeSize
  refine ⟨⟨⟨account, accountSize⟩, scope, globalWithOtherFlags_eq_false.mp scopeOk, contracts,
    contractsIff, groups, groupsIff⟩, ?_, rfl, ?_⟩
  · simp only [SignerImage.bytes, List.nil_append, List.append_nil, List.append_assoc]
    rfl
  · simpa using fresh

theorem sound_signers :
    Sound signersLayout (fun phrase _ => ∃ image : SignersImage, phrase = image.bytes) := by
  have repeated := @sound_repeatFrom UInt8 TxWrite ParserStatus _ _ SignerImage.bytes
    signerLayout (fun _ accounts signer => accounts ++ [signer.account.cells])
    (fun _ accounts signer => signer.account.cells ∉ accounts)
    (fun _ accounts signers => Distinct accounts signers) sound_signer
    (fun _ _ => ⟨List.nodup_nil, nofun⟩)
    (fun _ _ _ _ first others => distinct_cons.mpr ⟨first, others⟩)
  refine Sound.mono (Sound.bind (sound_uvarint _) fun count =>
    Sound.bind (sound_failIf _ _) fun _ => Sound.bind (sound_write _) fun _ =>
    repeated count.toUInt8.toNat 0 []) ?_
  rintro _ _ ⟨bytes, _, count, rfl, encodes, _, _, _, rfl, ⟨rfl, inLimits⟩, _, _, _, rfl, rfl,
    signers, size, rfl, distinct, _⟩
  rw [Bool.or_eq_false_iff, decide_eq_false_iff_not, decide_eq_false_iff_not] at inLimits
  have most : count.toNat ≤ maxTxSigners := Nat.le_of_not_lt inLimits.2
  have length : signers.length = count.toNat :=
    size.trans (UInt64.toNat_toUInt8_of_lt (most.trans_lt (by decide)))
  exact ⟨⟨⟨bytes, count, encodes⟩, signers, length,
    (Nat.le_of_not_lt inLimits.1).trans_eq length.symm, length.trans_le most, distinct⟩, rfl⟩

theorem sound_attribute (attributesSize index : Nat) (slots : AttributeSlots) :
    Sound (attributeLayout attributesSize index slots) (fun phrase slots' =>
      phrase = [highPriority] ∧ slots' = (modifyAt slots index fun _ => ⟨highPriority⟩) ∧
        holdsAttribute slots attributesSize highPriority = false) := by
  refine Sound.mono (Sound.bind (sound_takeAs 1 _ _) fun type =>
    Sound.bind (sound_failIf _ _) fun _ => Sound.bind (sound_failIf _ _) fun _ =>
    Sound.bind (sound_write _) fun _ => sound_pure _) ?_
  rintro _ _ ⟨phrase, _, _, rfl, ⟨size, rfl⟩, _, _, _, rfl, ⟨rfl, supported⟩, _, _, _, rfl,
    ⟨rfl, fresh⟩, _, _, _, rfl, rfl, rfl, rfl⟩
  obtain ⟨type, rfl⟩ := List.length_eq_one_iff.mp size
  have known : type = highPriority := by simpa using supported
  subst known
  exact ⟨rfl, rfl, fresh⟩

/-- A second attribute is always a duplicate of the first. -/
theorem sound_attributeTurns : ∀ count ≤ maxAttributes,
    Sound (repeatFrom (attributeLayout count) count 0 Leftovers.none.slots)
      (fun phrase _ => count ≤ 1 ∧ phrase = List.replicate count highPriority)
  | 0, _ => by
      refine Sound.mono (sound_pure ()) ?_
      rintro _ _ ⟨rfl, _⟩
      exact ⟨Nat.zero_le 1, rfl⟩
  | 1, _ => by
      refine Sound.mono (Sound.bind (sound_attribute 1 0 _) fun _ => sound_pure ()) ?_
      rintro _ _ ⟨_, _, _, rfl, ⟨rfl, _⟩, rfl, _⟩
      exact ⟨Nat.le_refl 1, rfl⟩
  | 2, _ => by
      refine Sound.mono (Sound.bind (sound_attribute 2 0 _) fun slots =>
        Sound.bind (sound_attribute 2 1 slots) fun _ => sound_pure ()) ?_
      rintro _ _ ⟨_, _, slots, rfl, ⟨rfl, rfl, _⟩, _, _, _, rfl, ⟨_, _, fresh⟩, _⟩
      exact absurd fresh (by decide)

theorem sound_attributes : Sound (attributesLayout Leftovers.none.slots)
    (fun phrase _ => ∃ image : AttributesImage, phrase = image.bytes) := by
  have turns : ∀ count : UInt64, Sound (failIf (decide (count.toNat > maxAttributes) ||
      decide (count > 2)) .attributesLengthValueError >>= fun _ =>
      write (.attributesSize count.toUInt8) >>= fun _ =>
      repeatFrom (attributeLayout count.toUInt8.toNat) count.toUInt8.toNat 0
        Leftovers.none.slots : TxParser Unit)
      (fun phrase _ => count.toNat ≤ 1 ∧ phrase = List.replicate count.toNat highPriority) := by
    refine fun count => sound_failIf_bind fun inLimits => ?_
    rw [Bool.or_eq_false_iff, decide_eq_false_iff_not] at inLimits
    have most : count.toNat ≤ maxAttributes := Nat.le_of_not_lt inLimits.1
    rw [UInt64.toNat_toUInt8_of_lt (most.trans_lt (by decide))]
    refine Sound.mono (Sound.bind (sound_write _) fun _ => sound_attributeTurns _ most) ?_
    rintro _ _ ⟨_, _, _, rfl, rfl, small, rfl⟩
    exact ⟨small, rfl⟩
  refine Sound.mono (Sound.bind (sound_uvarint _) turns) ?_
  rintro _ _ ⟨bytes, _, count, rfl, encodes, small, rfl⟩
  exact ⟨⟨⟨bytes, count, encodes⟩, small⟩, rfl⟩

theorem sound_script (sdk : Sdk) (transferFlag : Bool) :
    Sound (scriptLayout sdk transferFlag)
      (fun phrase _ => ∃ image : ScriptImage, phrase = image.bytes) := by
  refine Sound.mono (Sound.bind (sound_uvarint _) fun count => Sound.bind sound_position fun _ =>
    Sound.bind (sound_write _) fun _ => Sound.bind (sound_failIf _ _) fun _ =>
    Sound.bind (sound_take _ _) fun script => Sound.bind (sound_write _) fun _ =>
    sound_writeAll _) ?_
  rintro _ _ ⟨bytes, _, count, rfl, encodes, _, _, _, rfl, rfl, _, _, _, rfl, rfl, _, _, _, rfl,
    ⟨rfl, inLimits⟩, _, _, script, rfl, ⟨size, rfl⟩, _, _, _, rfl, rfl, rfl⟩
  rw [Bool.or_eq_false_iff, decide_eq_false_iff_not, beq_eq_false_iff_ne] at inLimits
  have nonempty : count.toNat ≠ 0 := fun zero => inLimits.2 (UInt64.toNat_inj.mp zero)
  refine ⟨⟨⟨bytes, count, encodes⟩, script, size, by omega, by omega⟩, ?_⟩
  simp only [ScriptImage.bytes, List.nil_append, List.append_nil]

/-- **What the layout consumes is a transaction of the grammar.** -/
theorem sound_transaction (sdk : Sdk) :
    Sound (transactionLayout sdk Leftovers.none)
      (fun phrase _ => ∃ image : TransactionImage, phrase = image.bytes) := by
  refine Sound.mono (Sound.bind sound_header fun _ => Sound.bind sound_signers fun _ =>
    Sound.bind sound_attributes fun _ => sound_script sdk _) ?_
  rintro _ _ ⟨_, _, _, rfl, ⟨header, rfl⟩, _, _, _, rfl, ⟨signers, rfl⟩, _, _, _, rfl,
    ⟨attributes, rfl⟩, script, rfl⟩
  refine ⟨⟨header, signers, attributes, script⟩, ?_⟩
  simp only [TransactionImage.bytes, List.append_assoc]

end AppNeo3

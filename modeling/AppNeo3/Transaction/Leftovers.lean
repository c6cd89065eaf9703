import AppNeo3.Foundation.Lagging
import AppNeo3.Transaction.ScriptKinds

/-!
# What an earlier parse leaves

The transaction is not cleared between two parses of a session. A parse over
leftovers lags behind the parse over an all-zero transaction: a stale attribute
slot may stop it at the duplicate check, and a stale transfer flag keeps the vote
recogniser from being tried. It assigns nothing else (`layoutWrites_subset`).

In a session every field that is not zero is one that a parse of the bytes received
assigns again (`Transaction.Covered`). So a parse that succeeds leaves the same
transaction as a parse from zero (`Covered.parse_eq`), and a status can differ only
through the attribute slots.
-/

set_option autoImplicit false

namespace AppNeo3

open Memory CursorParsing Cursor CBody Stores

variable {sdk : Sdk}

/-! ## Stale attribute slots -/

/-- The first slots hold the supported type wherever the second ones do. -/
def SlotsLag (slots slots' : AttributeSlots) : Prop :=
  ∀ index : Nat, (slots'[index]?.getD ⟨0⟩).type = highPriority →
    (slots[index]?.getD ⟨0⟩).type = highPriority

namespace SlotsLag

variable {slots slots' : AttributeSlots}

theorem none (slots : AttributeSlots) : SlotsLag slots Leftovers.none.slots := by
  intro index holds
  have zero := TxValue.number.inj (TransactionImage.field_zero_attributeType index)
  rw [show (Leftovers.none.slots[index]?.getD ⟨0⟩).type = (0 : UInt8) from
    UInt8.toNat_inj.mp (Int.ofNat.inj zero)] at holds
  exact absurd holds (by decide)

theorem fill (lag : SlotsLag slots slots') (index : Nat) :
    SlotsLag (modifyAt slots index fun _ => ⟨highPriority⟩)
      (modifyAt slots' index fun _ => ⟨highPriority⟩) := by
  intro k holds
  by_cases same : index = k
  · subst same
    by_cases inside : index < maxAttributes
    · rw [getElem?_modifyAt_self _ _ inside]
    · rw [Vector.getElem?_eq_none (Nat.le_of_not_lt inside)] at holds
      exact absurd holds (by decide)
  · rw [getElem?_modifyAt_of_ne _ _ same] at holds ⊢
    exact lag k holds

theorem holds (lag : SlotsLag slots slots') {attributesSize : Nat}
    (held : holdsAttribute slots' attributesSize highPriority = true) :
    holdsAttribute slots attributesSize highPriority = true := by
  obtain ⟨index, inside, same⟩ := List.any_eq_true.mp held
  exact List.any_eq_true.mpr ⟨index, inside, beq_iff_eq.mpr (lag index (beq_iff_eq.mp same))⟩

end SlotsLag

theorem lags_attribute (attributesSize index : Nat) {slots slots' : AttributeSlots}
    (lag : SlotsLag slots slots') :
    Lags SlotsLag (attributeLayout attributesSize index slots)
      (attributeLayout attributesSize index slots') := by
  refine (lags_refl (fun _ => rfl) _).bind fun type _ same => ?_
  subst same
  by_cases supported : type = highPriority
  · subst supported
    exact (lags_refl (fun _ => rfl) _).bind fun _ _ _ => (lags_failIf _ lag.holds).bind fun _ _ _ =>
      (lags_refl (fun _ => rfl) _).bind fun _ _ _ => lags_pure (lag.fill index)
  · have unsupported : (type != highPriority) = true := bne_iff_ne.mpr supported
    rw [unsupported]
    exact lags_fail _ _

theorem lags_attributes (slots : AttributeSlots) :
    Lags Eq (attributesLayout slots) (attributesLayout Leftovers.none.slots) := by
  refine (lags_refl (fun _ => rfl) _).bind fun count _ same => ?_
  subst same
  exact (lags_refl (fun _ => rfl) _).bind fun _ _ _ =>
    (lags_refl (fun _ => rfl) _).bind fun _ _ _ =>
    lags_repeatFrom (fun index _ _ lag => lags_attribute _ index lag) _ _ (.none slots)

/-- **Stale slots only make a parse stop earlier.** -/
theorem lags_fields (slots : AttributeSlots) :
    Lags Eq (fieldsLayout slots) (fieldsLayout Leftovers.none.slots) :=
  (lags_refl (fun _ => rfl) _).bind fun _ _ _ => (lags_refl (fun _ => rfl) _).bind fun _ _ _ =>
  (lags_attributes slots).bind fun _ _ _ => lags_refl (fun _ => rfl) _

/-! ## A parse over leftovers -/

/-- A stale transfer flag only takes the vote away. -/
theorem scriptWrites_subset {transferFlag : Bool} {script : List UInt8} {write : TxWrite}
    (member : write ∈ scriptWrites sdk transferFlag script) :
    write ∈ scriptWrites sdk false script := by
  cases transferFlag with
  | false => exact member
  | true =>
      rw [scriptWrites, Bool.true_or, if_pos rfl, List.append_nil] at member
      exact List.mem_append_left _ member

/-- **A parse over leftovers assigns nothing else.** -/
theorem layoutWrites_subset (left : Leftovers) (b : List UInt8) :
    ∀ write ∈ layoutWrites sdk left b, write ∈ layoutWrites sdk Leftovers.none b := by
  rw [layoutWrites, layoutWrites]
  split
  · exact fun _ member => member
  · intro write member
    rw [transactionLayout_eq] at member ⊢
    cases run : fieldsLayout left.slots 0 b with
    | mk writes outcome =>
        cases outcome with
        | error status =>
            rw [bind_of_error run] at member
            exact mem_bind_of_first ((lags_fields left.slots).writes_subset 0 b write
              (by rw [run]; exact member))
        | ok result =>
            obtain ⟨script, pos, rest⟩ := result
            obtain ⟨_, same, rfl⟩ := (lags_fields left.slots).of_ok run
            rw [bind_of_ok run] at member
            rw [bind_of_ok same]
            rcases List.mem_append.mp member with early | late
            · exact List.mem_append_left _ early
            · exact List.mem_append_right _ (scriptWrites_subset late)

/-- Without stale slots the status is the one of a parse from zero. -/
theorem layoutStatus_of_slots {left : Leftovers} (slots : left.slots = Leftovers.none.slots)
    (b : List UInt8) : layoutStatus sdk left b = layoutStatus sdk Leftovers.none b := by
  rw [layoutStatus, layoutStatus, transactionLayout_eq, transactionLayout_eq, slots]
  cases run : fieldsLayout Leftovers.none.slots 0 b with
  | mk writes outcome =>
      cases outcome with
      | error status => rw [bind_of_error run, bind_of_error run]
      | ok result =>
          obtain ⟨script, pos, rest⟩ := result
          rw [bind_of_ok run, bind_of_ok run]
          rfl

/-- **A parse over leftovers that succeeds** has read an image, and assigns the
fields of the image. -/
theorem layoutWrites_of_ok {left : Leftovers} {b : List UInt8}
    (ok : layoutStatus sdk left b = .parsingOk) :
    ∃ image : TransactionImage, b = image.bytes ∧ b.length ≤ maxTransactionLen ∧
      layoutWrites sdk left b =
        image.fieldWrites ++ scriptWrites sdk left.transferFlag image.script.script := by
  obtain ⟨short, writes, pos, run⟩ := layoutStatus_ok ok
  have whole := run
  rw [transactionLayout_eq] at run
  obtain ⟨fieldWrites, script, middle, rest, _, fields, recognised, rfl⟩ := ok_of_bind run
  cases recognised
  obtain ⟨_, same, rfl⟩ := (lags_fields left.slots).of_ok fields
  have fresh : transactionLayout sdk Leftovers.none 0 b = _ :=
    (congrFun (congrFun (transactionLayout_eq sdk Leftovers.none) 0) b).trans (bind_of_ok same)
  obtain ⟨phrase, split, _, image, rfl⟩ := sound_transaction sdk _ _ _ _ _ _ fresh
  have read := accepts_fields image []
  rw [← split, same] at read
  simp only [Reading.mk.injEq, Except.ok.injEq, Prod.mk.injEq] at read
  obtain ⟨rfl, rfl, _⟩ := read
  refine ⟨image, split.trans (List.append_nil _), short, ?_⟩
  rw [layoutWrites, if_neg (Nat.not_lt.mpr short), whole]

/-! ## Leftovers of the same bytes -/

/-- Every field that is not zero is one that a parse of the bytes, from zero,
assigns. -/
def Transaction.Covered (sdk : Sdk) (tx : Transaction) (b : List UInt8) : Prop :=
  ∀ field, tx.field field ≠ Transaction.zero.field field →
    ∃ write ∈ layoutWrites sdk Leftovers.none b, write.target = field

namespace Transaction.Covered

variable {tx : Transaction} {b : List UInt8}

theorem zero (b : List UInt8) : Transaction.zero.Covered sdk b :=
  fun _ other => absurd rfl other

/-- More bytes are parsed over the same leftovers. -/
theorem append (covered : tx.Covered sdk b) {more : List UInt8}
    (short : (b ++ more).length ≤ maxTransactionLen) : tx.Covered sdk (b ++ more) := by
  intro field other
  obtain ⟨write, member, target⟩ := covered field other
  have front : b.length ≤ maxTransactionLen := by
    rw [List.length_append] at short
    omega
  rw [layoutWrites, if_neg (Nat.not_lt.mpr front)] at member
  rw [layoutWrites, if_neg (Nat.not_lt.mpr short)]
  have again := (streams_transaction sdk Leftovers.none).targets 0 b more write member
  obtain ⟨later, asked, same⟩ := List.mem_map.mp again
  exact ⟨later, asked, same.trans target⟩

/-- What the parse itself leaves is covered. -/
theorem parse (covered : tx.Covered sdk b) : (tx.parse sdk b).Covered sdk b := by
  intro field other
  by_cases touched : ∃ write ∈ layoutWrites sdk tx.leftovers b, write.target = field
  · obtain ⟨write, member, target⟩ := touched
    exact ⟨write, layoutWrites_subset _ _ write member, target⟩
  · refine covered field fun zero => other ?_
    have untouched : ∀ write ∈ layoutWrites sdk tx.leftovers b, write.target ≠ field :=
      fun write member target => touched ⟨write, member, target⟩
    exact (txFields.read_replay_of_not_mem untouched tx).trans zero

end Transaction.Covered

/-- The transfer flag is only assigned for a transfer. -/
theorem recognisesTransfer_of_target {script : List UInt8} {write : TxWrite}
    (member : write ∈ scriptWrites sdk false script)
    (target : write.target = .isSystemAssetTransfer) : recognisesTransfer sdk script = true := by
  rcases List.mem_append.mp member with transfer | vote
  · rw [transferScript_writes] at transfer
    rcases List.mem_append.mp transfer with body | flag
    · exact absurd target ((writesWithin_transferBody sdk 0 script write body).ne (by decide))
    · split at flag
      · assumption
      · cases flag
  · split at vote
    · cases vote
    · exact absurd target ((writesWithin_voteScript 0 script write vote).ne (by decide))

/-- **A parse that succeeds over covered leftovers leaves what a parse from zero
leaves.** -/
theorem Transaction.Covered.parse_eq {tx : Transaction} {b : List UInt8}
    (covered : tx.Covered sdk b) (ok : tx.parseStatus sdk b = .parsingOk) :
    Transaction.zero.parseStatus sdk b = .parsingOk ∧
      tx.parse sdk b = Transaction.zero.parse sdk b := by
  obtain ⟨image, rfl, short, writes⟩ := layoutWrites_of_ok ok
  have fresh : layoutWrites sdk Transaction.zero.leftovers image.bytes =
      image.fieldWrites ++ scriptWrites sdk false image.script.script := layoutWrites_image short
  -- A stale transfer flag is a flag that this script sets again.
  have same : scriptWrites sdk tx.leftovers.transferFlag image.script.script =
      scriptWrites sdk false image.script.script := by
    cases flag : tx.leftovers.transferFlag with
    | false => rfl
    | true =>
        have stale : tx.field .isSystemAssetTransfer ≠
            Transaction.zero.field .isSystemAssetTransfer := fun zero =>
          Bool.noConfusion (flag.symm.trans (TxValue.flag.inj zero))
        obtain ⟨write, member, target⟩ := covered _ stale
        rw [show Leftovers.none = Transaction.zero.leftovers from rfl, fresh] at member
        rcases List.mem_append.mp member with field | recogniser
        · have other := (TransactionImage.fieldWrites_carry field).2.2
          rw [target] at other
          exact absurd (by decide) other
        · have recognised := recognisesTransfer_of_target recogniser target
          rw [scriptWrites, scriptWrites, recognised, Bool.true_or, Bool.or_true]
  refine ⟨(layoutStatus_ok_iff _).mpr ⟨short, image, rfl⟩, Transaction.eq_of_fields fun field => ?_⟩
  rw [Transaction.parse, Transaction.parse, writes, same, ← fresh]
  refine txFields.read_replay_congr (fun write member => ?_) tx Transaction.zero ?_
  · rw [fresh] at member
    rcases List.mem_append.mp member with field | recogniser
    · exact (TransactionImage.fieldWrites_carry field).2.1
    · exact inBounds_of_recogniser (scriptWrites_targets recogniser)
  · by_cases zero : tx.field field = Transaction.zero.field field
    · exact .inl zero
    · exact .inr (covered field zero)

theorem Transaction.Covered.parses {tx : Transaction} {b : List UInt8}
    (covered : tx.Covered sdk b) (ok : tx.parseStatus sdk b = .parsingOk) :
    Parses sdk b (tx.parse sdk b) := by
  obtain ⟨status, same⟩ := covered.parse_eq ok
  obtain ⟨size, run⟩ := @transactionDeserialize_eq sdk b Transaction.zero (Area.fill 8 0)
  rw [same]
  refine ⟨_, size, run.trans ?_⟩
  rw [← Transaction.parseStatus, status]
  rfl

/-! ## Parses that are those from zero -/

/-- The status, and on success the transaction, are those of the same bytes parsed
over an all-zero transaction. -/
def Transaction.ParsesAfresh (sdk : Sdk) (tx : Transaction) (b : List UInt8) : Prop :=
  ∃ status parsed size afresh size',
    transactionDeserialize sdk (Buffer.ofBytes b) tx (Area.fill 8 0) =
      some (status, parsed, size) ∧
    transactionDeserialize sdk (Buffer.ofBytes b) Transaction.zero (Area.fill 8 0) =
      some (status, afresh, size') ∧
    (status = .parsingOk → parsed = afresh)

theorem parsesAfresh_iff {tx : Transaction} {b : List UInt8} :
    tx.ParsesAfresh sdk b ↔ tx.parseStatus sdk b = Transaction.zero.parseStatus sdk b ∧
      (tx.parseStatus sdk b = .parsingOk → tx.parse sdk b = Transaction.zero.parse sdk b) := by
  obtain ⟨size, run⟩ := @transactionDeserialize_eq sdk b tx (Area.fill 8 0)
  obtain ⟨size', fresh⟩ := @transactionDeserialize_eq sdk b Transaction.zero (Area.fill 8 0)
  rw [Transaction.ParsesAfresh, run, fresh]
  simp only [Option.some.injEq, Prod.mk.injEq]
  constructor
  · rintro ⟨_, _, _, _, _, ⟨rfl, rfl, _⟩, ⟨same, rfl, _⟩, onOk⟩
    exact ⟨same.symm, onOk⟩
  · rintro ⟨same, onOk⟩
    exact ⟨_, _, _, _, _, ⟨rfl, rfl, rfl⟩, ⟨same.symm, rfl, rfl⟩, onOk⟩

/-- Over covered leftovers without stale slots. -/
theorem Transaction.Covered.parsesAfresh {tx : Transaction} {b : List UInt8}
    (covered : tx.Covered sdk b) (slots : tx.attributes = Transaction.zero.attributes) :
    tx.ParsesAfresh sdk b :=
  parsesAfresh_iff.mpr ⟨layoutStatus_of_slots slots b, fun ok => (covered.parse_eq ok).2⟩

/-- The header of bytes that do not begin with version 0 is refused. -/
theorem header_refused {b : List UInt8} (version : b.head? ≠ some 0x00) :
    ∃ writes status, headerLayout 0 b = ⟨writes, .error status⟩ := by
  cases run : headerLayout 0 b with
  | mk writes outcome =>
      cases outcome with
      | error status => exact ⟨writes, status, rfl⟩
      | ok result =>
          obtain ⟨_, pos, rest⟩ := result
          obtain ⟨phrase, rfl, _, image, rfl⟩ := sound_header _ _ _ _ _ _ run
          exact absurd rfl version

/-- **Another version is refused whatever is left over.** -/
theorem parsesAfresh_of_version {tx : Transaction} {b : List UInt8}
    (version : b.head? ≠ some 0x00) : tx.ParsesAfresh sdk b := by
  obtain ⟨writes, status, refused⟩ := header_refused version
  have ended : ∀ left, transactionLayout sdk left 0 b = ⟨writes, .error status⟩ :=
    fun left => bind_of_error refused
  have failure : status ≠ .parsingOk := failsWithin_transaction Leftovers.none _ _ _ _ (ended _)
  have same : tx.parseStatus sdk b = Transaction.zero.parseStatus sdk b := by
    rw [Transaction.parseStatus, Transaction.parseStatus, layoutStatus, layoutStatus, ended, ended]
  refine parsesAfresh_iff.mpr ⟨same, fun ok => ?_⟩
  rw [Transaction.parseStatus, layoutStatus, ended] at ok
  split at ok
  · cases ok
  · exact absurd ok failure

/-! ## An attribute that is left over -/

/-- A stale slot makes an attribute a duplicate of itself. -/
theorem attributes_duplicate {slots : AttributeSlots} {image : AttributesImage}
    (one : image.count.value.toNat = 1)
    (stale : (slots[0]?.getD (Attribute.mk 0)).type = highPriority)
    (pos : Nat) (rest : List UInt8) :
    attributesLayout slots pos (image.bytes ++ rest) =
      ⟨[.attributesSize image.count.value.toUInt8], .error .attributesDuplicateType⟩ := by
  have held : holdsAttribute slots 1 highPriority = true :=
    List.any_eq_true.mpr ⟨0, by decide, beq_iff_eq.mpr stale⟩
  have size : [highPriority].length = 1 := rfl
  have turn : ∀ here, attributeLayout 1 0 slots here (highPriority :: rest) =
      ⟨[], .error .attributesDuplicateType⟩ := by
    intro here
    have duplicate : ∀ there, (failIf (holdsAttribute slots 1 highPriority)
        .attributesDuplicateType >>= fun _ => write (.attributeType 0 highPriority) >>= fun _ =>
        pure (modifyAt slots 0 fun _ => ⟨highPriority⟩) : TxParser AttributeSlots) there rest =
          ⟨[], .error .attributesDuplicateType⟩ := by
      intro there
      rw [held]
      rfl
    have known : (highPriority != highPriority) = false := by decide
    exact (accepts_takeAs size _ _).bind_error ((accepts_failIf known _).bind_error (duplicate _))
  have turns : image.count.value.toUInt8.toNat = 1 := by
    rw [UInt64.toNat_toUInt8_of_lt (by omega), one]
  have bytes : image.bytes ++ rest = image.count.bytes ++ highPriority :: rest := by
    rw [AttributesImage.bytes, one, List.append_assoc]
    rfl
  rw [bytes]
  refine (accepts_uvarint image.count.encodes _).bind_error
    ((accepts_failIf image.inLimits _).bind_error ((accepts_write _).bind_error ?_))
  rw [turns]
  exact bind_of_error (turn _)

namespace TransactionImage

/-- The bytes before the script. -/
def beforeScript (image : TransactionImage) : List UInt8 :=
  image.header.bytes ++ image.signers.bytes ++ image.attributes.bytes

variable {image : TransactionImage}

/-- A parse of the bytes before the script stops where the script is missing. -/
theorem layout_beforeScript : transactionLayout sdk Leftovers.none 0 image.beforeScript =
    ⟨image.header.writes ++ image.signers.writes image.signersAt ++ image.attributes.writes,
      .error .scriptLengthParsingError⟩ := by
  have missing : ∀ flag pos, scriptLayout sdk flag pos [] =
      ⟨[], .error .scriptLengthParsingError⟩ := fun _ _ => rfl
  have read : transactionLayout sdk Leftovers.none 0 (image.header.bytes ++
      (image.signers.bytes ++ (image.attributes.bytes ++ []))) =
        ⟨image.header.writes ++ (image.signers.writes (0 + image.header.bytes.length) ++
          (image.attributes.writes ++ [])), .error .scriptLengthParsingError⟩ := by
    unfold transactionLayout
    exact (accepts_header image.header).bind_error ((accepts_signers image.signers).bind_error
      ((accepts_attributes image.attributes).bind_error (missing _ _)))
  simp only [List.append_nil, Nat.zero_add, ← List.append_assoc] at read
  exact read

/-- The attribute stays in its slot. -/
theorem stale_beforeScript (one : image.attributes.count.value.toNat = 1)
    (short : image.beforeScript.length ≤ maxTransactionLen) :
    (((Transaction.zero.parse sdk image.beforeScript).attributes[0]?).getD
      (Attribute.mk 0)).type = highPriority := by
  have writes : layoutWrites sdk Transaction.zero.leftovers image.beforeScript =
      image.header.writes ++ image.signers.writes image.signersAt ++ image.attributes.writes := by
    rw [layoutWrites, if_neg (Nat.not_lt.mpr short)]
    exact congrArg Reading.writes layout_beforeScript
  have carried : ∀ write ∈ image.header.writes ++ image.signers.writes image.signersAt ++
      image.attributes.writes, write ∈ image.fieldWrites :=
    fun write member => List.mem_append_left _ member
  have assigned : TxWrite.attributeType 0 highPriority ∈ image.attributes.writes := by
    rw [AttributesImage.writes, one]
    exact .tail _ (.head _)
  have read := @FieldStore.read_replay_of_expected _ _ _ _ txFields _ image.value
    (fun write member => (fieldWrites_carry (carried write member)).2.1)
    (fun write member => (fieldWrites_carry (carried write member)).1)
    (.attributeType 0) Transaction.zero (.inr ⟨_, List.mem_append_right _ assigned, rfl⟩)
  rw [value_attributeType (by omega), ← writes] at read
  exact TxValue.toNat_inj read

/-- **A transaction whose attribute is left over is never parsed.** -/
theorem parseStatus_stale {tx : Transaction} (one : image.attributes.count.value.toNat = 1)
    (short : image.bytes.length ≤ maxTransactionLen)
    (stale : (tx.attributes[0]?.getD (Attribute.mk 0)).type = highPriority) :
    tx.parseStatus sdk image.bytes = .attributesDuplicateType := by
  have read : transactionLayout sdk tx.leftovers 0 (image.header.bytes ++
      (image.signers.bytes ++ (image.attributes.bytes ++ image.script.bytes))) =
        ⟨image.header.writes ++ (image.signers.writes (0 + image.header.bytes.length) ++
          [.attributesSize image.attributes.count.value.toUInt8]),
          .error .attributesDuplicateType⟩ := by
    unfold transactionLayout
    exact (accepts_header image.header).bind_error ((accepts_signers image.signers).bind_error
      (bind_of_error (attributes_duplicate one stale _ _)))
  simp only [← List.append_assoc] at read
  rw [Transaction.parseStatus, layoutStatus, if_neg (Nat.not_lt.mpr short), bytes, read]
  rfl

theorem length_beforeScript (image : TransactionImage) :
    image.beforeScript.length ≤ image.bytes.length := by
  rw [bytes, ← beforeScript, List.length_append]
  exact Nat.le_add_right _ _

/-- The transaction would have been parsed from zero. -/
theorem not_parsesAfresh_stale (one : image.attributes.count.value.toNat = 1)
    (short : image.bytes.length ≤ maxTransactionLen) :
    ¬ (Transaction.zero.parse sdk image.beforeScript).ParsesAfresh sdk image.bytes := by
  intro afresh
  have front := image.length_beforeScript.trans short
  have stale := @parseStatus_stale sdk image _ one short (@stale_beforeScript sdk image one front)
  have fresh : Transaction.zero.parseStatus sdk image.bytes = .parsingOk :=
    (layoutStatus_ok_iff image.bytes).mpr ⟨short, image, rfl⟩
  cases stale.symm.trans ((parsesAfresh_iff.mp afresh).1.trans fresh)

end TransactionImage

end AppNeo3

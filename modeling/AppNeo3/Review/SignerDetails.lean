import AppNeo3.Review.SignersDetermined

/-!
# The details of a signer in their slots

The account, a contract or a group of a signer is written over what its slot
showed before. Hexadecimal text that fits brings its terminator; an address does
not, and the key of a group does not fit. So a contract is always shown whole and
a group never, and an account is shown whole as hexadecimal text, or as an
address where the older text has ended by then (`detail_complete_iff`).
-/

set_option autoImplicit false

namespace AppNeo3

open Memory CText DecimalText

/-! ## Details -/

/-- A detail of a signer that a review shows by its bytes. -/
inductive SignerDetail where
  | account
  | contract (index : Nat)
  | group (index : Nat)
deriving DecidableEq

namespace SignerDetail

variable (sdk : Sdk) (storage : InternalStorage) (b : List UInt8) (s : Signer)

/-- The signer has the detail. -/
def Of : SignerDetail → Prop
  | .account => True
  | .contract index => index < s.allowedContractsSize.toNat
  | .group index => index < s.allowedGroupsSize.toNat

/-- The size of a detail in bytes. -/
def width : SignerDetail → Nat
  | .account => uint160Len
  | .contract _ => uint160Len
  | .group _ => ecpointLen

/-- Where the bytes of a detail are. -/
def pointer : SignerDetail → Option Nat
  | .account => s.account
  | .contract index => s.allowedContracts[index]?.getD none
  | .group index => s.allowedGroups[index]?.getD none

/-- Format a detail over what the slot holds. -/
def format : SignerDetail → DynamicSlot → Option DynamicSlot
  | .account => formatAccount sdk storage b s
  | .contract index => formatContract sdk b s index
  | .group index => formatGroup sdk b s index

/-- The text that a detail should be shown with. -/
def expected (bytes : List UInt8) : SignerDetail → List Char
  | .account => if storage.signerAccountFormat = 0 then hexText bytes else addressText sdk bytes
  | _ => hexText bytes

/-- The text of the slot is the expected one, complete and with a terminator. -/
def Complete (text' : List Char) (slot : DynamicSlot) : Prop :=
  text slot.text.cells = text' ∧ nul ∈ slot.text.cells

/-- A detail that is shown whole over what a slot holds. An address leaves the
character behind it as it is. -/
def FitsOver (older : DynamicSlot) : SignerDetail → Prop
  | .account => storage.signerAccountFormat = 0 ∨ older.text.cells[addressLen]? = some nul
  | .contract _ => True
  | .group _ => False

end SignerDetail

open SignerDetail

variable {sdk : Sdk} {storage : InternalStorage}

/-! ## Texts over older ones -/

/-- A text that is shorter than its buffer has a terminator. -/
theorem complete_of_text {text' : List Char} {slot : DynamicSlot}
    (shown : text slot.text.cells = text') (short : text'.length < 64) :
    Complete text' slot := by
  refine ⟨shown, nul_mem_of_strlen_lt ?_⟩
  rw [strlen, shown, slot.text.size_eq]
  exact short

theorem complete_hex {kind : List Char} {size index : Nat} {entry : List UInt8}
    (width : entry.length = uint160Len) (slot : DynamicSlot) :
    Complete (hexText entry) (entryItem sdk kind size index entry slot) := by
  refine complete_of_text (Sdk.text_formatHex (by rw [width]; decide)) ?_
  rw [length_hexText, width]
  decide

theorem complete_accountHex {account : List UInt8} (width : account.length = uint160Len)
    (hex : storage.signerAccountFormat = 0) (slot : DynamicSlot) :
    Complete (hexText account) (accountItem sdk storage account slot) := by
  have written : (accountItem sdk storage account slot).text =
      (sdk.formatHex account slot.text).2 := if_pos hex
  refine complete_of_text ?_ ?_
  · rw [written]
    exact Sdk.text_formatHex (by rw [width]; decide)
  · rw [length_hexText, width]
    decide

/-- The string at the start of some characters is empty when they begin with a
terminator. -/
theorem text_drop_eq_nil_iff {chars : List Char} {count : Nat} (inside : count < chars.length) :
    text (chars.drop count) = [] ↔ chars[count]? = some nul := by
  rw [List.drop_eq_getElem_cons inside, List.getElem?_eq_getElem inside, text,
    List.takeWhile_cons, Option.some.injEq]
  by_cases terminator : chars[count] = nul
  · simp [terminator]
  · simp [terminator]

/-- Behind an address the rest of the older text is shown. -/
theorem text_accountAddress {account : List UInt8} (width : account.length = uint160Len)
    (address : storage.signerAccountFormat ≠ 0) (slot : DynamicSlot) :
    text (accountItem sdk storage account slot).text.cells =
      addressText sdk account ++ text (slot.text.cells.drop addressLen) := by
  have written : (accountItem sdk storage account slot).text =
      scriptHashToAddress sdk slot.text account := if_neg address
  rw [written, scriptHashToAddress_eq sdk width (by decide), Area.write_cells, overwrite_zero,
    length_addressText sdk width, text_append (nul_not_mem_addressText sdk)]

/-- **An address is complete where the older text has ended by then.** -/
theorem complete_accountAddress_iff {account : List UInt8}
    (width : account.length = uint160Len) (address : storage.signerAccountFormat ≠ 0)
    (slot : DynamicSlot) :
    Complete (addressText sdk account) (accountItem sdk storage account slot) ↔
      slot.text.cells[addressLen]? = some nul := by
  have inside : addressLen < slot.text.cells.length := by
    rw [slot.text.size_eq]
    decide
  have shown := @text_accountAddress sdk storage account width address slot
  rw [← text_drop_eq_nil_iff inside]
  constructor
  · rintro ⟨complete, _⟩
    rw [shown] at complete
    exact List.append_right_eq_self.mp complete
  · intro ended
    rw [ended, List.append_nil] at shown
    refine complete_of_text shown ?_
    rw [length_addressText sdk width]
    decide

/-- The key of a group needs more characters than a slot has. -/
theorem not_complete_group {group : List UInt8} (width : group.length = ecpointLen)
    (slot : DynamicSlot) : ¬ Complete (hexText group) slot := by
  rintro ⟨shown, _⟩
  have fits := strlen_le_length slot.text.cells
  rw [strlen, shown, length_hexText, width, slot.text.size_eq] at fits
  exact absurd fits (by decide)

/-! ## The exact condition -/

theorem length_of_bytesAt {b bytes : List UInt8} {pointer : Option Nat} {count : Nat}
    (read : bytesAt b pointer count = some bytes) : bytes.length = count := by
  cases pointer with
  | none => cases read
  | some position =>
      rw [bytesAt] at read
      split at read
      · rename_i fits
        cases read
        exact length_slice fits
      · cases read

theorem getElem_of_map_range {α β : Type} {n : Nat} {f : Nat → Option α} {entries : List β}
    {g : β → α} (same : (List.range n).map f = entries.map fun entry => some (g entry)) {k : Nat}
    (inside : k < n) : ∃ value, f k = some value := by
  have here := congrArg (·[k]?) same
  simp only [List.getElem?_map, List.getElem?_range inside, Option.map_some] at here
  cases found : entries[k]? with
  | none =>
      rw [found] at here
      cases here
  | some entry =>
      rw [found] at here
      exact ⟨g entry, Option.some.inj here⟩

theorem length_signerFacts (tx : Transaction) (b : List UInt8) :
    (tx.signerFacts b).length = tx.signersSize.toNat := by
  rw [Transaction.signerFacts, List.length_map, List.length_range]

/-- The facts of a signer of a parsed transaction are those of an image. -/
theorem Parses.facts_image {b : List UInt8} {tx : Transaction} (parses : Parses sdk b tx)
    {i : Nat} (inside : i < tx.signersSize.toNat) :
    ∃ image : SignerImage, (tx.signers[i]?.getD .zero).facts b = image.facts := by
  obtain ⟨images, _, facts⟩ := parses.signerFacts
  have here := congrArg (·[i]?) facts
  simp only [Transaction.signerFacts, List.getElem?_map, List.getElem?_range inside,
    Option.map_some] at here
  cases found : images[i]? with
  | none =>
      rw [found] at here
      cases here
  | some image =>
      rw [found] at here
      exact ⟨image, Option.some.inj here⟩

/-- The bytes of every detail of a parsed transaction can be read. -/
theorem Parses.detail_read {b : List UInt8} {tx : Transaction} (parses : Parses sdk b tx)
    {i : Nat} (inside : i < tx.signersSize.toNat) {detail : SignerDetail}
    (present : detail.Of (tx.signers[i]?.getD .zero)) :
    ∃ bytes, bytesAt b (detail.pointer (tx.signers[i]?.getD .zero)) detail.width =
      some bytes := by
  obtain ⟨image, facts⟩ := parses.facts_image inside
  cases detail with
  | account => exact ⟨_, congrArg SignerFacts.account facts⟩
  | contract index => exact getElem_of_map_range (congrArg SignerFacts.contracts facts) present
  | group index => exact getElem_of_map_range (congrArg SignerFacts.groups facts) present

/-- **A detail is shown complete exactly when it fits over what the slot holds.** -/
theorem detail_complete_iff (sdk : Sdk) {b : List UInt8} {tx : Transaction}
    (parses : Parses sdk b tx) (storage : InternalStorage) {i : Nat}
    (inside : i < tx.signersSize.toNat) {detail : SignerDetail}
    (present : detail.Of (tx.signers[i]?.getD .zero)) (slot : DynamicSlot) :
    ∃ bytes filled,
      bytesAt b (detail.pointer (tx.signers[i]?.getD .zero)) detail.width = some bytes ∧
      detail.format sdk storage b (tx.signers[i]?.getD .zero) slot = some filled ∧
      (Complete (detail.expected sdk storage bytes) filled ↔ detail.FitsOver storage slot) := by
  obtain ⟨bytes, read⟩ := parses.detail_read inside present
  have width := length_of_bytesAt read
  refine ⟨bytes, ?_⟩
  cases detail with
  | account =>
      refine ⟨accountItem sdk storage bytes slot, read, congrArg (Option.map _) read, ?_⟩
      by_cases hex : storage.signerAccountFormat = 0
      · have complete := @complete_accountHex sdk storage bytes width hex slot
        rw [expected, if_pos hex]
        exact iff_of_true complete (.inl hex)
      · rw [expected, if_neg hex, complete_accountAddress_iff width hex]
        exact (or_iff_right hex).symm
  | contract index =>
      exact ⟨_, read, congrArg (Option.map _) read, iff_of_true (complete_hex width slot) trivial⟩
  | group index =>
      exact ⟨_, read, congrArg (Option.map _) read,
        iff_of_false (not_complete_group width _) id⟩

/-! ## Details of one signer -/

theorem SignerImage.transaction_signersSize {signer : SignerImage}
    (few : signer.bytes.length ≤ 512) :
    (signer.transaction.parsed sdk).signersSize.toNat = 1 := by
  rw [← length_signerFacts _ signer.transaction.bytes, @SignerImage.transaction_facts sdk signer few]
  rfl

/-- The facts of the one signer of a transaction. -/
theorem SignerImage.transaction_signer {signer : SignerImage} (few : signer.bytes.length ≤ 512) :
    0 < (signer.transaction.parsed sdk).signersSize.toNat ∧
      ((signer.transaction.parsed sdk).signers[0]?.getD Signer.zero).facts
        signer.transaction.bytes = signer.facts := by
  have facts := @SignerImage.transaction_facts sdk signer few
  have one := @SignerImage.transaction_signersSize sdk signer few
  rw [Transaction.signerFacts, one] at facts
  exact ⟨one ▸ Nat.one_pos, (List.cons.inj facts).1⟩

/-- A slot full of older text. -/
def DynamicSlot.full : DynamicSlot := ⟨Area.fill _ 'A', Area.fill _ 'A'⟩

/-- The hexadecimal text of an account replaces whatever the slot held. -/
theorem detail_complete_account :
    let signer := SignerImage.plain (Area.fill _ 0)
    let tx := signer.transaction.parsed Sdk.reference
    ∃ filled, formatAccount Sdk.reference .zero signer.transaction.bytes
        (tx.signers[0]?.getD .zero) .full = some filled ∧
      Complete (hexText (List.replicate 20 0)) filled := by
  intro signer tx
  have few : signer.bytes.length ≤ 512 := by decide
  have parses : Parses Sdk.reference signer.transaction.bytes tx :=
    parses_image _ (SignerImage.transaction_short few)
  obtain ⟨inside, facts⟩ : 0 < tx.signersSize.toNat ∧
      (tx.signers[0]?.getD Signer.zero).facts signer.transaction.bytes = signer.facts :=
    SignerImage.transaction_signer few
  clear_value tx
  obtain ⟨bytes, filled, read, formatted, complete⟩ :=
    detail_complete_iff Sdk.reference parses .zero inside
      (show SignerDetail.account.Of (tx.signers[0]?.getD .zero) from trivial) .full
  cases read.symm.trans (congrArg SignerFacts.account facts)
  exact ⟨filled, formatted, complete.mpr (.inl rfl)⟩

/-- A slot that shows the script hash of a contract. -/
def DynamicSlot.ofContract (sdk : Sdk) : DynamicSlot :=
  entryItem sdk "Contract".toList 1 0 (List.replicate 20 0xAB) ⟨Area.fill _ nul, Area.fill _ nul⟩

/-- **Details are shown with what the screen before has left.** The key of a group
is not written, so that the slot shows a contract instead; an address is
followed by the end of the contract. -/
theorem detail_incomplete :
    (let signer := SignerImage.ofGroup (Area.fill _ 2)
      let tx := signer.transaction.parsed Sdk.reference
      Parses Sdk.reference signer.transaction.bytes tx ∧
        ∃ filled, formatGroup Sdk.reference signer.transaction.bytes
            (tx.signers[0]?.getD .zero) 0 (.ofContract .reference) = some filled ∧
          text filled.text.cells = hexText (List.replicate 20 0xAB) ∧
          ¬ Complete (hexText (List.replicate 33 2)) filled) ∧
    (let signer := SignerImage.plain (Area.fill _ 0)
      let tx := signer.transaction.parsed Sdk.reference
      Parses Sdk.reference signer.transaction.bytes tx ∧
        ∃ filled, formatAccount Sdk.reference ⟨0, 0, 1⟩ signer.transaction.bytes
            (tx.signers[0]?.getD .zero) (.ofContract .reference) = some filled ∧
          text filled.text.cells =
            addressText Sdk.reference (List.replicate 20 0) ++ "ABABAB".toList ∧
          ¬ Complete (addressText Sdk.reference (List.replicate 20 0)) filled) := by
  constructor
  · intro signer tx
    have few : signer.bytes.length ≤ 512 := by decide
    obtain ⟨_, facts⟩ : 0 < tx.signersSize.toNat ∧
        (tx.signers[0]?.getD Signer.zero).facts signer.transaction.bytes = signer.facts :=
      SignerImage.transaction_signer few
    have parses : Parses Sdk.reference signer.transaction.bytes tx :=
      parses_image _ (SignerImage.transaction_short few)
    clear_value tx
    have width : (List.replicate 33 (2 : UInt8)).length = ecpointLen := rfl
    have read : bytesAt signer.transaction.bytes
        ((tx.signers[0]?.getD Signer.zero).allowedGroups[0]?.getD none) ecpointLen =
          some (List.replicate 33 2) := by
      have groups : (List.range (tx.signers[0]?.getD Signer.zero).allowedGroupsSize.toNat).map
          (fun j => bytesAt signer.transaction.bytes
            ((tx.signers[0]?.getD Signer.zero).allowedGroups[j]?.getD none) ecpointLen) =
          [some (List.replicate 33 2)] := congrArg SignerFacts.groups facts
      have one : (tx.signers[0]?.getD Signer.zero).allowedGroupsSize.toNat = 1 := by
        simpa using congrArg List.length groups
      rw [one] at groups
      exact (List.cons.inj groups).1
    refine ⟨parses, _, congrArg (Option.map _) read, ?_, not_complete_group width _⟩
    have older : text (DynamicSlot.ofContract .reference).text.cells =
        hexText (List.replicate 20 0xAB) := by decide
    exact (congrArg (fun slot : DynamicSlot => text slot.text.cells)
      (entryItem_group width _ 0 _)).trans older
  · intro signer tx
    have few : signer.bytes.length ≤ 512 := by decide
    obtain ⟨_, facts⟩ : 0 < tx.signersSize.toNat ∧
        (tx.signers[0]?.getD Signer.zero).facts signer.transaction.bytes = signer.facts :=
      SignerImage.transaction_signer few
    have parses : Parses Sdk.reference signer.transaction.bytes tx :=
      parses_image _ (SignerImage.transaction_short few)
    clear_value tx
    have width : (List.replicate 20 (0 : UInt8)).length = uint160Len := rfl
    have address : (⟨0, 0, 1⟩ : InternalStorage).signerAccountFormat ≠ 0 := by decide
    have read : bytesAt signer.transaction.bytes (tx.signers[0]?.getD Signer.zero).account
        uint160Len = some (List.replicate 20 0) := congrArg SignerFacts.account facts
    refine ⟨parses, _, congrArg (Option.map _) read, ?_, fun complete => ?_⟩
    · rw [text_accountAddress width address]
      exact congrArg (addressText Sdk.reference (List.replicate 20 0) ++ ·) (by decide)
    · exact absurd ((complete_accountAddress_iff width address _).mp complete) (by decide)

end AppNeo3

import AppNeo3.Foundation.CBody
import AppNeo3.Foundation.CountedArray
import AppNeo3.Ui.SignTxNbgl

/-!
# The stored pairs of a review

`sign_tx_nbgl.c`, as it stores the pairs: `createTransactionFlow` fills two arrays
with 8-bit counters, which keep what an earlier review has left behind the cells in
use, and `getSingleActionReviewPair` reads them by the index that the screen asks
for. While the items of the signers fit, the arrays hold the pairs of the review
(`createTransactionFlow_fills`).
-/

set_option autoImplicit false

namespace AppNeo3

namespace Nbgl

open CBody Body

/-! ## The arrays -/

/-- `MAX_NUM_STEPS`. -/
abbrev maxNumSteps : Nat := 14

/-- The worst case of the items of all signers. -/
abbrev maxDynItems : Nat :=
  maxTxSigners * (3 + maxSignerAllowedContracts * 1 + maxSignerAllowedGroups * 1)

/-- `item_kind_t`, as it is stored. -/
inductive StoredKind where
  | signer
  | account
  | scope
  | contract
  | group
deriving DecidableEq

/-- The kind of an item, with the index of its entry when it has one. -/
def StoredKind.itemKind : StoredKind → Nat → ItemKind
  | .signer, _ => .signer
  | .account, _ => .account
  | .scope, _ => .scope
  | .contract, entryIndex => .contract entryIndex
  | .group, entryIndex => .group entryIndex

/-- `dynamic_item_t`, as it is stored. Every member of the union starts with the
index of the signer, and two have the index of an entry behind it. -/
structure StoredItem where
  kind : StoredKind
  signerIndex : UInt8
  entryIndex : UInt8
deriving DecidableEq

/-- The item that is stored. -/
def StoredItem.item (stored : StoredItem) : DynamicItem where
  kind := stored.kind.itemKind stored.entryIndex.toNat
  signerIndex := stored.signerIndex.toNat

/-- The static variables of the review. A pair or a text that was never stored is
a null pointer. -/
structure TransactionFlow where
  staticItems : CountedArray (Option StaticItem) (maxNumSteps + 1)
  dynItems : CountedArray StoredItem maxDynItems
  reviewFinalLongPressText : Option String
  reviewTitle : Option String

/-- The variables when the application starts. -/
def TransactionFlow.zero : TransactionFlow where
  staticItems := ⟨Vector.replicate _ none, 0⟩
  dynItems := ⟨Vector.replicate _ ⟨.signer, 0, 0⟩, 0⟩
  reviewFinalLongPressText := none
  reviewTitle := none

/-- A function that fills the pairs. -/
abbrev FlowFiller : Type → Type := Body TransactionFlow Unit

/-- Store a fixed pair and count it. -/
def addStaticItem (item : String) (fact : StaticFact) : FlowFiller Unit := fun flow =>
  match flow.staticItems.push fun _ => some ⟨item, fact⟩ with
  | some grown => .next () { flow with staticItems := grown }
  | none => .fault

/-- Store to the next item and count it. -/
def addDynItem (store : StoredItem → StoredItem) : FlowFiller Unit := fun flow =>
  match flow.dynItems.push store with
  | some grown => .next () { flow with dynItems := grown }
  | none => .fault

/-- Store an item without an entry. The byte behind the index stays as it is. -/
def addSignerItem (kind : StoredKind) (i : Nat) : FlowFiller Unit :=
  addDynItem fun older => { older with kind := kind, signerIndex := UInt8.ofNat i }

/-- Store an item of an entry. -/
def addEntryItem (kind : StoredKind) (i j : Nat) : FlowFiller Unit :=
  addDynItem fun _ => ⟨kind, UInt8.ofNat i, UInt8.ofNat j⟩

def setReviewTexts (longPressText title : String) : FlowFiller Unit :=
  modify fun flow => { flow with
    reviewFinalLongPressText := some longPressText
    reviewTitle := some title }

/-- The texts and the fixed pairs about the script. -/
def addScriptItems (tx : Transaction) : FlowFiller Unit :=
  if tx.isVoteScript then
    if tx.isRemoveVote then
      setReviewTexts "Sign transaction to\nretract vote?" "Review transaction to\nretract vote"
    else setReviewTexts "Sign transaction to\ncast vote?" "Review transaction to\ncast vote"
  else if tx.isSystemAssetTransfer then do
    addStaticItem "To" .dstAddress
    addStaticItem "Token amount" .tokenAmount
    if tx.isNeo then
      setReviewTexts "Sign transaction to\nsend NEO?" "Review transaction to\nsend NEO"
    else setReviewTexts "Sign transaction to\nsend GAS?" "Review transaction to\nsend GAS"
  else setReviewTexts "Sign script?" "Review transaction\nto sign script"

/-- The fixed pairs that every transaction has. -/
def addCommonItems : FlowFiller Unit := do
  addStaticItem "Target network" .network
  addStaticItem "System fee" .systemFee
  addStaticItem "Network fee" .networkFee
  addStaticItem "Total fees" .totalFees
  addStaticItem "Valid until height" .validUntilBlock
  addStaticItem "Script hash" .scriptHash

/-- The items of a signer. There are no signers behind the array. -/
def addSignerItems (tx : Transaction) (i : Nat) : FlowFiller Unit := do
  addSignerItem .signer i
  addSignerItem .account i
  addSignerItem .scope i
  match tx.signers[i]? with
  | none => fault
  | some signer => do
      loop (addEntryItem .contract i) signer.allowedContractsSize.toNat 0
      loop (addEntryItem .group i) signer.allowedGroupsSize.toNat 0

def createTransactionFlow (tx : Transaction) : FlowFiller Unit := do
  modify fun flow => { flow with
    staticItems := flow.staticItems.clear
    dynItems := flow.dynItems.clear }
  addScriptItems tx
  addCommonItems
  loop (addSignerItems tx) tx.signersSize.toNat 0

namespace TransactionFlow

variable (sdk : Sdk) (storage : InternalStorage) (rawTx : List UInt8) (tx : Transaction)

/-- Format a stored item into a slot. Whatever its kind, the signer is looked up by
the index that a scope has. -/
def formatTagValue (stored : StoredItem) (slot : DynamicSlot) : Option DynamicSlot := do
  let s ← tx.signers[stored.signerIndex.toNat]?
  match stored.kind with
  | .signer => some (formatSigner stored.signerIndex.toNat tx.signersSize.toNat slot)
  | .account => formatAccount sdk storage rawTx s slot
  | .scope => some (formatScope s slot)
  | .contract => formatContract sdk rawTx s stored.entryIndex.toNat slot
  | .group => formatGroup sdk rawTx s stored.entryIndex.toNat slot

/-- The pair that the screen asks for by its index, and the slots after the fetch. -/
def getSingleActionReviewPair (g : GlobalItemStorage) (flow : TransactionFlow) (index : UInt8)
    (slots : List DynamicSlot) : Option ((List Char × List Char) × List DynamicSlot) :=
  if index < flow.staticItems.count then do
    let pair ← flow.staticItems.cells[index.toNat]?
    pair.map fun item => ((item.item.toList, g.shown item.fact), slots)
  else do
    let stored ← flow.dynItems.cells[index.toNat - flow.staticItems.count.toNat]?
    let slot ← slots[index.toNat % slots.length]?
    let filled ← formatTagValue sdk storage rawTx tx stored slot
    some (filled.shown, slots.set (index.toNat % slots.length) filled)

/-- The number of pairs that the screen is told. -/
def nbPairs (flow : TransactionFlow) : UInt8 := flow.staticItems.count + flow.dynItems.count

end TransactionFlow

/-! ## What the arrays hold -/

variable {tx : Transaction} {flow : TransactionFlow}

/-- The arrays hold the pairs of a review. -/
structure TransactionFlow.Holds (flow : TransactionFlow) (statics : List StaticItem)
    (dyns : List DynamicItem) : Prop where
  statics : flow.staticItems.Holds id (statics.map some)
  dyns : flow.dynItems.Holds StoredItem.item dyns

/-- The two texts of a review. -/
def TransactionFlow.texts (flow : TransactionFlow) : Option String × Option String :=
  (flow.reviewFinalLongPressText, flow.reviewTitle)

/-- While there is room, the body adds these pairs to those held and sets these
texts, or leaves them. -/
def Adds (texts : Option (String × String)) (statics : List StaticItem) (dyns : List DynamicItem)
    (body : FlowFiller Unit) : Prop :=
  ∀ (flow : TransactionFlow) (heldStatics : List StaticItem) (heldDyns : List DynamicItem),
    flow.Holds heldStatics heldDyns →
    (heldStatics ++ statics).length ≤ maxNumSteps + 1 → (heldDyns ++ dyns).length ≤ maxDynItems →
    ∃ flow', body flow = .next () flow' ∧ flow'.Holds (heldStatics ++ statics) (heldDyns ++ dyns) ∧
      flow'.texts = texts.elim flow.texts fun pair => (some pair.1, some pair.2)

theorem adds_pure : Adds none [] [] (pure ()) := by
  intro flow heldStatics heldDyns holds _ _
  refine ⟨flow, rfl, ?_, rfl⟩
  rwa [List.append_nil, List.append_nil]

theorem Adds.bind {texts texts' : Option (String × String)} {statics statics' : List StaticItem}
    {dyns dyns' : List DynamicItem} {body rest : FlowFiller Unit}
    (first : Adds texts statics dyns body) (second : Adds texts' statics' dyns' rest) :
    Adds (texts'.or texts) (statics ++ statics') (dyns ++ dyns') (body >>= fun _ => rest) := by
  intro flow heldStatics heldDyns holds staticRoom dynRoom
  rw [← List.append_assoc] at staticRoom dynRoom
  have staticPart : (heldStatics ++ statics).length ≤ maxNumSteps + 1 :=
    (List.prefix_append _ statics').length_le.trans staticRoom
  have dynPart : (heldDyns ++ dyns).length ≤ maxDynItems :=
    (List.prefix_append _ dyns').length_le.trans dynRoom
  obtain ⟨middle, run, held, shown⟩ := first _ _ _ holds staticPart dynPart
  obtain ⟨flow', run', held', shown'⟩ := second _ _ _ held staticRoom dynRoom
  refine ⟨flow', (bind_of_next run _).trans run', ?_, ?_⟩
  · rwa [← List.append_assoc, ← List.append_assoc]
  · rw [shown', shown]
    cases texts' <;> rfl

/-- The turns of a loop that adds items add them one after the other. -/
theorem adds_loop {turn : Nat → FlowFiller Unit} (items : Nat → List DynamicItem) :
    ∀ count index : Nat, (∀ k < index + count, Adds none [] (items k) (turn k)) →
      Adds none [] ((List.range' index count).flatMap items) (loop turn count index)
  | 0, _, _ => adds_pure
  | count + 1, index, turns => by
      have others := adds_loop items count (index + 1) fun k inside => turns k (by omega)
      exact (turns index (by omega)).bind others

theorem adds_staticItem (item : String) (fact : StaticFact) :
    Adds none [⟨item, fact⟩] [] (addStaticItem item fact) := by
  intro flow heldStatics heldDyns holds room _
  have inside : (heldStatics.map some).length < maxNumSteps + 1 := by
    rw [List.length_map]
    rw [List.length_append] at room
    exact room
  obtain ⟨grown, pushed, held⟩ := holds.statics.push inside (by decide)
    (fun _ => some ⟨item, fact⟩) fun _ => rfl
  refine ⟨{ flow with staticItems := grown }, by rw [addStaticItem, pushed], ⟨?_, ?_⟩, rfl⟩
  · rw [List.map_append]
    exact held
  · rw [List.append_nil]
    exact holds.dyns

theorem adds_dynItem {store : StoredItem → StoredItem} {item : DynamicItem}
    (stored : ∀ older, (store older).item = item) : Adds none [] [item] (addDynItem store) := by
  intro flow heldStatics heldDyns holds _ room
  rw [List.length_append] at room
  obtain ⟨grown, pushed, held⟩ := holds.dyns.push room (by decide) store stored
  refine ⟨{ flow with dynItems := grown }, by rw [addDynItem, pushed], ⟨?_, held⟩, rfl⟩
  rw [List.append_nil]
  exact holds.statics

theorem adds_reviewTexts (longPressText title : String) :
    Adds (some (longPressText, title)) [] [] (setReviewTexts longPressText title) := by
  intro flow heldStatics heldDyns holds _ _
  refine ⟨_, rfl, ?_, rfl⟩
  rw [List.append_nil, List.append_nil]
  exact ⟨holds.statics, holds.dyns⟩

/-! ## The pairs that are filled in -/

theorem adds_scriptItems (tx : Transaction) :
    Adds (some ((scriptReview tx).longPressText, (scriptReview tx).title)) (scriptReview tx).items []
      (addScriptItems tx) := by
  rw [addScriptItems, scriptReview]
  cases tx.isVoteScript with
  | true => cases tx.isRemoveVote <;> exact adds_reviewTexts _ _
  | false =>
      cases tx.isSystemAssetTransfer with
      | false => exact adds_reviewTexts _ _
      | true =>
          cases tx.isNeo
          all_goals
            exact (adds_staticItem _ _).bind ((adds_staticItem _ _).bind (adds_reviewTexts _ _))

theorem adds_commonItems :
    Adds none
      [⟨"Target network", .network⟩, ⟨"System fee", .systemFee⟩, ⟨"Network fee", .networkFee⟩,
        ⟨"Total fees", .totalFees⟩, ⟨"Valid until height", .validUntilBlock⟩,
        ⟨"Script hash", .scriptHash⟩] [] addCommonItems :=
  (adds_staticItem _ _).bind <| (adds_staticItem _ _).bind <| (adds_staticItem _ _).bind <|
    (adds_staticItem _ _).bind <| (adds_staticItem _ _).bind (adds_staticItem _ _)

theorem adds_signerItem {i : Nat} (small : i < 256) (kind : StoredKind) {item : ItemKind}
    (same : ∀ entryIndex, kind.itemKind entryIndex = item) :
    Adds none [] [⟨item, i⟩] (addSignerItem kind i) :=
  adds_dynItem fun _ => congrArg₂ DynamicItem.mk (same _) (UInt8.toNat_ofNat_of_lt' small)

theorem adds_entryItem {i j : Nat} (small : i < 256) (few : j < 256) (kind : StoredKind) :
    Adds none [] [⟨kind.itemKind j, i⟩] (addEntryItem kind i j) := by
  refine adds_dynItem fun _ => congrArg₂ DynamicItem.mk ?_ (UInt8.toNat_ofNat_of_lt' small)
  exact congrArg kind.itemKind (UInt8.toNat_ofNat_of_lt' few)

/-- The entries of a list are added in order. -/
theorem adds_entryItems {i : Nat} (small : i < 256) (kind : StoredKind) (size : UInt8) :
    Adds none [] ((List.range size.toNat).map fun j => ⟨kind.itemKind j, i⟩)
      (loop (addEntryItem kind i) size.toNat 0) := by
  have below := size.toNat_lt
  have added := adds_loop (fun j => [⟨kind.itemKind j, i⟩]) size.toNat 0 fun j inside =>
    adds_entryItem small (by omega) kind
  rwa [← List.map_eq_flatMap, ← List.range_eq_range'] at added

theorem adds_signerItems {i : Nat} (present : i < maxTxSigners) :
    Adds none [] (signerItems tx i) (addSignerItems tx i) := by
  have small : i < 256 := Nat.lt_trans present (by decide)
  have found : tx.signers[i]? = some tx.signers[i] := Vector.getElem?_eq_getElem present
  rw [addSignerItems, signerItems, found]
  have contracts := adds_entryItems small .contract tx.signers[i].allowedContractsSize
  have groups := adds_entryItems small .group tx.signers[i].allowedGroupsSize
  exact (adds_signerItem small .signer fun _ => rfl).bind
    ((adds_signerItem small .account fun _ => rfl).bind
      ((adds_signerItem small .scope fun _ => rfl).bind (contracts.bind groups)))

theorem length_staticItems_le (tx : Transaction) : (staticItems tx).length ≤ 8 := by
  rw [staticItems, List.length_append, scriptReview]
  cases tx.isVoteScript <;> cases tx.isRemoveVote <;> cases tx.isSystemAssetTransfer <;>
    cases tx.isNeo <;> decide

/-- **The arrays are filled with the pairs of the review**, whatever an earlier
review has left in them. -/
theorem createTransactionFlow_fills (few : tx.signersSize.toNat ≤ maxTxSigners)
    (room : (dynItems tx).length ≤ maxDynItems) (flow : TransactionFlow) :
    ∃ filled, createTransactionFlow tx flow = .next () filled ∧
      filled.Holds (staticItems tx) (dynItems tx) ∧
      filled.texts = (some (scriptReview tx).longPressText, some (scriptReview tx).title) := by
  have cleared : TransactionFlow.Holds { flow with
      staticItems := flow.staticItems.clear, dynItems := flow.dynItems.clear } [] [] :=
    ⟨CountedArray.holds_clear _, CountedArray.holds_clear _⟩
  have signers := adds_loop (signerItems tx) tx.signersSize.toNat 0 fun i inside =>
    adds_signerItems (by omega)
  rw [← List.range_eq_range'] at signers
  have all := (adds_scriptItems tx).bind (adds_commonItems.bind signers)
  have short := (length_staticItems_le tx).trans (by decide : 8 ≤ maxNumSteps + 1)
  exact all _ _ _ cleared short room

end Nbgl

end AppNeo3

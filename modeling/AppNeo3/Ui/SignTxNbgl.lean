import AppNeo3.Ui.SignTxCommon

/-!
# The transaction review of the devices with touch screens

`sign_tx_nbgl.c`: a review is a list of pairs of a title and a text. The first
pairs show fixed texts, the others the items of the signers, which are formatted
when the screen asks for them, each into the slot that its index is given.
-/

set_option autoImplicit false

namespace AppNeo3

/-- `item_kind_t`, with the index of a contract or a group. -/
inductive ItemKind where
  | signer
  | account
  | scope
  | contract (contractIndex : Nat)
  | group (groupIndex : Nat)
deriving DecidableEq

/-- `dynamic_item_t`. -/
structure DynamicItem where
  kind : ItemKind
  signerIndex : Nat
deriving DecidableEq

/-- A title and the fact whose text is its value. -/
structure StaticItem where
  item : String
  fact : StaticFact
deriving DecidableEq

namespace Nbgl

/-- The titles of a review and the fixed pairs about a recognised script. -/
structure ScriptReview where
  longPressText : String
  title : String
  items : List StaticItem

def scriptReview (tx : Transaction) : ScriptReview :=
  if tx.isVoteScript then
    if tx.isRemoveVote then
      ⟨"Sign transaction to\nretract vote?", "Review transaction to\nretract vote", []⟩
    else ⟨"Sign transaction to\ncast vote?", "Review transaction to\ncast vote", []⟩
  else if tx.isSystemAssetTransfer then
    let items := [⟨"To", .dstAddress⟩, ⟨"Token amount", .tokenAmount⟩]
    if tx.isNeo then
      ⟨"Sign transaction to\nsend NEO?", "Review transaction to\nsend NEO", items⟩
    else ⟨"Sign transaction to\nsend GAS?", "Review transaction to\nsend GAS", items⟩
  else ⟨"Sign script?", "Review transaction\nto sign script", []⟩

/-- The fixed pairs of a review. -/
def staticItems (tx : Transaction) : List StaticItem :=
  (scriptReview tx).items ++
    [⟨"Target network", .network⟩, ⟨"System fee", .systemFee⟩, ⟨"Network fee", .networkFee⟩,
      ⟨"Total fees", .totalFees⟩, ⟨"Valid until height", .validUntilBlock⟩,
      ⟨"Script hash", .scriptHash⟩]

/-- The items of a signer. -/
def signerItems (tx : Transaction) (i : Nat) : List DynamicItem :=
  let signer := tx.signers[i]?.getD .zero
  [⟨.signer, i⟩, ⟨.account, i⟩, ⟨.scope, i⟩] ++
    (List.range signer.allowedContractsSize.toNat).map (fun j => ⟨.contract j, i⟩) ++
    (List.range signer.allowedGroupsSize.toNat).map fun j => ⟨.group j, i⟩

/-- The items of all signers. -/
def dynItems (tx : Transaction) : List DynamicItem :=
  (List.range tx.signersSize.toNat).flatMap (signerItems tx)

variable (sdk : Sdk) (storage : InternalStorage) (rawTx : List UInt8) (tx : Transaction)

/-- Format an item into a slot. -/
def formatTagValue (item : DynamicItem) (slot : DynamicSlot) : Option DynamicSlot :=
  let s := tx.signers[item.signerIndex]?.getD .zero
  match item.kind with
  | .signer => some (formatSigner item.signerIndex tx.signersSize.toNat slot)
  | .account => formatAccount sdk storage rawTx s slot
  | .scope => some (formatScope s slot)
  | .contract contractIndex => formatContract sdk rawTx s contractIndex slot
  | .group groupIndex => formatGroup sdk rawTx s groupIndex slot

/-- The pair of an index, and the slots after it has been fetched. -/
def getSingleActionReviewPair (g : GlobalItemStorage) (index : Nat) (slots : List DynamicSlot) :
    Option ((List Char × List Char) × List DynamicSlot) :=
  if index < (staticItems tx).length then
    (staticItems tx)[index]?.map fun item => ((item.item.toList, g.shown item.fact), slots)
  else do
    let item ← (dynItems tx)[index - (staticItems tx).length]?
    let slot ← slots[index % slots.length]?
    let filled ← formatTagValue sdk storage rawTx tx item slot
    some (filled.shown, slots.set (index % slots.length) filled)

/-- The screen that a review opens with. -/
inductive Screen where
  | refusal
  | review (title longPressText : String) (items : List StaticItem) (dynItems : List DynamicItem)
deriving DecidableEq

def startSignTxUi : Screen :=
  if scriptRefused tx storage then .refusal
  else
    .review (scriptReview tx).title (scriptReview tx).longPressText (staticItems tx) (dynItems tx)

/-- The facts that a screen shows, in order. -/
def Screen.facts : Screen → List StaticFact
  | .refusal => []
  | .review _ _ items _ => items.map StaticItem.fact

/-- Only a review can be approved. -/
def Screen.approvable : Screen → Bool
  | .refusal => false
  | .review .. => true

/-- **A screen can be approved unless the script is refused.** -/
theorem approvable_startSignTxUi :
    (startSignTxUi storage tx).approvable = !scriptRefused tx storage := by
  rw [startSignTxUi]
  cases scriptRefused tx storage <;> rfl

end Nbgl

end AppNeo3

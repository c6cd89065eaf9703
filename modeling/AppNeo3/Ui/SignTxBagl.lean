import AppNeo3.Ui.SignTxCommon

/-!
# The transaction review of the devices with buttons

`sign_tx_bagl.c`: the flow of a review is an array of steps. A step shows one of
the fixed texts, stands for the screens of the signers, or calls the validation
with the decision of the user.

The screens of the signers share one step. A cursor says which of them it shows:
a signer, a property of it, and the places in its lists of contracts and of
groups, which are -1 before the first entry and the size of the list after the
last. The steps on both sides of the shared one move the cursor when the user
enters them.
-/

set_option autoImplicit false

namespace AppNeo3

/-- The steps of a flow. -/
inductive FlowStep where
  | review
  | dstAddress
  | tokenAmount
  | systemfee
  | network
  | networkfee
  | totalFee
  | validuntilblock
  | script
  | noArbitraryScript
  | abort
  | voteTo
  | voteRetract
  | upperDelimiter
  | generic
  | lowerDelimiter
  | approve
  | reject
deriving DecidableEq

/-- The title of a step and the fact whose text it shows. -/
def FlowStep.fact : FlowStep → Option (String × StaticFact)
  | .dstAddress => some ("Destination addr", .dstAddress)
  | .tokenAmount => some ("Token amount", .tokenAmount)
  | .systemfee => some ("System fee", .systemFee)
  | .network => some ("Target network", .network)
  | .networkfee => some ("Network fee", .networkFee)
  | .totalFee => some ("Total fees", .totalFees)
  | .validuntilblock => some ("Valid until height", .validUntilBlock)
  | .script => some ("Script hash", .scriptHash)
  | .voteTo => some ("Casting vote for", .voteTo)
  | _ => none

/-- The decision that the button of a step reports. -/
def FlowStep.decision : FlowStep → Option Bool
  | .approve => some true
  | .reject | .abort => some false
  | _ => none

namespace Bagl

/-- The steps that are added for some transactions only. -/
def stepsWhen (condition : Bool) (steps : List FlowStep) : List FlowStep :=
  if condition then steps else []

/-- The steps about a recognised script. -/
def scriptSteps (tx : Transaction) : List FlowStep :=
  if tx.isVoteScript then if tx.isRemoveVote then [.voteRetract] else [.voteTo]
  else stepsWhen tx.isSystemAssetTransfer [.dstAddress, .tokenAmount]

def createTransactionFlow (tx : Transaction) (storage : InternalStorage) : List FlowStep :=
  if scriptRefused tx storage then [.noArbitraryScript, .abort]
  else
    .review :: scriptSteps tx ++ [.network, .systemfee, .networkfee, .totalFee, .validuntilblock] ++
      stepsWhen (storage.showScriptHash != 0) [.script] ++
      [.upperDelimiter, .generic, .lowerDelimiter, .approve, .reject]

/-- The facts that a review shows, in order. -/
def facts (tx : Transaction) (storage : InternalStorage) : List StaticFact :=
  (createTransactionFlow tx storage).filterMap fun step => step.fact.map Prod.snd

/-- **A flow can be approved unless the script is refused.** -/
theorem approve_mem_iff (tx : Transaction) (storage : InternalStorage) :
    FlowStep.approve ∈ createTransactionFlow tx storage ↔ scriptRefused tx storage = false := by
  rw [createTransactionFlow]
  cases scriptRefused tx storage with
  | true => exact ⟨fun member => absurd member (by simp), nofun⟩
  | false => exact ⟨fun _ => rfl, fun _ => by simp⟩

/-- Every flow ends with a step that reports a refusal. -/
theorem decision_getLast (tx : Transaction) (storage : InternalStorage) :
    (createTransactionFlow tx storage).getLast?.bind FlowStep.decision = some false := by
  rw [createTransactionFlow]
  cases scriptRefused tx storage with
  | true => rfl
  | false =>
      rw [if_neg Bool.false_ne_true, List.getLast?_append]
      rfl

/-- The array of the steps has room for every flow and its end. -/
theorem length_createTransactionFlow (tx : Transaction) (storage : InternalStorage) :
    (createTransactionFlow tx storage).length + 1 ≤ 15 := by
  rw [createTransactionFlow, scriptSteps, stepsWhen, stepsWhen]
  split
  · decide
  · simp only [List.length_append, List.length_cons, List.length_nil]
    split_ifs <;> simp

/-! ## The cursor of the signers -/

/-- `e_signer_state`. -/
inductive SignerState where
  | start
  | index
  | account
  | scope
  | contracts
  | groups
  | end
deriving DecidableEq

/-- The next state, up to the contracts. -/
def SignerState.advance : SignerState → SignerState
  | .start => .index
  | .index => .account
  | .account => .scope
  | .scope => .contracts
  | state => state

/-- The state before. There is none before the first entry of the table. -/
def SignerState.pred : SignerState → Option SignerState
  | .start => none
  | .index => some .start
  | .account => some .index
  | .scope => some .account
  | .contracts => some .scope
  | .groups => some .contracts
  | .end => some .groups

/-- The indices of `display_ctx_t`. -/
structure SignerCursor where
  sIndex : Nat
  pIndex : SignerState
  cIndex : Int
  gIndex : Int
deriving DecidableEq

section Moves

variable (tx : Transaction)

/-- The last part of `next_prop`: the next signer, if there is one. -/
def nextSigner (again : SignerCursor → Option SignerCursor) (c : SignerCursor) :
    Option SignerCursor :=
  if c.pIndex = .end then
    if c.sIndex + 1 = tx.signersSize.toNat then some c
    else again ⟨c.sIndex + 1, .start, -1, -1⟩
  else some c

def nextGroup (signer : Signer) (again : SignerCursor → Option SignerCursor) (c : SignerCursor) :
    Option SignerCursor :=
  if c.pIndex = .groups then
    if c.gIndex + 1 < signer.allowedGroupsSize.toNat then some { c with gIndex := c.gIndex + 1 }
    else nextSigner tx again { c with gIndex := c.gIndex + 1, pIndex := .end }
  else nextSigner tx again c

def nextContract (signer : Signer) (again : SignerCursor → Option SignerCursor)
    (c : SignerCursor) : Option SignerCursor :=
  if c.pIndex = .contracts then
    if c.cIndex + 1 < signer.allowedContractsSize.toNat then
      some { c with cIndex := c.cIndex + 1 }
    else nextGroup tx signer again { c with cIndex := c.cIndex + 1, pIndex := .groups }
  else nextGroup tx signer again c

/-- Move forward, with calls nested up to a depth. -/
def nextProp : Nat → SignerCursor → Option SignerCursor
  | 0, _ => none
  | depth + 1, c => do
      let signer ← tx.signers[c.sIndex]?
      nextContract tx signer (nextProp depth) { c with pIndex := c.pIndex.advance }

/-- The last part of `prev_prop`: the state before, and from the first one the end of
the signer before, if there is one. -/
def prevSigner (again : SignerCursor → Option SignerCursor) (c : SignerCursor) :
    Option SignerCursor := do
  let state ← c.pIndex.pred
  if state = .start then
    if 0 < c.sIndex then
      let signer ← tx.signers[c.sIndex - 1]?
      again ⟨c.sIndex - 1, .end, signer.allowedContractsSize.toNat,
        signer.allowedGroupsSize.toNat⟩
    else some { c with pIndex := state }
  else some { c with pIndex := state }

def prevContract (again : SignerCursor → Option SignerCursor) (c : SignerCursor) :
    Option SignerCursor :=
  if c.pIndex = .contracts then
    if c.cIndex > 0 then some { c with cIndex := c.cIndex - 1 }
    else prevSigner tx again { c with cIndex := c.cIndex - 1 }
  else prevSigner tx again c

def prevGroup (again : SignerCursor → Option SignerCursor) (c : SignerCursor) :
    Option SignerCursor :=
  if c.pIndex = .groups then
    if c.gIndex > 0 then some { c with gIndex := c.gIndex - 1 }
    else prevContract tx again { c with gIndex := c.gIndex - 1, pIndex := .contracts }
  else prevContract tx again c

/-- Move backward, with calls nested up to a depth. -/
def prevProp : Nat → SignerCursor → Option SignerCursor
  | 0, _ => none
  | depth + 1, c =>
      if c.sIndex = 0 ∧ c.pIndex = .index then some { c with pIndex := .start }
      else
        prevGroup tx (prevProp depth)
          (if c.pIndex = .end then { c with pIndex := .groups } else c)

variable {tx}

theorem nextContract_congr {signer : Signer} {first second : SignerCursor → Option SignerCursor}
    (same : ∀ i, first ⟨i, .start, -1, -1⟩ = second ⟨i, .start, -1, -1⟩) (c : SignerCursor) :
    nextContract tx signer first c = nextContract tx signer second c := by
  have next : nextSigner tx first = nextSigner tx second := by
    funext c
    rw [nextSigner, nextSigner, same]
  have group : nextGroup tx signer first = nextGroup tx signer second := by
    funext c
    rw [nextGroup, nextGroup, next]
  rw [nextContract, nextContract, group]

/-- **A move forward nests at most one call.** -/
theorem nextProp_depth (depth : Nat) (c : SignerCursor) :
    nextProp tx (depth + 2) c = nextProp tx 2 c := by
  have inner : ∀ i, nextProp tx (depth + 1) ⟨i, .start, -1, -1⟩ =
      nextProp tx 1 ⟨i, .start, -1, -1⟩ := fun _ => rfl
  rw [nextProp, nextProp]
  refine congrArg (Option.bind _) (funext fun signer => ?_)
  exact nextContract_congr inner _

theorem prevGroup_congr {first second : SignerCursor → Option SignerCursor}
    (same : ∀ i c g, first ⟨i, .end, c, g⟩ = second ⟨i, .end, c, g⟩) (c : SignerCursor) :
    prevGroup tx first c = prevGroup tx second c := by
  have prev : prevSigner tx first = prevSigner tx second := by
    funext c
    simp only [prevSigner, same]
  have contract : prevContract tx first = prevContract tx second := by
    funext c
    rw [prevContract, prevContract, prev]
  rw [prevGroup, prevGroup, contract]

/-- **A move backward nests at most one call.** -/
theorem prevProp_depth (depth : Nat) (c : SignerCursor) :
    prevProp tx (depth + 2) c = prevProp tx 2 c := by
  have inner : ∀ i c g, prevProp tx (depth + 1) ⟨i, .end, c, g⟩ =
      prevProp tx 1 ⟨i, .end, c, g⟩ := by
    intro i c g
    rw [prevProp, prevProp, prevGroup, prevGroup, prevContract, prevContract]
    rfl
  rw [prevProp, prevProp, prevGroup_congr inner]

end Moves

inductive Direction where
  | forward
  | backward
deriving DecidableEq

/-- Move the cursor. A call nests at most one other (`nextProp_depth`, `prevProp_depth`). -/
def Direction.move (tx : Transaction) : Direction → SignerCursor → Option SignerCursor
  | .forward => nextProp tx 2
  | .backward => prevProp tx 2

/-- The cursor and the slot that its screen is formatted in. -/
structure SignerView where
  cursor : SignerCursor
  slot : DynamicSlot
deriving DecidableEq

/-- An 8-bit index that is passed as an unsigned number. -/
def unsigned (index : Int) : Nat := (index % 256).toNat

section Screens

variable (sdk : Sdk) (storage : InternalStorage) (rawTx : List UInt8) (tx : Transaction)

/-- Move the cursor and format its screen, if it has one. -/
def getNextData (direction : Direction) (view : SignerView) : Option (Bool × SignerView) := do
  let c ← direction.move tx view.cursor
  let s ← tx.signers[c.sIndex]?
  if c.sIndex = tx.signersSize.toNat ∧ c.pIndex = .end then some (false, ⟨c, view.slot⟩)
  else
    match c.pIndex with
    | .start => some (false, ⟨c, view.slot⟩)
    | .index => some (true, ⟨c, formatSigner c.sIndex tx.signersSize.toNat view.slot⟩)
    | .account =>
        (formatAccount sdk storage rawTx s view.slot).map fun slot => (true, ⟨c, slot⟩)
    | .scope => some (true, ⟨c, formatScope s view.slot⟩)
    | .contracts =>
        (formatContract sdk rawTx s (unsigned c.cIndex) view.slot).map fun slot =>
          (true, ⟨c, slot⟩)
    | .groups =>
        (formatGroup sdk rawTx s (unsigned c.gIndex) view.slot).map fun slot => (true, ⟨c, slot⟩)
    | .end => some (false, ⟨c, view.slot⟩)

/-- `e_state`. -/
inductive ScreenState where
  | staticScreen
  | dynamicScreen
deriving DecidableEq

/-- The state of the display and what the shared step shows. -/
structure SignerDisplay where
  currentState : ScreenState
  view : SignerView
deriving DecidableEq

/-- The display at the start of a review; the slot is not cleared. -/
def resetSignerDisplayState (slot : DynamicSlot) : SignerDisplay :=
  ⟨.staticScreen, ⟨⟨0, .start, -1, -1⟩, slot⟩⟩

/-- What the flow is told to show next. -/
inductive UxMove where
  | next
  | prev
  | pagingEdgecase
deriving DecidableEq

/-- A delimiter is entered. -/
def displayNextState (isUpperDelimiter : Bool) (display : SignerDisplay) :
    Option (UxMove × SignerDisplay) :=
  if isUpperDelimiter then
    if display.currentState = .staticScreen then do
      let (dynamicData, view) ← getNextData sdk storage rawTx tx .forward display.view
      some (.next, ⟨if dynamicData then .dynamicScreen else display.currentState, view⟩)
    else do
      let (dynamicData, view) ← getNextData sdk storage rawTx tx .backward display.view
      if dynamicData then some (.next, ⟨display.currentState, view⟩)
      else some (.prev, ⟨.staticScreen, view⟩)
  else
    if display.currentState = .staticScreen then do
      let (dynamicData, view) ← getNextData sdk storage rawTx tx .backward display.view
      some (.prev, ⟨if dynamicData then .dynamicScreen else display.currentState, view⟩)
    else do
      let (dynamicData, view) ← getNextData sdk storage rawTx tx .forward display.view
      if dynamicData then some (.pagingEdgecase, ⟨display.currentState, view⟩)
      else some (.next, ⟨.staticScreen, view⟩)

end Screens

end Bagl

end AppNeo3

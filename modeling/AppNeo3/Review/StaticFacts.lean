import AppNeo3.Review.TokenAmount
import AppNeo3.Ui.SignTxBagl
import AppNeo3.Ui.SignTxNbgl

/-!
# The facts of a transaction on both kinds of devices

Both user interfaces show fixed facts of a transaction before it can be
approved. The flow of the devices with buttons shows the facts that the
transaction and the settings call for. The pairs of the devices with touch
screens leave out the candidate of a vote and always include the script hash. So
the two agree exactly when no candidate is voted for and the setting asks for the
script hash (`staticFacts_agree_iff`).
-/

set_option autoImplicit false

namespace AppNeo3

open Memory CText CBody

/-- The facts that a transaction and the settings call for. -/
def expectedFacts (tx : Transaction) (storage : InternalStorage) : List StaticFact :=
  (if tx.isSystemAssetTransfer then [.dstAddress, .tokenAmount] else []) ++
    (if tx.isVoteScript && !tx.isRemoveVote then [.voteTo] else []) ++
    [.network, .systemFee, .networkFee, .totalFees, .validUntilBlock] ++
    if storage.showScriptHash ≠ 0 then [.scriptHash] else []

/-- Facts with the strings that state them. -/
def stated (g : GlobalItemStorage) (facts : List StaticFact) : List (StaticFact × List Char) :=
  facts.map fun fact => (fact, g.shown fact)

/-- Both user interfaces show the facts called for, with the same strings. -/
structure SameFacts (tx : Transaction) (storage : InternalStorage) (g : GlobalItemStorage) :
    Prop where
  expected : ∀ shown, shown ∈ stated g (Bagl.facts tx storage) ↔
    shown ∈ stated g (expectedFacts tx storage)
  same : ∀ shown, shown ∈ stated g (Bagl.facts tx storage) ↔
    shown ∈ stated g (Nbgl.startSignTxUi storage tx).facts

theorem mem_stated_iff {g : GlobalItemStorage} {fact : StaticFact} {shown : List Char}
    {facts : List StaticFact} :
    (fact, shown) ∈ stated g facts ↔ fact ∈ facts ∧ shown = g.shown fact := by
  rw [stated, List.mem_map]
  constructor
  · rintro ⟨_, member, same⟩
    cases same
    exact ⟨member, rfl⟩
  · rintro ⟨member, rfl⟩
    exact ⟨fact, member, rfl⟩

/-- Two lists of facts are stated alike when they are of the same facts. -/
theorem stated_alike_iff {g : GlobalItemStorage} {first second : List StaticFact} :
    (∀ shown, shown ∈ stated g first ↔ shown ∈ stated g second) ↔
      ∀ fact, fact ∈ first ↔ fact ∈ second := by
  constructor
  · intro alike fact
    have here := alike (fact, g.shown fact)
    rw [mem_stated_iff, mem_stated_iff, and_iff_left rfl, and_iff_left rfl] at here
    exact here
  · rintro alike ⟨fact, shown⟩
    rw [mem_stated_iff, mem_stated_iff, alike]

variable {tx : Transaction} {storage : InternalStorage}

/-- The flow of the devices with buttons shows the facts called for. -/
theorem bagl_facts (accepted : scriptRefused tx storage = false)
    (exclusive : tx.isSystemAssetTransfer = true → tx.isVoteScript = false) (fact : StaticFact) :
    fact ∈ Bagl.facts tx storage ↔ fact ∈ expectedFacts tx storage := by
  rw [Bagl.facts, Bagl.createTransactionFlow, accepted, expectedFacts, Bagl.scriptSteps]
  cases transfer : tx.isSystemAssetTransfer with
  | true =>
      rw [exclusive transfer]
      by_cases hash : storage.showScriptHash = 0 <;>
        simp [hash, Bagl.stepsWhen, FlowStep.fact]
  | false =>
      by_cases hash : storage.showScriptHash = 0 <;>
        cases tx.isVoteScript <;> cases tx.isRemoveVote <;>
        simp [hash, Bagl.stepsWhen, FlowStep.fact]

/-- The facts of the pairs of the devices with touch screens. -/
theorem nbgl_facts (accepted : scriptRefused tx storage = false)
    (exclusive : tx.isSystemAssetTransfer = true → tx.isVoteScript = false) (fact : StaticFact) :
    fact ∈ (Nbgl.startSignTxUi storage tx).facts ↔
      fact = .scriptHash ∨ fact ≠ .voteTo ∧ fact ∈ expectedFacts tx storage := by
  rw [Nbgl.startSignTxUi, accepted, expectedFacts]
  cases transfer : tx.isSystemAssetTransfer with
  | true =>
      have noVote := exclusive transfer
      cases neo : tx.isNeo <;> by_cases hash : storage.showScriptHash = 0 <;> cases fact <;>
        simp [hash, noVote, neo, transfer, Nbgl.Screen.facts, Nbgl.staticItems,
          Nbgl.scriptReview]
  | false =>
      by_cases hash : storage.showScriptHash = 0 <;>
        cases vote : tx.isVoteScript <;> cases remove : tx.isRemoveVote <;> cases fact <;>
        simp [hash, vote, remove, transfer, Nbgl.Screen.facts, Nbgl.staticItems,
          Nbgl.scriptReview]

/-- No candidate is voted for, and the script hash is to be shown. -/
def FactsAgree (tx : Transaction) (storage : InternalStorage) : Prop :=
  ¬ (tx.isVoteScript = true ∧ tx.isRemoveVote = false) ∧ storage.showScriptHash ≠ 0

theorem mem_expectedFacts_voteTo :
    StaticFact.voteTo ∈ expectedFacts tx storage ↔
      tx.isVoteScript = true ∧ tx.isRemoveVote = false := by
  rw [expectedFacts]
  cases tx.isSystemAssetTransfer <;> by_cases hash : storage.showScriptHash = 0 <;>
    cases tx.isVoteScript <;> cases tx.isRemoveVote <;> simp [hash]

theorem mem_expectedFacts_scriptHash :
    StaticFact.scriptHash ∈ expectedFacts tx storage ↔ storage.showScriptHash ≠ 0 := by
  rw [expectedFacts]
  cases tx.isSystemAssetTransfer <;> by_cases hash : storage.showScriptHash = 0 <;>
    cases tx.isVoteScript <;> cases tx.isRemoveVote <;> simp [hash]

theorem sameFacts_iff (accepted : scriptRefused tx storage = false)
    (exclusive : tx.isSystemAssetTransfer = true → tx.isVoteScript = false)
    (g : GlobalItemStorage) : SameFacts tx storage g ↔ FactsAgree tx storage := by
  have bagl := bagl_facts accepted exclusive
  have nbgl := nbgl_facts accepted exclusive
  constructor
  · rintro ⟨_, same⟩
    have alike := stated_alike_iff.mp same
    refine ⟨fun votes => ?_, ?_⟩
    · have shown := (alike .voteTo).mp ((bagl _).mpr (mem_expectedFacts_voteTo.mpr votes))
      rcases (nbgl _).mp shown with other | ⟨other, _⟩
      · cases other
      · exact other rfl
    · have shown := (alike .scriptHash).mpr ((nbgl _).mpr (.inl rfl))
      exact mem_expectedFacts_scriptHash.mp ((bagl _).mp shown)
  · rintro ⟨noVote, hash⟩
    refine ⟨stated_alike_iff.mpr bagl, stated_alike_iff.mpr fun fact => ?_⟩
    rw [bagl, nbgl]
    constructor
    · intro member
      by_cases vote : fact = .voteTo
      · exact absurd (mem_expectedFacts_voteTo.mp (vote ▸ member)) noVote
      · exact .inr ⟨vote, member⟩
    · rintro (rfl | ⟨_, member⟩)
      · exact mem_expectedFacts_scriptHash.mpr hash
      · exact member

variable {sdk : Sdk}

/-- The text of the candidate of a vote. -/
theorem text_voteTo {ctx : GlobalCtx} {g : GlobalItemStorage}
    (vote : ctx.txInfo.transaction.isVoteScript = true)
    (cast : ctx.txInfo.transaction.isRemoveVote = false) :
    (reviewTexts sdk ctx g).shown .voteTo = hexText ctx.txInfo.transaction.voteTo.cells := by
  have texts : (reviewTexts sdk ctx g).voteTo =
      (sdk.formatHex ctx.txInfo.transaction.voteTo.cells (Area.fill _ nul)).2 := by
    rw [reviewTexts, vote, cast]
    rfl
  rw [GlobalItemStorage.shown, texts]
  exact Sdk.text_formatHex (by rw [Area.size_eq]; decide)

/-! ## The exact condition -/

/-- **The two user interfaces show the same facts exactly when no candidate is
voted for and the script hash is to be shown.** -/
theorem staticFacts_agree_iff (sdk : Sdk) {b : List UInt8} (parses : Parses sdk b tx)
    (accepted : scriptRefused tx storage = false) :
    ∀ ctx : GlobalCtx, ctx.txInfo.transaction = tx → ∀ g, ∃ g',
      startSignTx sdk ctx g = .next () g' ∧
      (SameFacts tx storage g' ↔ FactsAgree tx storage) :=
  fun ctx _ g => ⟨_, startSignTx_run ctx g, sameFacts_iff accepted parses.not_vote _⟩

/-- A transfer under the setting that asks for the script hash. -/
theorem staticFacts_agree_transfer :
    let tx := (TransferImage.ofAmount (.push 5)).transaction.parsed Sdk.reference
    ∃ g', startSignTx Sdk.reference (.ofTransaction tx) .zero = .next () g' ∧
      SameFacts tx ⟨0, 1, 0⟩ g' := by
  intro tx
  have parses := @TransferImage.transaction_parses Sdk.reference (.ofAmount (.push 5))
  have transfer := @TransferImage.transaction_flag Sdk.reference (.ofAmount (.push 5))
  have noVote := parses.not_vote transfer
  have accepted : scriptRefused tx ⟨0, 1, 0⟩ = false := by
    rw [scriptRefused, transfer]
    rfl
  obtain ⟨g', ran, same⟩ := staticFacts_agree_iff Sdk.reference parses accepted
    (.ofTransaction tx) rfl .zero
  refine ⟨g', ran, same.mpr ⟨fun votes => ?_, nofun⟩⟩
  rw [noVote] at votes
  exact absurd votes.1 (by decide)

/-- **A vote is approved unseen on a touch screen.** The candidate of a vote is
shown by the devices with buttons only. -/
theorem staticFacts_vote_missing :
    let vote := VoteImage.ofKey ⟨0x02 :: List.replicate 32 0, rfl⟩ (.inl rfl)
    let tx := vote.transaction.parsed Sdk.reference
    let storage : InternalStorage := ⟨0, 1, 0⟩
    Parses Sdk.reference vote.transaction.bytes tx ∧ scriptRefused tx storage = false ∧
      ∃ g', startSignTx Sdk.reference (.ofTransaction tx) .zero = .next () g' ∧
        (.voteTo, hexText tx.voteTo.cells) ∈ stated g' (Bagl.facts tx storage) ∧
        .voteTo ∉ (Nbgl.startSignTxUi storage tx).facts ∧ ¬ SameFacts tx storage g' := by
  intro vote tx storage
  have parses : Parses Sdk.reference vote.transaction.bytes tx := vote.transaction_parses
  have script : tx.scriptBytes vote.transaction.bytes = vote.bytes := vote.transaction_script
  have isVote : tx.isVoteScript = true := parses.vote_iff.mpr ⟨vote, script⟩
  have cast : tx.isRemoveVote = false := (parses.vote_fields script).1
  have accepted : scriptRefused tx storage = false := by
    rw [scriptRefused, isVote, Bool.not_true, Bool.and_false, Bool.false_and]
  -- Only the fields of the transaction are used, not how it was parsed.
  clear_value tx
  have expected := (bagl_facts accepted parses.not_vote _).mpr
    (mem_expectedFacts_voteTo.mpr ⟨isVote, cast⟩)
  have text : hexText tx.voteTo.cells =
      (reviewTexts Sdk.reference (.ofTransaction tx) .zero).shown .voteTo := by
    have written := @text_voteTo Sdk.reference (.ofTransaction tx) .zero isVote cast
    exact written.symm
  refine ⟨parses, accepted, _, startSignTx_run _ _, mem_stated_iff.mpr ⟨expected, text⟩,
    fun shown => ?_, fun same => ?_⟩
  · rcases (nbgl_facts accepted parses.not_vote _).mp shown with other | ⟨other, _⟩
    · cases other
    · exact other rfl
  · exact ((sameFacts_iff accepted parses.not_vote _).mp same).1 ⟨isVote, cast⟩

end AppNeo3

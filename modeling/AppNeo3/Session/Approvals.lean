import AppNeo3.Session.Order
import AppNeo3.Transaction.Recognised

/-!
# What is approved

The callbacks of the reviews read the context as it is when the user decides. While
a review is on the screen, the context holds what the review was built from, unless
a command has wiped it; the magic may also be replaced by a chunk 1
(`run_reviewKept`). So a key that is confirmed is the one whose address was shown,
and a transaction that is signed is the one that was shown, exactly in runs where
no such command comes in between (`address_confirmed`, `transaction_signed`).
-/

set_option autoImplicit false

namespace AppNeo3

open Memory Runs

variable {sdk : Sdk} {build : Build}

/-! ## What a review was built from -/

/-- The context holds what the review was built from; the magic is left out. -/
def Matches (sdk : Sdk) (ctx : GlobalCtx) : Review → Prop
  | .address review => ctx.reqType = .confirmAddress ∧ ctx.rawPublicKey = review.key
  | .transaction review =>
      ctx.txInfo.hash = sdk.sha256 review.built.txInfo.received ∧
        ctx.bip44Path = review.built.bip44Path

/-- The entry leaves another network magic. -/
def Taken.ChangesMagic (entry : Taken) : Prop :=
  entry.after.app.ctx.networkMagic ≠ entry.before.app.ctx.networkMagic

/-- Neither has the context been wiped nor the magic been changed since the newest
review was opened. -/
def Undisturbed : History → Prop :=
  Since Taken.Opens fun entry : Taken => entry.Wipes ∨ entry.ChangesMagic

theorem Undisturbed.unwiped {history : History} (undisturbed : Undisturbed history) :
    Unwiped history :=
  Since.mono (fun _ opens => opens) (fun _ => .inl) undisturbed

/-- What is kept while a review is on the screen. -/
structure ReviewKept (sdk : Sdk) (history : History) (s : Device) : Prop where
  shown : ∀ review, s.pending = some (.address review) →
    review.address = CText.text (shownAddress sdk review.key).cells
  matched : ∀ review, s.pending = some review → Unwiped history → Matches sdk s.app.ctx review
  magic : ∀ review, s.pending = some (.transaction review) → Undisturbed history →
    s.app.ctx.networkMagic = review.built.networkMagic

/-! ## Steps -/

/-- What a review holds when it is opened. -/
def OpenedFrom (sdk : Sdk) (ctx : GlobalCtx) : Review → Prop
  | .address review =>
      Matches sdk ctx (.address review) ∧
        review.address = CText.text (shownAddress sdk review.key).cells
  | .transaction review =>
      Matches sdk ctx (.transaction review) ∧ ctx.networkMagic = review.built.networkMagic

theorem OpenedFrom.matched {ctx : GlobalCtx} {review : Review}
    (opened : OpenedFrom sdk ctx review) : Matches sdk ctx review := by
  cases review with
  | address review => exact opened.1
  | transaction review => exact opened.1

/-- A review that is opened matches the context. -/
theorem Effect.opened {outcomes : CxOutcomes} {app app' : App} {route : Route} {review : Review}
    {handled : Handled} (effect : Effect sdk build outcomes app route handled)
    (done : handled = some (app', .start review)) : OpenedFrom sdk app'.ctx review := by
  cases effect with
  | keyShown accepted gAddress =>
      cases done
      exact ⟨⟨rfl, rfl⟩, rfl⟩
  | reviewOpened part request fits ok fill =>
      cases done
      subst fill
      exact ⟨⟨rfl, rfl⟩, rfl⟩
  | refused sw | version | name | keyRefused path refusal | keySent accepted | keyEnded
  | pathRefused path refusal | pathAccepted accepted | misplaced later request
  | magicRefused request short | magicAccepted request magic | tooLong part request
  | partStored part request fits | parseFailed part request fits failed code
  | reviewEnded part request => cases done

/-- A command that is answered and does not wipe the context leaves it matching. -/
theorem Effect.matches_kept {outcomes : CxOutcomes} {app app' : App} {route : Route} {reply : Reply}
    {handled : Handled} (effect : Effect sdk build outcomes app route handled)
    (done : handled = some (app', .send reply)) (kept : route.wipes = false) {review : Review}
    (matched : Matches sdk app.ctx review) : Matches sdk app'.ctx review := by
  cases effect with
  | refused sw | version | name | misplaced later request | tooLong part request =>
      cases done
      exact matched
  | keyRefused path refusal | keySent accepted | pathRefused path refusal | pathAccepted accepted =>
      cases kept
  | magicRefused request short | magicAccepted request magic | partStored part request fits
  | parseFailed part request fits failed code =>
      cases done
      cases review with
      | address review => exact nomatch matched.1.symm.trans request
      | transaction review => exact matched
  | keyShown accepted gAddress | keyEnded | reviewOpened part request fits ok fill
  | reviewEnded part request => cases done

theorem not_opens_of_none {entry : Taken} (answered : entry.output.answer = none) :
    ¬ entry.Opens := by
  rintro ⟨review, opens⟩
  cases answered.symm.trans opens

/-- A response opens no review. -/
theorem not_opens_of_send {entry : Taken} {reply : Reply}
    (answered : entry.output.answer = some (.send reply)) : ¬ entry.Opens := by
  rintro ⟨review, opens⟩
  cases answered.symm.trans opens

/-- The entry neither opens a review nor wipes the context. -/
theorem Unwiped.kept {history : History} {entry : Taken} {route : Route}
    (unwiped : Unwiped (entry :: history)) (routed : entry.Routed route)
    (unopened : ¬ entry.Opens) : route.wipes = false ∧ Unwiped history := by
  obtain ⟨kept, before⟩ := Since.before unwiped unopened
  exact ⟨Bool.eq_false_of_not_eq_true fun wipes => kept ⟨route, routed, wipes⟩, before⟩

/-- The entry neither opens a review nor changes the magic. -/
theorem Undisturbed.kept {history : History} {entry : Taken}
    (undisturbed : Undisturbed (entry :: history)) (unopened : ¬ entry.Opens) :
    entry.after.app.ctx.networkMagic = entry.before.app.ctx.networkMagic ∧
      Undisturbed history := by
  obtain ⟨kept, before⟩ := Since.before undisturbed unopened
  exact ⟨Classical.not_not.mp (not_or.mp kept).2, before⟩

/-- A device without a review keeps nothing. -/
theorem ReviewKept.of_none {history : History} {s : Device} (pending : s.pending = none) :
    ReviewKept sdk history s where
  shown _ some' := nomatch pending.symm.trans some'
  matched _ some' := nomatch pending.symm.trans some'
  magic _ some' := nomatch pending.symm.trans some'

/-- A step that leaves the review and the context keeps what it was built from. -/
theorem ReviewKept.same {history : History} {s s' : Device} {entry : Taken}
    (kept : ReviewKept sdk history s) (before : entry.before = s) (after : entry.after = s')
    (unopened : ¬ entry.Opens) (pending : s'.pending = s.pending)
    (matched : ∀ review, Unwiped (entry :: history) → Matches sdk s.app.ctx review →
      Matches sdk s'.app.ctx review) : ReviewKept sdk (entry :: history) s' := by
  subst before after
  refine ⟨fun review shown => ?_, fun review shown unwiped => ?_, fun review shown undisturbed => ?_⟩
  · exact kept.shown review (pending.symm.trans shown)
  · have earlier := (Since.before unwiped unopened).2
    exact matched review unwiped (kept.matched review (pending.symm.trans shown) earlier)
  · obtain ⟨magic, earlier⟩ := undisturbed.kept unopened
    exact magic.trans (kept.magic review (pending.symm.trans shown) earlier)

/-- **What a review was built from is kept by a step.** -/
theorem Transition.reviewKept {history : History} {s s' : Device} {event : Event} {output : Output}
    (transition : Transition sdk build s event (s', output)) (kept : ReviewKept sdk history s) :
    ReviewKept sdk (⟨s, event, output, s'⟩ :: history) s' := by
  cases transition with
  | ended effect =>
      exact kept.same rfl rfl (not_opens_of_none rfl) rfl fun _ _ same => same
  | sent effect =>
      refine kept.same rfl rfl (not_opens_of_send rfl) rfl fun review unwiped matched => ?_
      have route := (unwiped.kept rfl (not_opens_of_send rfl)).1
      exact effect.matches_kept rfl route matched
  | opened effect =>
      have opened := effect.opened rfl
      refine ⟨fun review pending => ?_, fun review pending _ => ?_, fun review pending _ => ?_⟩
      · cases pending
        exact opened.2
      · cases pending
        exact opened.matched
      · cases pending
        exact opened.2
  | badLength => exact kept.same rfl rfl (not_opens_of_send rfl) rfl fun _ _ same => same
  | address pending | transaction pending offered validates => exact .of_none rfl
  | setting pending => exact .of_none pending

/-- **In every run, what a review was built from is kept until it is wiped.** -/
theorem run_reviewKept {history : History} {s : Device} (run : Run (device sdk build) history s) :
    ReviewKept sdk history s := by
  induction run with
  | start starts => exact .of_none starts.2.1
  | step run moved kept => exact (step_transition (run_separate run) moved).reviewKept kept

/-! ## Addresses -/

/-- The key that is sent is the one whose address the approved review has shown. -/
def ConfirmsShown (sdk : Sdk) (entry : Taken) : Prop :=
  ∀ review data, entry.Decides true (.address review) →
    entry.output.answer = some (.send ⟨data, .swoSuccess⟩) →
    data = 0x04 :: review.key.cells ∧
      review.address = CText.text (shownAddress sdk review.key).cells

/-- An address is only approved while the context has not been wiped since. -/
def AddressInTurn (entry : Taken) (older : History) : Prop :=
  ∀ review, entry.Decides true (.address review) → Unwiped older

/-- **When the confirmed address is that of the exported key.** -/
theorem address_confirmed (sdk : Sdk) (build : Build) {history : History} {s : Device}
    (run : Run (device sdk build) history s) (turns : Along AddressInTurn history) :
    Along (fun entry _ => ConfirmsShown sdk entry) history := by
  refine @Run.along_steps _ _ _ (device sdk build) AddressInTurn
    (fun entry _ => ConfirmsShown sdk entry) ?_ _ _ run turns
  intro history s event s' output run moved turn review data decides answer
  have kept := run_reviewKept run
  have matched := kept.matched _ decides.2 (turn review decides)
  have shown := kept.shown review decides.2
  obtain ⟨⟨outcomes, decision⟩, pending⟩ := decides
  have transition := step_transition (run_separate run) moved
  simp only at decision pending answer
  subst decision
  cases transition with
  | address pending' =>
      rw [uiActionValidatePubkey, if_pos rfl, App.sendResponsePubkey, matched.2] at answer
      cases answer
      exact ⟨rfl, shown⟩
  | transaction pending' offered validates => cases pending.symm.trans pending'

/-- The device that shows the address of the first path. -/
def Device.showing (s : Device) : Device :=
  let app := s.app.key .reference .success firstPath
  { s with
    app := { app with gAddress := shownAddress .reference app.ctx.rawPublicKey }
    pending := some (.address (app.addressReview .reference)) }

theorem run_show {history : History} {s : Device} (run : Run (device .reference build) history s)
    (running : s.ended = false) :
    Run (device .reference build) (⟨s, .command showCommand .success, ⟨some (.start (.address
      ((s.app.key .reference .success firstPath).addressReview .reference))), none⟩,
      s.showing⟩ :: history) s.showing := by
  refine .step run (step_opened running ?_)
  rw [showCommand, Command.route_getPublicKey]
  exact handle_keyShown _ firstPath_accepted rfl

/-- The address of the first path is approved. -/
theorem address_confirmed_first : ∃ history s, Run (device .reference .bagl) history s ∧
    history.length = 2 ∧ Along (fun entry _ => ConfirmsShown .reference entry) history := by
  have run := Run.step (@run_show .bagl _ _ run_atStart rfl)
    (step_address rfl rfl true CxOutcomes.success)
  refine ⟨_, _, run, rfl, address_confirmed .reference .bagl run ⟨?_, ?_, trivial⟩⟩
  · exact fun review decides => Since.marked ⟨_, rfl⟩
  · rintro review ⟨⟨outcomes, decision⟩, pending⟩
    cases decision

/-- The path of the second address. -/
def secondPath : Bip44Path := #v[bip44Purpose, bip44CoinTypeNeo, 0x80000000, 0, 1]

def secondPathData : List UInt8 :=
  [0x80, 0, 0, 0x2C, 0x80, 0, 0x03, 0x78, 0x80, 0, 0, 0, 0, 0, 0, 0, 0, 0, 0, 1]

theorem secondPath_accepted : PathAccepted Sdk.reference secondPathData secondPath :=
  ⟨⟨⟨secondPathData, 20, by decide⟩, secondPath⟩, rfl, rfl⟩

def otherKeyCommand : Command := .getPublicKey false secondPathData (by decide)

/-- **A confirmed address is answered with another key.** While the address of the
first path is on the screen, the key of the second path is asked for; the approval
then sends that key. -/
theorem address_confirmed_otherKey : ∃ history s, Run (device .reference .bagl) history s ∧
    ¬ Along (fun entry _ => ConfirmsShown .reference entry) history := by
  have shown := @run_show .bagl _ _ run_atStart rfl
  have route : otherKeyCommand.route = .getPublicKey secondPathData false :=
    Command.route_getPublicKey
  have handled := @handle_key .reference .bagl .success Device.atStart.showing.app _ _
    secondPath_accepted
  rw [← route] at handled
  have replaced := run_answered shown rfl handled
  have run := Run.step replaced (step_address rfl rfl true CxOutcomes.success)
  refine ⟨_, _, run, fun confirmed => ?_⟩
  have key := (confirmed.1 _ _ ⟨⟨_, rfl⟩, rfl⟩ rfl).1
  have same : (GlobalCtx.ofAddress .reference .success secondPath).rawPublicKey =
      (GlobalCtx.ofAddress .reference .success firstPath).rawPublicKey :=
    Area.ext_cells (List.cons.inj key).2
  rw [rawPublicKey_ofAddress, rawPublicKey_ofAddress] at same
  exact absurd same (by decide)

/-! ## Transactions -/

/-- What is signed is what the approved review was built from: the digest of its
magic and of the hash of its bytes, with the key of its path. -/
def SignsShown (sdk : Sdk) (entry : Taken) : Prop :=
  ∀ review data, entry.Decides true (.transaction review) →
    entry.output.answer = some (.send ⟨data, .swoSuccess⟩) →
    let key := sdk.privateKey review.built.bip44Path
    let digest := sdk.sha256 (ByteOrder.leBytes 4 review.built.networkMagic.toNat ++
      (sdk.sha256 review.built.txInfo.received).cells)
    entry.output.signing = some ⟨key, digest⟩ ∧ data = sdk.cxEcdsaSign key digest

/-- A transaction is only signed while the context has neither been wiped nor given
another magic since, and when the derivation of the key succeeds. -/
def TransactionInTurn (entry : Taken) (older : History) : Prop :=
  ∀ review outcomes, entry.Decides true (.transaction review) →
    entry.event = .decision true outcomes → outcomes.signs = true →
    Undisturbed older ∧ outcomes.derives = true

/-- A context that matches a review gives the digest of what was reviewed. -/
theorem Matches.digest {ctx : GlobalCtx} {review : TransactionReview}
    (matched : Matches sdk ctx (.transaction review))
    (magic : ctx.networkMagic = review.built.networkMagic) :
    sdk.digest ctx = sdk.sha256 (ByteOrder.leBytes 4 review.built.networkMagic.toNat ++
      (sdk.sha256 review.built.txInfo.received).cells) := by
  rw [Sdk.digest, GlobalCtx.signedData, magic, matched.1]

/-- **When what is approved is what is signed.** -/
theorem transaction_signed (sdk : Sdk) (build : Build) {history : History} {s : Device}
    (run : Run (device sdk build) history s) (turns : Along TransactionInTurn history) :
    Along (fun entry _ => SignsShown sdk entry) history := by
  refine @Run.along_steps _ _ _ (device sdk build) TransactionInTurn
    (fun entry _ => SignsShown sdk entry) ?_ _ _ run turns
  intro history s event s' output run moved turn review data decides answer
  obtain ⟨outcomes, decision⟩ := decides.1
  have pending := decides.2
  have kept := run_reviewKept run
  have turned := turn review outcomes decides decision
  have transition := step_transition (run_separate run) moved
  simp only at decision pending answer
  subst decision
  cases transition with
  | address pending' => cases pending.symm.trans pending'
  | transaction pending' offered validates =>
      subst validates
      rw [uiActionValidateTransaction, if_pos rfl] at answer ⊢
      cases signs : outcomes.signs with
      | true =>
          obtain ⟨undisturbed, derives⟩ := turned signs
          have matched := kept.matched _ pending undisturbed.unwiped
          have magic := kept.magic _ pending undisturbed
          obtain ⟨app', approved⟩ := approveTransaction_of_signs sdk outcomes s.app signs
          rw [approved, cryptoDerivePrivateKey_of_derives sdk outcomes derives, matched.digest magic,
            matched.2] at answer ⊢
          cases answer
          exact ⟨rfl, rfl⟩
      | false =>
          obtain ⟨app', refused⟩ := approveTransaction_of_not sdk outcomes s.app signs
          rw [refused] at answer
          cases answer

/-! ## A session that is reviewed -/

/-- A transfer of GAS. -/
def transferImage : TransactionImage := (TransferImage.ofAmount (.push 5)).transaction

theorem length_transferImage :
    0 < transferImage.bytes.length ∧ transferImage.bytes.length ≤ 255 := by
  have script : (TransferImage.ofAmount (.push 5)).bytes.length ≤ 100 := by decide
  have signer : (SignerImage.plain (Area.fill uint160Len 0)).bytes.length = 21 := rfl
  rw [transferImage, TransferImage.transaction, TransactionImage.ofScript, length_bytes_single,
    signer]
  omega

/-- The transfer in one part. -/
def transferCommand : Command := .signTx 2 false transferImage.bytes length_transferImage

theorem route_transferCommand : transferCommand.route = .signTx transferImage.bytes 2 false :=
  Command.route_last

/-- The first bytes of a session. -/
theorem receive_first {ctx : GlobalCtx} (zero : ctx.txInfo = .zero) {bytes : List UInt8}
    (fits : ctx.txInfo.rawTxLen + bytes.length ≤ maxTransactionLen) :
    (ctx.receive bytes fits).txInfo.received = bytes ∧
      (ctx.receive bytes fits).txInfo.transaction = .zero := by
  refine ⟨(TransactionCtx.received_receive _ _ fits).trans ?_, ?_⟩
  · rw [zero]
    rfl
  · exact congrArg TransactionCtx.transaction zero

/-- The bytes of an image are received where nothing was received before, and parse. -/
theorem receive_image {ctx : GlobalCtx} (zero : ctx.txInfo = .zero) {image : TransactionImage}
    (fits : ctx.txInfo.rawTxLen + image.bytes.length ≤ maxTransactionLen) :
    (ctx.receive image.bytes fits).txInfo.received = image.bytes ∧
      (ctx.receive image.bytes fits).parseStatus sdk = .parsingOk ∧
      ((ctx.receive image.bytes fits).parse sdk).txInfo.transaction = image.parsed sdk := by
  obtain ⟨received, transaction⟩ := receive_first zero fits
  have short : image.bytes.length ≤ maxTransactionLen := by omega
  refine ⟨received, ?_, ?_⟩
  · rw [GlobalCtx.parseStatus, received, transaction]
    exact (layoutStatus_ok_iff image.bytes).mpr ⟨short, image, rfl⟩
  · show (ctx.receive image.bytes fits).txInfo.transaction.parse sdk _ = _
    rw [received, transaction, Transaction.parse, TransactionImage.parsed,
      ← layoutWrites_image short]
    rfl

theorem GlobalCtx.transaction_reviewed (ctx : GlobalCtx) :
    (ctx.reviewed sdk).txInfo.transaction = ctx.txInfo.transaction := rfl

theorem matches_reviewed (app : App) (ctx : GlobalCtx) :
    Matches sdk (ctx.reviewed sdk)
      (.transaction ((app.fill sdk (ctx.reviewed sdk)).review build)) := ⟨rfl, rfl⟩

/-- The last part of a session, when it parses. -/
theorem handle_reviewed {outcomes : CxOutcomes} {app : App}
    (request : app.ctx.reqType = .confirmTransaction) {data : List UInt8} {chunk : UInt8}
    (part : chunk ≠ 0 ∧ chunk ≠ 1)
    (fits : app.ctx.txInfo.rawTxLen + data.length ≤ maxTransactionLen)
    (ok : (app.ctx.receive data fits).parseStatus sdk = .parsingOk)
    (hashes : outcomes.hashesOk 2 = true) :
    let filled := app.fill sdk (((app.ctx.receive data fits).parse sdk).reviewed sdk)
    handle sdk build outcomes app (.signTx data chunk false) =
      some (filled, .start (.transaction (filled.review build))) := by
  have last := @handle_last sdk build outcomes app request data chunk part fits
  have parsed : ¬ (app.withCtx (app.ctx.receive data fits)).ctx.parseStatus sdk ≠ .parsingOk :=
    not_not_intro ok
  rw [lastPart, if_neg parsed, if_pos hashes] at last
  exact last

theorem fits_transferImage :
    App.zero.onMainnet.ctx.txInfo.rawTxLen + transferImage.bytes.length ≤ maxTransactionLen :=
  (Nat.add_le_add_left length_transferImage.2 _).trans (by decide)

/-- The application once the transfer is reviewed in the first session. -/
def App.onTransfer : App :=
  App.zero.onMainnet.fill .reference
    (((App.zero.onMainnet.ctx.receive transferImage.bytes fits_transferImage).parse
      .reference).reviewed .reference)

/-- The review of the transfer. -/
def transferReview (build : Build) : TransactionReview := App.onTransfer.review build

theorem approvable_transferReview (build : Build) :
    (transferReview build).screen.approvable = true := by
  have parsed := (@receive_image .reference App.zero.onMainnet.ctx rfl _ fits_transferImage).2.2
  have transaction : App.onTransfer.ctx.txInfo.transaction = transferImage.parsed .reference := by
    rw [← parsed]
    exact GlobalCtx.transaction_reviewed _
  have flag := @TransferImage.transaction_flag .reference (TransferImage.ofAmount (.push 5))
  rw [transferReview, App.review, approvable_startSignTxUi, transaction, scriptRefused,
    transferImage, flag]
  rfl

/-- The history up to the review of the transfer, newest first. -/
def transferHistory (build : Build) : History :=
  [⟨⟨App.zero.onMainnet, none, false⟩, .command transferCommand .success,
      ⟨some (.start (.transaction (transferReview build))), none⟩,
      ⟨App.onTransfer, some (.transaction (transferReview build)), false⟩⟩,
    Device.answered ⟨App.zero.onPath, none, false⟩ (.command magicCommand .success)
      App.zero.onMainnet (.ofSw .swoSuccess),
    Device.answered .atStart (.command pathCommand .success) App.zero.onPath (.ofSw .swoSuccess)]

theorem run_transfer (build : Build) : Run (device .reference build) (transferHistory build)
    ⟨App.onTransfer, some (.transaction (transferReview build)), false⟩ := by
  refine .step (@run_session build _ _ run_atStart rfl) (step_opened rfl ?_)
  have parses := (@receive_image .reference App.zero.onMainnet.ctx rfl _ fits_transferImage).2.1
  rw [route_transferCommand]
  exact @handle_reviewed .reference build .success App.zero.onMainnet rfl _ _ two_part
    fits_transferImage parses rfl

/-- The transfer is approved. -/
theorem transaction_signed_transfer : ∃ history s, Run (device .reference .bagl) history s ∧
    history.length = 4 ∧ Along (fun entry _ => SignsShown .reference entry) history := by
  have run := Run.step (run_transfer .bagl)
    (step_transaction rfl rfl (approvable_transferReview .bagl) true CxOutcomes.success)
  have commands : ∀ {entry : Taken} {cmd : Command} {outcomes : CxOutcomes} {older : History},
      entry.event = .command cmd outcomes → TransactionInTurn entry older := by
    intro entry cmd outcomes older command review outcomes' _ decision
    cases command.symm.trans decision
  refine ⟨_, _, run, rfl, transaction_signed .reference .bagl run
    ⟨?_, commands rfl, commands rfl, commands rfl, trivial⟩⟩
  intro review outcomes _ decision _
  cases decision
  exact ⟨Since.marked ⟨_, rfl⟩, rfl⟩

/-- A chunk 1 with the number zero. -/
def zeroMagicCommand : Command := .signTx 1 true [0, 0, 0, 0] (by decide)

/-- Two numbers in front of the same bytes have different stand-ins. -/
theorem sha256_reference_ne {first second : Nat} (tail : List UInt8) (less : first < second)
    (small : second < 4294967291) :
    Sdk.reference.sha256 (ByteOrder.leBytes 4 first ++ tail) ≠
      Sdk.reference.sha256 (ByteOrder.leBytes 4 second ++ tail) := by
  intro same
  have four : ∀ bytes, (Sdk.reference.sha256 bytes).cells.take 4 = gathered bytes := by
    intro bytes
    have size : (gathered bytes).length = 4 := ByteOrder.length_leBytes _ _
    show ((gathered bytes ++ List.replicate 32 0).take 32).take 4 = _
    rw [List.take_take, Nat.min_eq_left (by decide),
      List.take_append_of_le_length (Nat.le_of_eq size.symm),
      List.take_of_length_le (Nat.le_of_eq size)]
  have equal := congrArg (fun area => ByteOrder.leNat (area.cells.take 4)) same
  simp only [four, gathered, ByteOrder.leNat_leBytes, ByteOrder.leNat_append,
    ByteOrder.length_leBytes] at equal
  omega

/-- **Another transaction is signed than the one approved.** While the transfer is
on the screen, a chunk 1 stores another magic; the approval then signs for that
network. -/
theorem transaction_signed_otherMagic : ∃ history s, Run (device .reference .bagl) history s ∧
    ¬ Along (fun entry _ => SignsShown .reference entry) history := by
  have route : zeroMagicCommand.route = .signTx [0, 0, 0, 0] 1 true :=
    Command.route_signTx (by decide) (fun _ => rfl)
  have handled := @handle_magic .reference .bagl .success App.onTransfer rfl [0, 0, 0, 0]
    (by decide) true
  rw [← route] at handled
  have replaced := run_answered (run_transfer .bagl) rfl handled
  have approvable := approvable_transferReview .bagl
  have moved := @step_transaction .reference .bagl
    ⟨App.onTransfer.withCtx (App.onTransfer.ctx.ofMagic (magicOf [0, 0, 0, 0])),
      some (.transaction (transferReview .bagl)), false⟩ rfl _ rfl approvable true .success
  have matched : Matches .reference App.onTransfer.ctx (.transaction (transferReview .bagl)) :=
    matches_reviewed _ _
  obtain ⟨app', approved⟩ := approveTransaction_of_signs Sdk.reference CxOutcomes.success
    (App.onTransfer.withCtx (App.onTransfer.ctx.ofMagic (magicOf [0, 0, 0, 0]))) rfl
  rw [uiActionValidateTransaction, if_pos rfl, approved] at moved
  refine ⟨_, _, .step replaced moved, fun signed => ?_⟩
  have signing := (signed.1 _ _ ⟨⟨_, rfl⟩, rfl⟩ rfl).1
  have digest := congrArg Signing.digest (Option.some.inj signing)
  have hash : (App.onTransfer.ctx.ofMagic (magicOf [0, 0, 0, 0])).txInfo.hash =
      Sdk.reference.sha256 (transferReview .bagl).built.txInfo.received := matched.1
  have other : (App.onTransfer.ctx.ofMagic (magicOf [0, 0, 0, 0])).networkMagic.toNat = 0 := by
    decide
  have shown : (transferReview .bagl).built.networkMagic.toNat = 0x334F454E := by decide
  simp only at digest
  rw [shown, ← hash] at digest
  have differ := @sha256_reference_ne 0 0x334F454E
    (App.onTransfer.ctx.ofMagic (magicOf [0, 0, 0, 0])).txInfo.hash.cells (by decide) (by decide)
  rw [← other] at differ
  exact differ digest

end AppNeo3

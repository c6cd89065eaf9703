import AppNeo3.Session.BaglFollows
import AppNeo3.Session.HostSession
import AppNeo3.Session.NbglFollows

/-!
# The host and a device with a screen

The host sends a transaction to a device that is in the menu, wherever a calm run has led
it. The commands are calm (`calm_of_stores`), so that a device that follows the device
follows the whole session, the approval included (`Following.replies`). The user can then
have the host receive the signature of its own transaction, with two buttons
(`bagl_host_signed`) and on a touch screen (`nbgl_host_signed`).
-/

set_option autoImplicit false

namespace AppNeo3

open Memory Runs

variable {sdk : Sdk} {build : Build}

/-! ## Calm sessions of the host -/

/-- A command approves nothing. -/
theorem Taken.Stores.undecided {pending : Option Review} {entry : Taken}
    (stores : entry.Stores sdk pending) : ¬ ∃ review, entry.Decides true (.transaction review) := by
  obtain ⟨route, routed⟩ := stores.routed
  rintro ⟨review, ⟨outcomes, decision⟩, _⟩
  rw [Taken.Routed, decision] at routed
  cases routed

/-- **A session that stores what it is sent** is calm, and nothing is approved in it. -/
theorem calm_of_stores {history : History} (calm : Along CalmTaken history) {stored : List Taken}
    (stores : ∀ entry ∈ stored, Taken.Stores sdk none entry) (begun : OpensSession stored) :
    Along CalmTaken (stored ++ history) ∧ ¬ Approved (stored ++ history) := by
  obtain ⟨later, first, rfl, data, more, routed⟩ := begun
  induction later with
  | nil =>
      have here := stores first (.head _)
      refine ⟨⟨⟨fun _ _ => here.pending, ?_⟩, calm⟩, ?_⟩
      · intro _ chunk _ other nonzero
        cases Option.some.inj (routed.symm.trans other)
        exact absurd rfl nonzero
      · rintro (decides | ⟨kept, _⟩)
        · exact here.undecided decides
        · exact kept ⟨_, routed, rfl⟩
  | cons entry later ih =>
      have here := stores entry (.head _)
      obtain ⟨calm', unapproved⟩ := ih fun other member => stores other (.tail _ member)
      refine ⟨⟨calmTaken_of_none here.pending unapproved, calm'⟩, ?_⟩
      rintro (decides | ⟨_, approved⟩)
      · exact here.undecided decides
      · exact unapproved approved

/-! ## Following a session of the host -/

/-- The commands of the host for a transaction, and its approval. No call fails. -/
def approvedSession (parser : ApduParser) (packedPath : List UInt8) (networkMagic : UInt32)
    (b : List UInt8) : List Event :=
  transmitted parser .success (CommandBuilder.signTx packedPath networkMagic b) ++
    [.decision true .success]

/-- The signature of a network and a transaction by the key of a path. -/
def Sdk.signedReply (sdk : Sdk) (path : Bip44Path) (networkMagic : UInt32) (b : List UInt8) :
    Reply :=
  ⟨sdk.cxEcdsaSign (sdk.privateKey path) (sdk.sha256
    (ByteOrder.leBytes 4 networkMagic.toNat ++ (sdk.sha256 b).cells)), .swoSuccess⟩

variable {σ ε : Type}

/-- A calm run of a device with a screen goes on, by no other than the given events of the
device, and one of them is answered with the reply. -/
structure ScreenDevice.Replies (screen : ScreenDevice σ ε) (trace : List (Entry σ ε Output))
    (events : List Event) (reply : Reply) (newer : List (Entry σ ε Output)) (d : σ) : Prop where
  run : Run screen.machine (newer ++ trace) d
  calm : Along screen.screened.Calm (newer ++ trace)
  amounts : ∃ taken, Paired screen.pairing newer taken ∧ taken.map Entry.event = events.reverse
  answered : ∃ entry ∈ newer, entry.output.answer = some (.send reply)

/-- Events that are no commands are calm. -/
theorem Screened.calm_of_events {screened : Screened σ ε} : ∀ {trace : List (Entry σ ε Output)},
    (∀ event ∈ trace.map Entry.event, screened.route event = none) → Along screened.Calm trace
  | [], _ => trivial
  | entry :: _, others =>
      ⟨Screened.calm_of_none (others entry.event (.head _)) _,
        calm_of_events fun event member => others event (.tail _ member)⟩

/-- **A device that follows the device follows a session of the host**, when it shows no
review and its settings allow the script. -/
theorem Following.replies {screen : ScreenDevice σ ε} (following : Following sdk build screen)
    (outputs : ∀ fine coarse, screen.pairing.pairs fine coarse → fine.output = coarse.output)
    {trace : List (Entry σ ε Output)} {d : σ} (run : Run screen.machine trace d)
    (calm : Along screen.screened.Calm trace) (running : screen.ended d = false)
    (parser : ApduParser) {packedPath : List UInt8}
    {path : Bip44Path} (accepted : PathAccepted sdk packedPath path)
    (size : 0 < packedPath.length ∧ packedPath.length ≤ 255) (networkMagic : UInt32)
    (image : TransactionImage) (short : image.bytes.length ≤ maxTransactionLen)
    (told : image.bytes.length ≤ 255 ∨ ¬ 255 ∣ image.bytes.length)
    (ready : ∀ t, screen.agrees d t → t.ended = false ∧ t.pending = none ∧
      scriptRefused (image.parsed sdk) t.app.storage = false) :
    ∃ newer d', screen.Replies trace
      (approvedSession parser packedPath networkMagic image.bytes)
      (sdk.signedReply path networkMagic image.bytes) newer d' := by
  obtain ⟨history, t, _, agrees, paired, next⟩ := following.continues run calm running
  obtain ⟨running', pending, allowed⟩ := ready t agrees
  obtain ⟨stored, opened, approved, fed, stores, begun, _, unreviewed, decision, answer⟩ :=
    exchange_signed parser sdk build history running' accepted size networkMagic image short told
      allowed
  rw [pending] at stores unreviewed
  obtain ⟨calm', unapproved⟩ := calm_of_stores (following.tells.calmTaken paired calm) stores begun
  obtain ⟨newer, d', run', calm'', _, paired'⟩ := next _ (approved :: opened :: stored) _ fed
    ⟨calmTaken_of_other (by rw [decision]; rfl) _, calmTaken_of_none unreviewed unapproved, calm'⟩
  refine ⟨newer, d', run', calm'', ⟨_, paired', ?_⟩, ?_⟩
  · have events := Machine.events_of_feed fed
    rw [← List.cons_append, ← List.cons_append, List.map_append] at events
    exact List.append_cancel_right events
  · obtain ⟨entry, there, pairs⟩ := paired'.mem (.head _)
    exact ⟨entry, there, outputs entry _ pairs ▸ answer⟩

/-- **With two buttons the host receives the signature of its own transaction.** From the
menu, wherever a calm run has led it, the device can be sent the session of any transaction
of the grammar, and presses have it approved. -/
theorem Bagl.bagl_host_signed (parser : ApduParser) (sdk : Sdk) (engine : FlowEngine)
    {trace : List BaglTaken} {d : BaglDevice}
    (run : Run (baglDevice sdk engine) trace d) (calm : Along screened.Calm trace)
    (running : d.ended = false) {flow : MenuFlow} {screen : PlainState}
    (ui : d.ui = .menu flow screen) {packedPath : List UInt8}
    {path : Bip44Path} (accepted : PathAccepted sdk packedPath path)
    (size : 0 < packedPath.length ∧ packedPath.length ≤ 255) (networkMagic : UInt32)
    (image : TransactionImage) (short : image.bytes.length ≤ maxTransactionLen)
    (told : image.bytes.length ≤ 255 ∨ ¬ 255 ∣ image.bytes.length)
    (allowed : scriptRefused (image.parsed sdk) d.app.storage = false) :
    ∃ newer d', (onScreen sdk engine).Replies trace
      (approvedSession parser packedPath networkMagic image.bytes)
      (sdk.signedReply path networkMagic image.bytes) newer d' := by
  refine (baglFollowing sdk engine).replies (fun _ _ pairs => pairs.2.2.2) run calm running parser
    accepted size networkMagic image short told fun t agrees => ?_
  have shows := agrees.ui
  rw [ui] at shows
  exact ⟨agrees.ended running, shows.of_menu.1, agrees.app ▸ allowed⟩

/-- The plain transaction, after presses that have allowed its script. -/
theorem Bagl.bagl_host_signed_switched : ∃ trace newer d,
    trace.map Entry.event = switchPresses.reverse ∧
    Run (baglDevice .reference .reference) (newer ++ trace) d ∧
    ∃ entry ∈ newer, ∃ signature, entry.output.answer = some (.send ⟨signature, .swoSuccess⟩) := by
  obtain ⟨trace, fed⟩ := switchPresses_fed
  have events := (Machine.events_of_feed fed).trans (List.append_nil _)
  have calm : Along screened.Calm trace := Screened.calm_of_events fun event member => by
    rw [events, List.mem_reverse] at member
    revert event
    decide
  obtain ⟨newer, d, replies⟩ := bagl_host_signed .reference .reference .reference
    ((run_baglAtStart .reference).feed fed) calm rfl rfl firstPath_accepted (by decide)
    networkMainnet (SignerImage.transaction (.plain (Area.fill _ 0)))
    (SignerImage.transaction_short (by decide)) (by decide)
    (by simp [scriptRefused, BaglDevice.onSwitched])
  obtain ⟨entry, there, answer⟩ := replies.answered
  exact ⟨trace, newer, d, events, replies.run, entry, there, _, answer⟩

/-- **On a touch screen the host receives the signature of its own transaction** in the
same way. -/
theorem Nbgl.nbgl_host_signed (parser : ApduParser) (sdk : Sdk) (engine : PageEngine)
    {trace : List NbglTaken} {d : NbglDevice}
    (run : Run (nbglDevice sdk engine) trace d) (calm : Along screened.Calm trace)
    (running : d.ended = false) (ui : d.ui = .menu) {packedPath : List UInt8}
    {path : Bip44Path} (accepted : PathAccepted sdk packedPath path)
    (size : 0 < packedPath.length ∧ packedPath.length ≤ 255) (networkMagic : UInt32)
    (image : TransactionImage) (short : image.bytes.length ≤ maxTransactionLen)
    (told : image.bytes.length ≤ 255 ∨ ¬ 255 ∣ image.bytes.length)
    (allowed : scriptRefused (image.parsed sdk) d.app.storage = false) :
    ∃ newer d', (onScreen sdk engine).Replies trace
      (approvedSession parser packedPath networkMagic image.bytes)
      (sdk.signedReply path networkMagic image.bytes) newer d' := by
  refine (nbglFollowing sdk engine).replies (fun _ _ pairs => pairs.2.2.2) run calm running parser
    accepted size networkMagic image short told fun t agrees => ?_
  have shows := agrees.ui
  rw [ui] at shows
  exact ⟨agrees.ended running, shows.of_menu, agrees.app ▸ allowed⟩

/-- The plain transaction, after the switch that has allowed its script. -/
theorem Nbgl.nbgl_host_signed_switched : ∃ trace newer d,
    trace.map Entry.event = [.control 10] ∧
    Run (nbglDevice .reference .reference) (newer ++ trace) d ∧
    ∃ entry ∈ newer, ∃ signature, entry.output.answer = some (.send ⟨signature, .swoSuccess⟩) := by
  obtain ⟨trace, fed⟩ := control_fed
  have events := (Machine.events_of_feed fed).trans (List.append_nil _)
  have calm : Along screened.Calm trace := Screened.calm_of_events fun event member => by
    rw [events] at member
    cases List.mem_singleton.mp member
    rfl
  obtain ⟨newer, d, replies⟩ := nbgl_host_signed .reference .reference .reference
    ((run_nbglAtStart .reference).feed fed) calm rfl rfl firstPath_accepted (by decide)
    networkMainnet (SignerImage.transaction (.plain (Area.fill _ 0)))
    (SignerImage.transaction_short (by decide)) (by decide)
    (by simp [scriptRefused, NbglDevice.onSwitched])
  obtain ⟨entry, there, answer⟩ := replies.answered
  exact ⟨trace, newer, d, events, replies.run, entry, there, _, answer⟩

end AppNeo3

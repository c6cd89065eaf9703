import AppNeo3.Session.NbglFollows

/-!
# Signatures on the device with a touch screen

Whatever is signed, while no command comes during a review, has been on a page
(`pairs_read`).
-/

set_option autoImplicit false

namespace AppNeo3

open Memory Runs

namespace Nbgl

variable {sdk : Sdk} {engine : PageEngine} {trace : List NbglTaken} {d : NbglDevice}

/-- A signature that the entry makes is of the hash of bytes that parse, with the magic
whose name is among the texts, and every pair of the review of these bytes has been on
a page since it was opened. -/
def SignsRead (sdk : Sdk) (engine : PageEngine) (entry : NbglTaken) (older : List NbglTaken) :
    Prop :=
  ∀ signing, entry.output.signing = some signing →
    let app := entry.before.app
    ∃ b tx screen, entry.before.ui = .pairs screen ∧ Parses sdk b tx ∧
      signing.digest = sdk.sha256 (ByteOrder.leBytes 4 app.ctx.networkMagic.toNat ++
        (sdk.sha256 b).cells) ∧
      (app.ctx.txInfo.transaction = tx ∧ ∃ texts, app.gTx = reviewTexts sdk app.ctx texts) ∧
      ∀ index < pairCount tx, ∃ s ∈ screen :: shownSince (reviewing sdk engine) older,
        ∃ pair ∈ s.pairs, PairShows sdk app.storage b tx app.gTx index pair

/-- **What is signed has been read.** In every calm run a signature is of bytes whose pairs
have all been on a page. -/
theorem pairs_read (run : Run (nbglDevice sdk engine) trace d)
    (calm : Along screened.Calm trace) : Along (SignsRead sdk engine) trace := by
  induction run with
  | start starts => trivial
  | @step trace d d' event output run moved ih =>
      refine ⟨?_, ih calm.2⟩
      have transition := (nbgl_transition moved).2
      cases transition with
      | @decided confirmed outcomes screen validated status ui offered validates =>
          subst validates
          intro signing signed
          obtain ⟨rfl, digest⟩ := signing_validated signed
          obtain ⟨review, held⟩ := run_nbglHeld run calm.2 ui
          obtain ⟨visits, walk, seen⟩ := run_reviewing run calm.2 ui
          refine ⟨_, _, screen, ui, held.parses, ?_, ⟨rfl, held.texts⟩, ?_⟩
          · rw [digest, Sdk.digest, GlobalCtx.signedData, held.hash]
          · intro index listed
            obtain ⟨s, member, shown⟩ := pair_shown held.parses walk (offered rfl) listed
            exact ⟨s, seen s member, shown⟩
      | refused ui validates =>
          subst validates
          intro signing signed
          cases (signing_validated signed).1
      | _ =>
          intro signing signed
          cases signed

/-- The transfer is signed. -/
theorem pairs_read_transfer : ∃ trace d, Run (nbglDevice .reference .reference) trace d ∧
    (∃ entry ∈ trace, ∃ signing, entry.output.signing = some signing) ∧
    Along (SignsRead .reference .reference) trace := by
  obtain ⟨_, _, run, calm, _, member, signing, signed⟩ := run_signedTransfer .nbgl
  obtain ⟨trace, d, follows⟩ := (nbglFollowing .reference .reference).of_run run calm
  obtain ⟨entry, there, _, _, _, same⟩ := follows.paired.mem member
  exact ⟨trace, d, follows.run, ⟨entry, there, signing, same ▸ signed⟩,
    pairs_read follows.run follows.calm⟩

end Nbgl

end AppNeo3

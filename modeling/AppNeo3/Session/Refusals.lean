import AppNeo3.Session.History

/-!
# Refused commands

A command that is refused leaves the session as it was, with one exception: a chunk
1 that is too short for a magic stores zero over the magic of the session
(`session_kept_iff`).
-/

set_option autoImplicit false

namespace AppNeo3

open Memory Runs

/-- What a session consists of is the same in both contexts. -/
structure SameSession (before after : GlobalCtx) : Prop where
  state : after.state = before.state
  reqType : after.reqType = before.reqType
  bip44Path : after.bip44Path = before.bip44Path
  networkMagic : after.networkMagic = before.networkMagic
  rawTxLen : after.txInfo.rawTxLen = before.txInfo.rawTxLen
  received : after.txInfo.received = before.txInfo.received
  hash : after.txInfo.hash = before.txInfo.hash

theorem SameSession.refl (ctx : GlobalCtx) : SameSession ctx ctx :=
  ⟨rfl, rfl, rfl, rfl, rfl, rfl, rfl⟩

/-- The status words with which the signing command refuses a chunk. -/
def chunkRefusals : List StatusWord := [.swBadState, .swMagicParsingFail, .swWrongTxLength]

theorem chunkRefusals_other : ∀ sw ∈ chunkRefusals, ¬ sw.Refusal := by
  unfold StatusWord.Refusal
  decide

/-- The dispatcher refuses the command, or the signing command refuses the chunk. -/
def Refused (route : Route) (answer : Option Answer) : Prop :=
  (∃ sw, route = .refused sw) ∨
    (∃ data chunk more, route = .signTx data chunk more) ∧
      ∃ sw ∈ chunkRefusals, answer = some (.send (.ofSw sw))

/-- A chunk 1 without a whole magic comes in a session that has a magic. -/
def MagicLost (ctx : GlobalCtx) (route : Route) : Prop :=
  (∃ data more, route = .signTx data 1 more ∧ data.length < 4) ∧
    ctx.reqType = .confirmTransaction ∧ ctx.networkMagic ≠ 0

variable {sdk : Sdk} {build : Build}

/-- Storing another magic keeps the session exactly when it is the same one. -/
theorem sameSession_magic_iff {ctx : GlobalCtx} {magic : UInt32} :
    SameSession ctx { ctx with networkMagic := magic } ↔ magic = ctx.networkMagic :=
  ⟨SameSession.networkMagic, fun same => ⟨rfl, rfl, rfl, same, rfl, rfl, rfl⟩⟩

/-- A refused chunk is answered with one of the status words. -/
theorem Refused.answer {data : List UInt8} {chunk : UInt8} {more : Bool} {answer : Answer}
    (refused : Refused (.signTx data chunk more) (some answer)) :
    ∃ sw ∈ chunkRefusals, answer = .send (.ofSw sw) := by
  rcases refused with ⟨sw, route⟩ | ⟨_, sw, member, same⟩
  · cases route
  · exact ⟨sw, member, Option.some.inj same⟩

/-- Other commands that reach a handler are not refused. -/
theorem not_refused {route : Route} {answer : Option Answer}
    (handled : ∀ sw, route ≠ .refused sw)
    (other : ∀ data chunk more, route ≠ .signTx data chunk more) : ¬ Refused route answer := by
  rintro (⟨sw, same⟩ | ⟨⟨data, chunk, more, same⟩, _⟩)
  · exact handled sw same
  · exact other data chunk more same

theorem not_magicLost {ctx : GlobalCtx} {route : Route}
    (other : ∀ data more, route = .signTx data 1 more → ctx.reqType ≠ .confirmTransaction) :
    ¬ MagicLost ctx route := by
  rintro ⟨⟨data, more, same, _⟩, request, _⟩
  exact other data more same request

theorem Effect.refused_iff {outcomes : CxOutcomes} {app app' : App} {route : Route}
    {answer : Answer} {handled : Handled} (effect : Effect sdk build outcomes app route handled)
    (done : handled = some (app', answer)) (refused : Refused route (some answer)) :
    SameSession app.ctx app'.ctx ↔ ¬ MagicLost app.ctx route := by
  cases effect with
  | refused sw =>
      cases done
      exact iff_of_true (.refl _) (not_magicLost nofun)
  | version | name | keyRefused path refusal | keySent accepted | keyShown accepted gAddress =>
      exact absurd refused (not_refused nofun nofun)
  | misplaced later request =>
      cases done
      exact iff_of_true (.refl _) (not_magicLost fun _ _ _ => request)
  | tooLong part request =>
      cases done
      refine iff_of_true (.refl _) (not_magicLost fun _ _ same => ?_)
      cases same
      exact absurd rfl part.2
  | magicRefused request short =>
      rename_i data more
      cases done
      refine sameSession_magic_iff.trans ⟨fun same lost => lost.2.2 same.symm, fun kept => ?_⟩
      have same := Classical.not_not.mp fun other =>
        kept ⟨⟨data, more, rfl, by omega⟩, request, other⟩
      exact same.symm
  | pathRefused path refusal =>
      obtain ⟨sw, member, same⟩ := refused.answer
      cases done
      cases same
      exact absurd refusal (chunkRefusals_other _ member)
  | magicAccepted request magic | pathAccepted accepted | partStored part request fits =>
      obtain ⟨sw, member, same⟩ := refused.answer
      cases done
      cases same
      exact absurd member (by decide)
  | parseFailed part request fits failed code | reviewOpened part request fits ok fill =>
      obtain ⟨sw, member, same⟩ := refused.answer
      cases done
      cases same
  | keyEnded | reviewEnded part request => cases done

/-- **When a refused command leaves the session as it was.** -/
theorem session_kept_iff (sdk : Sdk) (build : Build) {history : History} {s s' : Device}
    (run : Run (device sdk build) history s) {cmd : Command} {outcomes : CxOutcomes}
    {output : Output}
    (moved : (device sdk build).step s (.command cmd outcomes) = some (s', output))
    (refused : Refused cmd.route output.answer) :
    SameSession s.app.ctx s'.app.ctx ↔ ¬ MagicLost s.app.ctx cmd.route := by
  have transition := step_transition (run_separate run) moved
  cases transition with
  | ended effect =>
      rcases refused with ⟨sw, route⟩ | ⟨_, sw, _, answer⟩
      · rw [route] at effect
        cases effect
      · cases answer
  | sent effect | opened effect => exact effect.refused_iff rfl refused

/-- A part of 255 bytes. -/
def fullPart : Command := .signTx 2 true (List.replicate 255 0) (by
  rw [List.length_replicate]
  decide)

theorem route_fullPart : fullPart.route = .signTx (List.replicate 255 0) 2 true :=
  Command.route_signTx (by decide) fun first => absurd first (by decide)

/-- A session on the main network that has received some bytes. -/
structure ReceivedOnMainnet (s : Device) (count : Nat) : Prop where
  running : s.ended = false
  request : s.app.ctx.reqType = .confirmTransaction
  magic : s.app.ctx.networkMagic = 0x334F454E
  length : s.app.ctx.txInfo.rawTxLen = count

theorem run_fullPart {history : History} {s : Device} {count : Nat}
    (run : Run (device .reference .bagl) history s) (received : ReceivedOnMainnet s count)
    (room : count + 255 ≤ maxTransactionLen) : ∃ history' s',
      Run (device .reference .bagl) history' s' ∧ ReceivedOnMainnet s' (count + 255) := by
  have size : (List.replicate 255 (0 : UInt8)).length = 255 := List.length_replicate
  have fits : s.app.ctx.txInfo.rawTxLen + (List.replicate 255 (0 : UInt8)).length ≤
      maxTransactionLen := by
    rw [received.length, size]
    exact room
  have handled := @handle_part .reference .bagl .success _ received.request _ _ two_part fits
  rw [← route_fullPart] at handled
  refine ⟨_, _, run_answered run received.running handled, received.running, received.request,
    received.magic, ?_⟩
  show s.app.ctx.txInfo.rawTxLen + _ = _
  rw [received.length, size]

/-- The fifth part of 255 bytes is refused. -/
theorem session_kept_fifth : ∃ history s s' output, Run (device .reference .bagl) history s ∧
    ReceivedOnMainnet s 1020 ∧
    (device .reference .bagl).step s (.command fullPart .success) = some (s', output) ∧
    output.answer = some (.send (.ofSw .swWrongTxLength)) ∧
    SameSession s.app.ctx s'.app.ctx := by
  have session := @run_session .bagl _ _ run_atStart rfl
  obtain ⟨_, _, first, received⟩ := run_fullPart session ⟨rfl, rfl, rfl, rfl⟩ (by decide)
  obtain ⟨_, _, second, received⟩ := run_fullPart first received (by decide)
  obtain ⟨_, _, third, received⟩ := run_fullPart second received (by decide)
  obtain ⟨history, s, fourth, received⟩ := run_fullPart third received (by decide)
  have long : ¬ s.app.ctx.txInfo.rawTxLen + (List.replicate 255 (0 : UInt8)).length ≤
      maxTransactionLen := by
    rw [received.length, List.length_replicate]
    decide
  have handled : handle .reference .bagl .success s.app fullPart.route =
      some (s.app, .send (.ofSw .swWrongTxLength)) := by
    rw [route_fullPart, handle, handlerSignTx, if_neg two_part.1, if_neg two_part.2,
      signTxPart_eq received.request, dif_neg long]
    rfl
  have moved := step_answered received.running handled
  refine ⟨history, s, _, _, fourth, received, moved, rfl, ?_⟩
  refine (session_kept_iff .reference .bagl fourth moved
    (.inr ⟨⟨_, _, _, route_fullPart⟩, _, by decide, rfl⟩)).mpr ?_
  rintro ⟨⟨data, more, other, _⟩, _⟩
  cases route_fullPart.symm.trans other

/-- A chunk 1 of two bytes. -/
def shortMagic : Command := .signTx 1 true [0, 0] (by decide)

theorem route_shortMagic : shortMagic.route = .signTx [0, 0] 1 true :=
  Command.route_signTx (by decide) (fun _ => rfl)

/-- **A refused chunk 1 erases the magic of the session.** -/
theorem session_kept_shortMagic : ∃ history s s' output,
    Run (device .reference .bagl) history s ∧
      (device .reference .bagl).step s (.command shortMagic .success) = some (s', output) ∧
      output.answer = some (.send (.ofSw .swMagicParsingFail)) ∧
      s.app.ctx.networkMagic = 0x334F454E ∧ s'.app.ctx.networkMagic = 0 ∧
      ¬ SameSession s.app.ctx s'.app.ctx := by
  have run := @run_session .bagl _ _ run_atStart rfl
  have refusedMagic := @signTxMagic_eq .reference App.zero.onMainnet rfl [0, 0]
  have handled : handle .reference .bagl .success App.zero.onMainnet shortMagic.route =
      some (App.zero.onMainnet.withCtx { App.zero.onMainnet.ctx with networkMagic := 0 },
        .send (.ofSw .swMagicParsingFail)) := by
    rw [route_shortMagic]
    exact refusedMagic
  refine ⟨_, _, _, _, run, step_answered rfl handled, rfl, by decide, rfl, fun same => ?_⟩
  exact absurd same.networkMagic (by decide)

end AppNeo3

import AppNeo3.Session.History

/-!
# The order of a session

A chunk is refused when the request is not for a transaction. The state takes no
part in the decision: the guards of the handlers join their tests with "and". So
the order of a session is kept only in runs that keep to it themselves
(`session_ordered`), while an address request always ends a session
(`requests_apart`).
-/

set_option autoImplicit false

namespace AppNeo3

open Memory Runs

variable {sdk : Sdk} {build : Build}

/-! ## Address requests -/

/-- A public key has been asked for since the newest chunk 0. -/
def KeyRequested : History → Prop :=
  Since (fun entry : Taken => ∃ data showOnScreen, entry.Routed (.getPublicKey data showOnScreen))
    Taken.Begins

/-- **An address request lasts until a chunk 0.** -/
theorem keyRequested_step {history : History} {s s' : Device} {event : Event} {output : Output}
    (transition : Transition sdk build s event (s', output)) (running : s'.ended = false)
    (holds : KeyRequested history → s.app.ctx.reqType = .confirmAddress)
    (requested : KeyRequested (⟨s, event, output, s'⟩ :: history)) :
    s'.app.ctx.reqType = .confirmAddress := by
  rw [transition.reqType running]
  rcases requested with ⟨data, showOnScreen, routed⟩ | ⟨kept, before⟩
  · have route : event.route = some (.getPublicKey data showOnScreen) := routed
    rw [route]
    rfl
  · cases route : event.route with
    | none => exact holds before
    | some route' =>
        cases route' with
        | getPublicKey data showOnScreen => rfl
        | signTx data chunk more =>
            by_cases first : chunk = 0
            · exact absurd ⟨_, route, beq_iff_eq.mpr first⟩ kept
            · rw [Option.bind_some, Route.request, if_neg first]
              exact holds before
        | _ => exact holds before

theorem Effect.handled_of_request {outcomes : CxOutcomes} {app : App} {data : List UInt8}
    {chunk : UInt8} {more : Bool} {handled : Handled}
    (effect : Effect sdk build outcomes app (.signTx data chunk more) handled) (later : chunk ≠ 0)
    (request : app.ctx.reqType ≠ .confirmTransaction) :
    handled = app.send app.ctx .swBadState := by
  cases effect with
  | pathRefused path refusal | pathAccepted accepted => exact absurd rfl later
  | misplaced later request => rfl
  | magicRefused placed short | magicAccepted placed magic | tooLong part placed
  | partStored part placed fits | parseFailed part placed fits failed code
  | reviewOpened part placed fits ok fill | reviewEnded part placed => exact absurd placed request

/-- A chunk 0 is answered, and leaves the transaction zeroed. -/
theorem Effect.cleared {outcomes : CxOutcomes} {app : App} {data : List UInt8} {more : Bool}
    {handled : Handled} (effect : Effect sdk build outcomes app (.signTx data 0 more) handled) :
    ∃ ctx sw, handled = app.send ctx sw ∧ ctx.txInfo = .zero := by
  cases effect with
  | pathRefused path refusal | pathAccepted accepted => exact ⟨_, _, rfl, rfl⟩
  | misplaced later request => exact absurd rfl later
  | tooLong part request | partStored part request fits
  | parseFailed part request fits failed code | reviewOpened part request fits ok fill
  | reviewEnded part request => exact absurd rfl part.1

theorem Transition.cleared {s s' : Device} {event : Event} {output : Output}
    (transition : Transition sdk build s event (s', output)) {data : List UInt8} {more : Bool}
    (routed : event.route = some (.signTx data 0 more)) : s'.app.ctx.txInfo = .zero := by
  cases transition with
  | ended effect | opened effect =>
      rw [Option.some.inj routed] at effect
      obtain ⟨ctx, sw, sent, _⟩ := effect.cleared
      cases sent
  | sent effect =>
      rw [Option.some.inj routed] at effect
      obtain ⟨ctx, sw, sent, zero⟩ := effect.cleared
      cases sent
      exact zero
  | badLength | address pending | transaction pending offered validates | setting pending =>
      cases routed

/-- What a transition on a chunk is when there is no request for a transaction. -/
theorem Transition.misplaced {s s' : Device} {event : Event} {output : Output}
    (transition : Transition sdk build s event (s', output)) {data : List UInt8} {chunk : UInt8}
    {more : Bool} (routed : event.route = some (.signTx data chunk more)) (later : chunk ≠ 0)
    (request : s.app.ctx.reqType ≠ .confirmTransaction) :
    s' = s ∧ output = ⟨some (.send (.ofSw .swBadState)), none⟩ := by
  cases transition with
  | ended effect =>
      rw [Option.some.inj routed] at effect
      cases effect.handled_of_request later request
  | opened effect =>
      rw [Option.some.inj routed] at effect
      cases effect.handled_of_request later request
  | sent effect =>
      rw [Option.some.inj routed] at effect
      cases effect.handled_of_request later request
      exact ⟨rfl, rfl⟩
  | badLength | address pending | transaction pending offered validates | setting pending =>
      cases routed

/-- What a chunk meets after an address request, and a chunk 0 after a key. -/
structure KeptApart (entry : Taken) (older : History) : Prop where
  refused : ∀ data chunk more, entry.Routed (.signTx data chunk more) → chunk ≠ 0 →
    KeyRequested older → entry.AnsweredBy .swBadState ∧ entry.after = entry.before
  cleared : ∀ data more, entry.Routed (.signTx data 0 more) → entry.after.app.ctx.txInfo = .zero

/-- **Public keys and signing sessions do not mix.** An address request is in no
state of a session; a later chunk is refused until a chunk 0, and leaves the key
where it is; and a chunk 0 wipes it. -/
theorem requests_apart (sdk : Sdk) (build : Build) {history : History} {s : Device}
    (run : Run (device sdk build) history s) :
    (s.app.ctx.reqType = .confirmAddress → s.app.ctx.state ≠ .bip44Ok ∧
      s.app.ctx.state ≠ .magicOk ∧ s.app.ctx.state ≠ .parsed) ∧ Along KeptApart history := by
  constructor
  · intro address
    rcases run_separate run with request | none | approved
    · rw [address] at request
      cases request
    · rw [none]
      decide
    · rw [approved]
      decide
  · refine (@Run.every _ _ _ (device sdk build) KeptApart (fun history s => s.ended = false →
      KeyRequested history → s.app.ctx.reqType = .confirmAddress) ?_ ?_ ?_ _ _ run).2
    · exact fun s starts running requested => requested.elim
    · intro history s event s' output run holds moved running requested
      exact keyRequested_step (step_transition (run_separate run) moved) running
        (holds (running_of_step moved)) requested
    · intro history s event s' output run holds moved
      have transition := step_transition (run_separate run) moved
      refine ⟨fun data chunk more routed later requested => ?_, fun data more routed => ?_⟩
      · have request := holds (running_of_step moved) requested
        obtain ⟨same, answer⟩ := transition.misplaced routed later (by rw [request]; decide)
        exact ⟨congrArg Output.answer answer, same⟩
      · exact transition.cleared routed

/-- A chunk 1 behind a public key, which is refused, and then a session. -/
theorem requests_apart_key : ∃ history s, Run (device .reference .bagl) history s ∧
    history.length = 4 ∧
    (∃ entry : Taken, entry ∈ history ∧ entry.Routed (.signTx mainnetData 1 true) ∧
      entry.AnsweredBy .swBadState) ∧
    s.app.ctx.state = .magicOk ∧ Along KeptApart history := by
  have key := @run_key .bagl _ _ run_atStart rfl
  have refused : handle .reference .bagl .success (App.zero.withCtx
      (.ofAddress .reference .success firstPath)) magicCommand.route =
      some (App.zero.withCtx (.ofAddress .reference .success firstPath),
        .send (.ofSw .swBadState)) := by
    rw [route_magicCommand]
    rfl
  have run := @run_session .bagl _ _ (run_answered key rfl refused) rfl
  refine ⟨_, _, run, rfl, ⟨_, .tail _ (.tail _ (.head _)), ?_, rfl⟩, rfl,
    (requests_apart .reference .bagl run).2⟩
  exact congrArg some route_magicCommand

/-! ## Chunks in their order -/

/-- The state that a chunk belongs to. -/
def expectedState (chunk : UInt8) : State := if chunk = 1 then .bip44Ok else .magicOk

/-- The newest chunk 0 has been answered with success, and its path is this one. -/
def PathSigned (sdk : Sdk) (path : Bip44Path) : History → Prop :=
  Since (fun entry : Taken => ∃ data more, entry.Routed (.signTx data 0 more) ∧ entry.Succeeds ∧
    PathAccepted sdk data path) Taken.Begins

/-- A chunk 1 has been answered with success since the newest chunk 0. -/
def MagicSigned : History → Prop :=
  Since (fun entry : Taken => ∃ data more, entry.Routed (.signTx data 1 more) ∧ entry.Succeeds)
    Taken.Begins

/-- A chunk from 1 on is accepted only in the state it belongs to, a part only behind an
accepted path and an accepted magic, and is refused otherwise with the context unchanged. -/
structure InOrder (sdk : Sdk) (data : List UInt8) (chunk : UInt8) (more : Bool) (entry : Taken)
    (older : History) : Prop where
  accepted : ¬ entry.AnsweredBy .swBadState →
    entry.before.app.ctx.reqType = .confirmTransaction ∧
      entry.before.app.ctx.state = expectedState chunk
  signed : ¬ entry.AnsweredBy .swBadState → chunk ≠ 1 →
    PathSigned sdk entry.before.app.ctx.bip44Path older ∧ MagicSigned older
  refused : ¬ (entry.before.app.ctx.reqType = .confirmTransaction ∧
      entry.before.app.ctx.state = expectedState chunk) →
    entry.AnsweredBy .swBadState ∧ entry.after.app.ctx = entry.before.app.ctx

/-- The order of the session is kept. -/
def Ordered (sdk : Sdk) (entry : Taken) (older : History) : Prop :=
  ∀ data chunk more, entry.Routed (.signTx data chunk more) → chunk ≠ 0 →
    InOrder sdk data chunk more entry older

/-- A chunk that comes in a session comes in the state it belongs to. -/
def InTurn (entry : Taken) : Prop :=
  ∀ data chunk more, entry.Routed (.signTx data chunk more) → chunk ≠ 0 →
    entry.before.app.ctx.reqType = .confirmTransaction →
    entry.before.app.ctx.state = expectedState chunk

/-- What the state of a session says of the history. -/
structure Signed (sdk : Sdk) (history : History) (ctx : GlobalCtx) : Prop where
  path : ctx.state = .bip44Ok ∨ ctx.state = .magicOk → PathSigned sdk ctx.bip44Path history
  magic : ctx.state = .magicOk → MagicSigned history

/-- A state that is outside a session says nothing. -/
theorem Signed.of_outside {history : History} {ctx : GlobalCtx}
    (outside : ctx.state ≠ .bip44Ok ∧ ctx.state ≠ .magicOk) : Signed sdk history ctx :=
  ⟨fun inside => inside.elim (absurd · outside.1) (absurd · outside.2),
    fun magic => absurd magic outside.2⟩

/-- What is said of a state stays true while the session goes on. -/
theorem Signed.keep {history : History} {ctx ctx' : GlobalCtx} {entry : Taken}
    (signed : Signed sdk history ctx) (kept : ¬ entry.Begins) (state : ctx'.state = ctx.state)
    (path : ctx'.bip44Path = ctx.bip44Path) : Signed sdk (entry :: history) ctx' := by
  refine ⟨fun inside => ?_, fun magic => ?_⟩
  · rw [state] at inside
    rw [path]
    exact (signed.path inside).keep kept
  · rw [state] at magic
    exact (signed.magic magic).keep kept

theorem not_begins_of_route {entry : Taken} {route : Route} (routed : entry.Routed route)
    (other : route.begins = false) : ¬ entry.Begins := by
  rintro ⟨route', routed', begins⟩
  rw [Taken.Routed, routed] at routed'
  cases routed'
  rw [other] at begins
  cases begins

theorem not_begins_of_none {entry : Taken} (other : entry.event.route = none) :
    ¬ entry.Begins := by
  rintro ⟨route, routed, _⟩
  rw [Taken.Routed, other] at routed
  cases routed

/-- What is said of the state survives a command that comes in turn. -/
theorem Effect.signed {outcomes : CxOutcomes} {app app' : App} {route : Route} {answer : Answer}
    {handled : Handled} (effect : Effect sdk build outcomes app route handled)
    (done : handled = some (app', answer)) (entry : Taken) (routed : entry.Routed route)
    (answered : entry.output.answer = some answer) (before : entry.before.app = app)
    (turn : InTurn entry) {history : History} (signed : Signed sdk history app.ctx) :
    Signed sdk (entry :: history) app'.ctx := by
  cases effect with
  | refused sw | version | name =>
      cases done
      exact signed.keep (not_begins_of_route routed rfl) rfl rfl
  | misplaced later request =>
      cases done
      exact signed.keep (not_begins_of_route routed (beq_eq_false_iff_ne.mpr later)) rfl rfl
  | tooLong part request | partStored part request fits
  | parseFailed part request fits failed code =>
      cases done
      exact signed.keep (not_begins_of_route routed (beq_eq_false_iff_ne.mpr part.1)) rfl rfl
  | magicRefused request short =>
      cases done
      exact signed.keep (not_begins_of_route routed rfl) rfl rfl
  | magicAccepted request magic =>
      cases done
      subst before
      have kept := not_begins_of_route routed rfl
      have turned := turn _ _ _ routed (by decide) request
      exact ⟨fun _ => (signed.path (.inl turned)).keep kept,
        fun _ => Since.marked ⟨_, _, routed, _, answered⟩⟩
  | pathAccepted accepted =>
      cases done
      have path : PathSigned sdk (GlobalCtx.ofPath _).bip44Path (entry :: history) :=
        Since.marked ⟨_, _, routed, ⟨_, answered⟩, accepted⟩
      exact ⟨fun _ => path, nofun⟩
  | keyRefused path refusal | keySent accepted | keyShown accepted gAddress
  | pathRefused path refusal =>
      cases done
      exact .of_outside ⟨nofun, nofun⟩
  | reviewOpened part request fits ok fill =>
      cases done
      subst fill
      exact .of_outside ⟨nofun, nofun⟩
  | keyEnded | reviewEnded part request => cases done

theorem Transition.signed {history : History} {s s' : Device} {event : Event} {output : Output}
    (transition : Transition sdk build s event (s', output)) (running : s'.ended = false)
    (turn : InTurn ⟨s, event, output, s'⟩) (signed : Signed sdk history s.app.ctx) :
    Signed sdk (⟨s, event, output, s'⟩ :: history) s'.app.ctx := by
  cases transition with
  | ended effect => cases running
  | sent effect | opened effect =>
      exact effect.signed rfl ⟨s, .command _ _, ⟨some _, none⟩, _⟩ rfl rfl rfl turn signed
  | badLength | address pending | setting pending =>
      exact signed.keep (not_begins_of_none rfl) rfl rfl
  | transaction pending offered validates =>
      subst validates
      refine .of_outside ?_
      rcases (validated_frame _ _ _ _).2 with none | approved
      · rw [none]
        exact ⟨nofun, nofun⟩
      · rw [approved]
        exact ⟨nofun, nofun⟩

theorem inOrder_of_transition {history : History} {s s' : Device} {event : Event} {output : Output}
    (transition : Transition sdk build s event (s', output))
    (turn : InTurn ⟨s, event, output, s'⟩) (signed : Signed sdk history s.app.ctx) :
    Ordered sdk ⟨s, event, output, s'⟩ history := by
  intro data chunk more routed later
  by_cases request : s.app.ctx.reqType = .confirmTransaction
  · have turned := turn data chunk more routed later request
    refine ⟨fun _ => ⟨request, turned⟩, fun _ other => ?_,
      fun outOfTurn => absurd ⟨request, turned⟩ outOfTurn⟩
    have state : s.app.ctx.state = .magicOk := turned.trans (if_neg other)
    exact ⟨signed.path (.inr state), signed.magic state⟩
  · obtain ⟨rfl, rfl⟩ := transition.misplaced routed later request
    have answered : Taken.AnsweredBy
        ⟨s', event, ⟨some (.send (.ofSw .swBadState)), none⟩, s'⟩ .swBadState := rfl
    exact ⟨fun other => absurd answered other, fun other => absurd answered other,
      fun _ => ⟨answered, rfl⟩⟩

/-- **When the order of a session is enforced.** -/
theorem session_ordered (sdk : Sdk) (build : Build) {history : History} {s : Device}
    (run : Run (device sdk build) history s) (turns : Along (fun entry _ => InTurn entry) history) :
    Along (Ordered sdk) history := by
  refine @Run.along _ _ _ (device sdk build) (fun entry _ => InTurn entry) (Ordered sdk)
    (fun history s => s.ended = false → Signed sdk history s.app.ctx) ?_ ?_ ?_ _ _ run turns
  · intro s starts _
    rw [starts.1]
    exact .of_outside ⟨nofun, nofun⟩
  · intro history s event s' output run holds moved turn running
    exact (step_transition (run_separate run) moved).signed running turn
      (holds (running_of_step moved))
  · intro history s event s' output run holds moved turn
    exact inOrder_of_transition (step_transition (run_separate run) moved) turn
      (holds (running_of_step moved))

/-- A session in its order. -/
theorem session_ordered_first : ∃ history s, Run (device .reference .bagl) history s ∧
    history.length = 2 ∧ s.app.ctx.state = .magicOk ∧ Along (Ordered .reference) history := by
  have run := @run_session .bagl _ _ run_atStart rfl
  refine ⟨_, _, run, rfl, rfl, session_ordered .reference .bagl run ⟨?_, ?_, trivial⟩⟩
  · intro data chunk more routed later _
    cases route_magicCommand.symm.trans (Option.some.inj routed)
    rfl
  · intro data chunk more routed later _
    cases route_pathCommand.symm.trans (Option.some.inj routed)
    exact absurd rfl later

/-- A part of a transaction without a magic before it. -/
def earlyPart : Command := .signTx 2 true [0] (by decide)

/-- **A part is stored before a magic has come.** -/
theorem session_outOfOrder : ∃ history s, Run (device .reference .bagl) history s ∧
    s.app.ctx.state = .bip44Ok ∧ s.app.ctx.txInfo.received = [0] ∧
    ¬ Along (Ordered .reference) history := by
  have path := @run_path .bagl _ _ run_atStart rfl
  have route : earlyPart.route = .signTx [0] 2 true :=
    Command.route_signTx (by decide) (fun _ => rfl)
  have fits : App.zero.onPath.ctx.txInfo.rawTxLen + [(0 : UInt8)].length ≤ maxTransactionLen := by
    decide
  have handled := @handle_part .reference .bagl .success App.zero.onPath rfl _ _ two_part fits
  rw [← route] at handled
  have run := run_answered path rfl handled
  refine ⟨_, _, run, rfl, ?_, fun ordered => ?_⟩
  · exact TransactionCtx.received_receive _ _ fits
  · have order := ordered.1 [0] 2 true (congrArg some route) (by decide)
    have accepted := order.accepted nofun
    exact nomatch accepted.2

end AppNeo3

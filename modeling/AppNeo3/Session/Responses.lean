import AppNeo3.Session.SingleReview

/-!
# Commands and responses

The host sends a command and waits for one response. A command is answered at once, or
its review is answered when the user decides. No response is sent twice, and none is
lost but that of a review which another one has replaced, and that of the command at
which the application has ended (`responses_counted`).
-/

set_option autoImplicit false

namespace AppNeo3

open Runs

variable {sdk : Sdk} {build : Build}

/-- A command, or bytes that are none. -/
def Event.asks : Event → Bool
  | .command _ _ | .badLength => true
  | _ => false

/-- A response is sent. -/
def Output.responds (output : Output) : Bool :=
  match output.answer with
  | some (.send _) => true
  | _ => false

namespace Taken

/-- The entry takes something to respond to. -/
def Asks (entry : Taken) : Prop := entry.event.asks = true

/-- The entry sends a response. -/
def Responds (entry : Taken) : Prop := entry.output.responds = true

/-- The entry opens a review while another one is on the screen. -/
def Replaces (entry : Taken) : Prop :=
  (entry.output.opens && entry.before.pending.isSome) = true

instance : DecidablePred Taken.Asks := fun _ => inferInstanceAs (Decidable (_ = _))

instance : DecidablePred Taken.Responds := fun _ => inferInstanceAs (Decidable (_ = _))

instance : DecidablePred Taken.Replaces := fun _ => inferInstanceAs (Decidable (_ = _))

end Taken

/-- How many responses are to come: that of the review on the screen, and the one that an
application which has ended does not send. -/
def Device.owes (s : Device) : Nat := s.pending.isSome.toNat + s.ended.toNat

/-- Every command has its response, or it is still to come, or its review has been
replaced. -/
def Balanced (history : History) (s : Device) : Prop :=
  times Taken.Asks history =
    times Taken.Responds history + times Taken.Replaces history + s.owes

/-- **A step keeps the balance.** -/
theorem Transition.balanced {history : History} {s s' : Device} {event : Event} {output : Output}
    (transition : Transition sdk build s event (s', output)) (running : s.ended = false)
    (balanced : Balanced history s) : Balanced (⟨s, event, output, s'⟩ :: history) s' := by
  have adds : s.owes + event.asks.toNat = s'.owes + output.responds.toNat +
      (output.opens && s.pending.isSome).toNat := by
    cases transition with
    | ended effect => simp [Device.owes, Event.asks, Output.responds, Output.opens, running]
    | sent effect | badLength => simp [Device.owes, Event.asks, Output.responds, Output.opens]
    | opened effect =>
        cases pending : s.pending <;>
          simp [Device.owes, Event.asks, Output.responds, Output.opens, pending, Nat.add_comm]
    | address pending | transaction pending offered validates | setting pending =>
        simp [Device.owes, Event.asks, Output.responds, Output.opens, pending, Nat.add_comm]
  have asked : times Taken.Asks (⟨s, event, output, s'⟩ :: history) =
      times Taken.Asks history + event.asks.toNat :=
    times_cons_eq (fun entry : Taken => entry.event.asks) _ history
  have responded : times Taken.Responds (⟨s, event, output, s'⟩ :: history) =
      times Taken.Responds history + output.responds.toNat :=
    times_cons_eq (fun entry : Taken => entry.output.responds) _ history
  have replaced : times Taken.Replaces (⟨s, event, output, s'⟩ :: history) =
      times Taken.Replaces history + (output.opens && s.pending.isSome).toNat :=
    times_cons_eq (fun entry : Taken => entry.output.opens && entry.before.pending.isSome) _ history
  rw [Balanced] at balanced ⊢
  rw [asked, responded, replaced]
  omega

/-- **Every command has one response**: the number of commands is that of the responses,
of the reviews that have been replaced, and of the responses still to come. -/
theorem responses_counted (sdk : Sdk) (build : Build) {history : History} {s : Device}
    (run : Run (device sdk build) history s) : Balanced history s := by
  induction run with
  | start starts =>
      show 0 = 0 + 0 + _
      rw [Device.owes, starts.2.1, starts.2.2]
      rfl
  | step run moved balanced =>
      exact (step_transition (run_separate run) moved).balanced (running_of_step moved) balanced

/-- The commands of the first session; the response to the last one is to come. -/
theorem responses_counted_transfer :
    times Taken.Asks (transferHistory .bagl) = times Taken.Responds (transferHistory .bagl) +
      times Taken.Replaces (transferHistory .bagl) + 1 :=
  responses_counted .reference .bagl (run_transfer .bagl)

end AppNeo3

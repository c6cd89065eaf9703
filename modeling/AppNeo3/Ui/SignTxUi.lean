import AppNeo3.Ui.SignTxBagl
import AppNeo3.Ui.SignTxNbgl

/-!
# The transaction review of either build

`start_sign_tx_ui` is one of two functions, by the build. Both open a review that
can be approved exactly when the script is not refused.
-/

set_option autoImplicit false

namespace AppNeo3

/-- The two builds: devices with buttons and devices with touch screens. -/
inductive Build where
  | bagl
  | nbgl
deriving DecidableEq, Repr

/-- What is on the screen while a transaction is reviewed. -/
inductive SignTxScreen where
  | flow (steps : List FlowStep)
  | pairs (screen : Nbgl.Screen)
deriving DecidableEq

def startSignTxUi (build : Build) (tx : Transaction) (storage : InternalStorage) : SignTxScreen :=
  match build with
  | .bagl => .flow (Bagl.createTransactionFlow tx storage)
  | .nbgl => .pairs (Nbgl.startSignTxUi storage tx)

/-- Whether the screen lets the user approve. -/
def SignTxScreen.approvable : SignTxScreen → Bool
  | .flow steps => decide (FlowStep.approve ∈ steps)
  | .pairs screen => screen.approvable

/-- **A review can be approved exactly when the script is not refused.** -/
theorem approvable_startSignTxUi (build : Build) (tx : Transaction) (storage : InternalStorage) :
    (startSignTxUi build tx storage).approvable = !scriptRefused tx storage := by
  cases build with
  | bagl =>
      rw [startSignTxUi, SignTxScreen.approvable, Bool.eq_iff_iff, decide_eq_true_iff,
        Bagl.approve_mem_iff, Bool.not_eq_true']
  | nbgl => exact Nbgl.approvable_startSignTxUi storage tx

end AppNeo3

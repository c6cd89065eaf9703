import AppNeo3.Types
import AppNeo3.Ui.SignTxUi

/-!
# What the handlers work on

The handlers and the review callbacks share the global context, the texts of the
reviews and the stored settings. A handler sends a response or opens a review.
Beside what is on the screen, a review records what the context held when it was
opened; the record takes no part in what the application does.
-/

set_option autoImplicit false

namespace AppNeo3

open Memory

/-- The data of the application. -/
structure App where
  ctx : GlobalCtx
  gTx : GlobalItemStorage
  gAddress : Area Char (addressLen + 1)
  storage : InternalStorage
deriving DecidableEq

/-- The zeroed data, with the settings of a new installation. -/
def App.zero : App := ⟨.zero, .zero, Area.fill _ CText.nul, .zero⟩

/-- A response: data and a status word. -/
structure Reply where
  data : List UInt8
  sw : StatusWord
deriving DecidableEq

/-- A response without data. -/
def Reply.ofSw (sw : StatusWord) : Reply := ⟨[], sw⟩

/-- The review of an address: the text shown, and the key it was computed from. -/
structure AddressReview where
  address : List Char
  key : Area UInt8 pubkeyLen
deriving DecidableEq

/-- The review of a transaction: the screen, and the context and the settings that
it was opened with. -/
structure TransactionReview where
  screen : SignTxScreen
  built : GlobalCtx
  settings : InternalStorage
deriving DecidableEq

inductive Review where
  | address (review : AddressReview)
  | transaction (review : TransactionReview)
deriving DecidableEq

/-- What a handler does at its end. -/
inductive Answer where
  | send (reply : Reply)
  | start (review : Review)
deriving DecidableEq

/-- A handler leaves the data and an answer. It leaves nothing when the
application ends, on a failed assertion. -/
abbrev Handled : Type := Option (App × Answer)

namespace App

variable (app : App)

/-- Answer with a status word, with the context given. -/
def send (ctx : GlobalCtx) (sw : StatusWord) : Handled :=
  some ({ app with ctx := ctx }, .send (.ofSw sw))

/-- `helper_send_response_pubkey`: the uncompressed point. -/
def sendResponsePubkey : Reply := ⟨0x04 :: app.ctx.rawPublicKey.cells, .swoSuccess⟩

end App

end AppNeo3

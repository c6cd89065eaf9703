import AppNeo3.Foundation.Memory
import AppNeo3.Foundation.CText
import AppNeo3.Foundation.DecimalText
import AppNeo3.Foundation.ByteOrder
import AppNeo3.Foundation.Varint
import AppNeo3.Foundation.Base58
import AppNeo3.Foundation.CBody
import AppNeo3.Foundation.Cursor
import AppNeo3.Foundation.Cuts
import AppNeo3.Foundation.InnerRuns
import AppNeo3.Foundation.Lagging
import AppNeo3.Foundation.Walks
import AppNeo3.Foundation.Pages
import AppNeo3.Foundation.Runs
import AppNeo3.Foundation.Refinement
import AppNeo3.Foundation.Simulation
import AppNeo3.Foundation.Stores
import AppNeo3.Foundation.CountedArray
import AppNeo3.Foundation.SlotCache
import AppNeo3.Constants
import AppNeo3.Sdk.Interface
import AppNeo3.Sdk.Reference
import AppNeo3.Sdk.FlowEngine
import AppNeo3.Sdk.PageEngine
import AppNeo3.Common.AppBuffer
import AppNeo3.Common.Bip44
import AppNeo3.Common.PathRules
import AppNeo3.Common.AppFormat
import AppNeo3.Types
import AppNeo3.Transaction.Types
import AppNeo3.Transaction.TxUtils
import AppNeo3.Transaction.Scripts
import AppNeo3.Transaction.ScriptRefinement
import AppNeo3.Transaction.Deserialize
import AppNeo3.Transaction.Layout
import AppNeo3.Transaction.DeserializeRefinement
import AppNeo3.Transaction.Grammar
import AppNeo3.Transaction.Decoding
import AppNeo3.Transaction.Recognised
import AppNeo3.Transaction.ScriptKinds
import AppNeo3.Transaction.Truncation
import AppNeo3.Transaction.Leftovers
import AppNeo3.Transaction.RawParser
import AppNeo3.Transaction.RawRefinement
import AppNeo3.Transaction.MemorySafety
import AppNeo3.Ui.Utils
import AppNeo3.Ui.SignTxBagl
import AppNeo3.Ui.SignTxCommon
import AppNeo3.Ui.ReviewFlow
import AppNeo3.Ui.AddressFlow
import AppNeo3.Ui.Menu
import AppNeo3.Ui.PairReview
import AppNeo3.Ui.SignTxNbgl
import AppNeo3.Ui.TransactionFlow
import AppNeo3.Ui.SignTxUi
import AppNeo3.Ui.UiGetPublicKey
import AppNeo3.Ui.Validate
import AppNeo3.Review.TokenAmount
import AppNeo3.Review.Fees
import AppNeo3.Review.Numbers
import AppNeo3.Review.StaticFacts
import AppNeo3.Review.SignerFacts
import AppNeo3.Review.SignersShown
import AppNeo3.Review.SignersDetermined
import AppNeo3.Review.SignerDetails
import AppNeo3.Review.SignerCursor
import AppNeo3.Review.ItemTexts
import AppNeo3.Review.FlowPlaces
import AppNeo3.Review.FlowReview
import AppNeo3.Review.AddressReading
import AppNeo3.Review.PairList
import AppNeo3.Review.PairPages
import AppNeo3.App
import AppNeo3.Crypto
import AppNeo3.Handler.GetPublicKey
import AppNeo3.Handler.SignTx
import AppNeo3.Apdu.Dispatcher
import AppNeo3.Host.CommandBuilder
import AppNeo3.Device
import AppNeo3.Session.KeyFailure
import AppNeo3.Session.Effects
import AppNeo3.Session.History
import AppNeo3.Session.Order
import AppNeo3.Session.Approvals
import AppNeo3.Session.Parses
import AppNeo3.Session.SignedScripts
import AppNeo3.Session.SingleReview
import AppNeo3.Session.Responses
import AppNeo3.Session.SeedSecrecy
import AppNeo3.Session.Refusals
import AppNeo3.Session.Delivery
import AppNeo3.Session.Held
import AppNeo3.Session.Following
import AppNeo3.Session.HostSession
import AppNeo3.Session.BaglDevice
import AppNeo3.Session.BaglRuns
import AppNeo3.Session.BaglFollows
import AppNeo3.Session.BaglSignatures
import AppNeo3.Session.BaglAddresses
import AppNeo3.Session.NbglDevice
import AppNeo3.Session.NbglRuns
import AppNeo3.Session.NbglFollows
import AppNeo3.Session.NbglSignatures
import AppNeo3.Session.HostScreens

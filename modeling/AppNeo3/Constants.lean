/-!
# Constants and status words

The constants of `constants.h`, `dispatcher.h` and `transaction_types.h` that the
modelled functions use, and the status words of `sw.h` and of the SDK.
-/

set_option autoImplicit false

namespace AppNeo3

/-! ## Sizes -/

/-- Instruction class of the application. -/
def cla : UInt8 := 0x80

/-- Maximum transaction length (bytes). -/
def maxTransactionLen : Nat := 1024

/-- Maximum signature length (bytes). -/
def maxDerSigLen : Nat := 72

/-- Length of the BIP44 path, in levels. -/
abbrev bip44PathLen : Nat := 5

/-- Length of the BIP44 path, in bytes. -/
def bip44ByteLength : Nat := bip44PathLen * 4

def bip44CoinTypeNeo : UInt32 := 0x80000378

def bip44Purpose : UInt32 := 0x8000002C

/-- NEO Main network magic. -/
def networkMainnet : UInt32 := 860833102

/-- NEO Test network magic. -/
def networkTestnet : UInt32 := 894710606

/-- Parameter 2 for last APDU to receive. -/
def p2Last : UInt8 := 0x00

/-- Parameter 2 for more APDU to receive. -/
def p2More : UInt8 := 0x80

/-- Parameter 1 for first APDU number. -/
def p1Start : UInt8 := 0x00

/-- Parameter 1 for maximum APDU number. -/
def p1Max : UInt8 := 0x06

/-- Length of a base58 encoded address. -/
abbrev addressLen : Nat := 34

abbrev uint160Len : Nat := 20

abbrev ecpointLen : Nat := 33

abbrev sha256HashLen : Nat := 32

/-- Maximum number of signers of a transaction. -/
abbrev maxTxSigners : Nat := 2

/-- Minimum number of signers. The first signer is the sender. -/
abbrev minTxSigners : Nat := 1

abbrev maxSignerAllowedGroups : Nat := 2

abbrev maxSignerAllowedContracts : Nat := 16

abbrev maxAttributes : Nat := 2

/-! ## Witness scopes and attribute types -/

/-- Bits of `witness_scope_e`. -/
def calledByEntry : UInt8 := 0x01

def customContracts : UInt8 := 0x10

def customGroups : UInt8 := 0x20

def global : UInt8 := 0x80

/-- The one attribute type that is accepted. -/
def highPriority : UInt8 := 0x1

/-! ## Status words -/

/-- The status words of the responses. -/
inductive StatusWord where
  | swoSuccess
  | swoConditionsNotSatisfied
  | swoIncorrectP1P2
  | swoWrongDataLength
  | swoInvalidIns
  | swoInvalidCla
  | swWrongTxLength
  | swTxParsingFail
  | swBadState
  | swSignFail
  | swBip44BadPurpose
  | swBip44BadCoinType
  | swBip44AccountNotHardened
  | swBip44BadAccount
  | swBip44BadChange
  | swBip44BadAddress
  | swMagicParsingFail
  | swDisplaySystemFeeFail
  | swDisplayNetworkFeeFail
  | swDisplayTotalFeeFail
  | swDisplayTokenTransferAmountFail
  | swDisplayScriptHashFail
  | swConvertToAddressFail
deriving DecidableEq, Repr

/-- The two bytes of a status word. -/
def StatusWord.code : StatusWord → UInt16
  | .swoSuccess => 0x9000
  | .swoConditionsNotSatisfied => 0x6985
  | .swoIncorrectP1P2 => 0x6A86
  | .swoWrongDataLength => 0x6A87
  | .swoInvalidIns => 0x6D00
  | .swoInvalidCla => 0x6E00
  | .swWrongTxLength => 0xB001
  | .swTxParsingFail => 0xB002
  | .swBadState => 0xB004
  | .swSignFail => 0xB005
  | .swBip44BadPurpose => 0xB100
  | .swBip44BadCoinType => 0xB101
  | .swBip44AccountNotHardened => 0xB102
  | .swBip44BadAccount => 0xB103
  | .swBip44BadChange => 0xB104
  | .swBip44BadAddress => 0xB105
  | .swMagicParsingFail => 0xB106
  | .swDisplaySystemFeeFail => 0xB107
  | .swDisplayNetworkFeeFail => 0xB108
  | .swDisplayTotalFeeFail => 0xB109
  | .swDisplayTokenTransferAmountFail => 0xB10A
  | .swDisplayScriptHashFail => 0xB10B
  | .swConvertToAddressFail => 0xB200

/-- Two status words are never sent as the same code. -/
theorem StatusWord.code_inj {first second : StatusWord} (same : first.code = second.code) :
    first = second := by
  cases first <;> cases second <;> first | rfl | exact absurd same (by decide)

end AppNeo3

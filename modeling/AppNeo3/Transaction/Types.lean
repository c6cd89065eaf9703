import AppNeo3.Constants
import AppNeo3.Foundation.CText
import AppNeo3.Foundation.Stores

/-!
# The transaction structure

`transaction_types.h`: the parser's status codes and `transaction_t`. A pointer
into the parsed bytes is the position it points to; `none` is the null pointer of
a zeroed structure.

The functions that fill a transaction change it by assignments to single fields
(`TxWrite`), each with one field as its target. `txFields` gives the values the
fields have after a list of assignments.
-/

set_option autoImplicit false

namespace AppNeo3

open Memory Stores

/-! ## Status codes -/

/-- `parser_status_e`. -/
inductive ParserStatus where
  | parsingOk
  | invalidLengthError
  | versionParsingError
  | versionValueError
  | nonceParsingError
  | systemFeeParsingError
  | systemFeeValueError
  | networkFeeParsingError
  | networkFeeValueError
  | validUntilBlockParsingError
  | signerLengthParsingError
  | signerLengthValueError
  | signerAccountParsingError
  | signerAccountDuplicateError
  | signerScopeParsingError
  | signerScopeValueErrorGlobalFlag
  | signerAllowedContractsLengthParsingError
  | signerAllowedContractsLengthValueError
  | signerAllowedContractParsingError
  | signerAllowedGroupsLengthParsingError
  | signerAllowedGroupsLengthValueError
  | signerAllowedGroupsParsingError
  | attributesLengthParsingError
  | attributesLengthValueError
  | attributesUnsupportedType
  | attributesDuplicateType
  | scriptLengthParsingError
  | scriptLengthValueError
deriving DecidableEq, Repr

/-- The number of a status; the errors count down from -1. -/
def ParserStatus.code : ParserStatus → Int
  | .parsingOk => 1
  | status => -(status.ctorIdx : Int)

example : ParserStatus.code .scriptLengthValueError = -27 := by decide

/-! ## The structure -/

/-- `signer_t`. -/
structure Signer where
  account : Option Nat
  scope : UInt8
  allowedContracts : Vector (Option Nat) maxSignerAllowedContracts
  allowedContractsSize : UInt8
  allowedGroups : Vector (Option Nat) maxSignerAllowedGroups
  allowedGroupsSize : UInt8
deriving DecidableEq

/-- `attribute_t`. -/
structure Attribute where
  type : UInt8
deriving DecidableEq

/-- `transaction_t`. -/
structure Transaction where
  version : UInt8
  nonce : UInt32
  systemFee : Int64
  networkFee : Int64
  validUntilBlock : UInt32
  signers : Vector Signer maxTxSigners
  signersSize : UInt8
  attributes : Vector Attribute maxAttributes
  attributesSize : UInt8
  script : Option Nat
  scriptSize : UInt16
  isSystemAssetTransfer : Bool
  isNeo : Bool
  amount : Int64
  dstAddress : Area Char addressLen
  isVoteScript : Bool
  isRemoveVote : Bool
  voteTo : Area UInt8 ecpointLen
deriving DecidableEq

def Signer.zero : Signer := ⟨none, 0, Vector.replicate _ none, 0, Vector.replicate _ none, 0⟩

/-- The all-zero transaction. -/
def Transaction.zero : Transaction where
  version := 0
  nonce := 0
  systemFee := 0
  networkFee := 0
  validUntilBlock := 0
  signers := Vector.replicate _ Signer.zero
  signersSize := 0
  attributes := Vector.replicate _ ⟨0⟩
  attributesSize := 0
  script := none
  scriptSize := 0
  isSystemAssetTransfer := false
  isNeo := false
  amount := 0
  dstAddress := Area.fill _ CText.nul
  isVoteScript := false
  isRemoveVote := false
  voteTo := Area.fill _ 0

/-- The script bytes of a transaction in the bytes it was parsed from. -/
def Transaction.scriptBytes (tx : Transaction) (b : List UInt8) : List UInt8 :=
  slice b (tx.script.getD 0) tx.scriptSize.toNat

/-! ## Assignments -/

/-- The fields of a signer, with the indices of array elements. -/
inductive SignerField where
  | account
  | scope
  | allowedContract (index : Nat)
  | allowedContractsSize
  | allowedGroup (index : Nat)
  | allowedGroupsSize
deriving DecidableEq

/-- The fields of a transaction. -/
inductive TxField where
  | version
  | nonce
  | systemFee
  | networkFee
  | validUntilBlock
  | signer (index : Nat) (field : SignerField)
  | signersSize
  | attributeType (index : Nat)
  | attributesSize
  | script
  | scriptSize
  | isSystemAssetTransfer
  | isNeo
  | amount
  | dstAddress
  | isVoteScript
  | isRemoveVote
  | voteTo
deriving DecidableEq

/-- The values of fields. -/
inductive TxValue where
  | number (value : Int)
  | pointer (position : Option Nat)
  | flag (value : Bool)
  | address (chars : Area Char addressLen)
  | key (bytes : Area UInt8 ecpointLen)
deriving DecidableEq

/-- The assignments to a signer. -/
inductive SignerWrite where
  | account (position : Nat)
  | scope (value : UInt8)
  | allowedContract (index position : Nat)
  | allowedContractsSize (value : UInt8)
  | allowedGroup (index position : Nat)
  | allowedGroupsSize (value : UInt8)
deriving DecidableEq

/-- The assignments that the parser and the recognisers make. -/
inductive TxWrite where
  | version (value : UInt8)
  | nonce (value : UInt32)
  | systemFee (value : Int64)
  | networkFee (value : Int64)
  | validUntilBlock (value : UInt32)
  | signer (index : Nat) (write : SignerWrite)
  | signersSize (value : UInt8)
  | attributeType (index : Nat) (type : UInt8)
  | attributesSize (value : UInt8)
  | script (position : Nat)
  | scriptSize (value : UInt16)
  | isSystemAssetTransfer (value : Bool)
  | isNeo (value : Bool)
  | amount (value : Int64)
  | dstAddress (chars : Area Char addressLen)
  | isVoteScript (value : Bool)
  | isRemoveVote (value : Bool)
  | voteTo (bytes : Area UInt8 ecpointLen)
deriving DecidableEq

def SignerWrite.target : SignerWrite → SignerField
  | .account _ => .account
  | .scope _ => .scope
  | .allowedContract index _ => .allowedContract index
  | .allowedContractsSize _ => .allowedContractsSize
  | .allowedGroup index _ => .allowedGroup index
  | .allowedGroupsSize _ => .allowedGroupsSize

/-- The field an assignment changes. -/
def TxWrite.target : TxWrite → TxField
  | .version _ => .version
  | .nonce _ => .nonce
  | .systemFee _ => .systemFee
  | .networkFee _ => .networkFee
  | .validUntilBlock _ => .validUntilBlock
  | .signer index write => .signer index write.target
  | .signersSize _ => .signersSize
  | .attributeType index _ => .attributeType index
  | .attributesSize _ => .attributesSize
  | .script _ => .script
  | .scriptSize _ => .scriptSize
  | .isSystemAssetTransfer _ => .isSystemAssetTransfer
  | .isNeo _ => .isNeo
  | .amount _ => .amount
  | .dstAddress _ => .dstAddress
  | .isVoteScript _ => .isVoteScript
  | .isRemoveVote _ => .isRemoveVote
  | .voteTo _ => .voteTo

def SignerWrite.value : SignerWrite → TxValue
  | .account position => .pointer (some position)
  | .scope value => .number value.toNat
  | .allowedContract _ position => .pointer (some position)
  | .allowedContractsSize value => .number value.toNat
  | .allowedGroup _ position => .pointer (some position)
  | .allowedGroupsSize value => .number value.toNat

/-- The value an assignment stores. -/
def TxWrite.value : TxWrite → TxValue
  | .version value => .number value.toNat
  | .nonce value => .number value.toNat
  | .systemFee value => .number value.toInt
  | .networkFee value => .number value.toInt
  | .validUntilBlock value => .number value.toNat
  | .signer _ write => write.value
  | .signersSize value => .number value.toNat
  | .attributeType _ type => .number type.toNat
  | .attributesSize value => .number value.toNat
  | .script position => .pointer (some position)
  | .scriptSize value => .number value.toNat
  | .isSystemAssetTransfer value => .flag value
  | .isNeo value => .flag value
  | .amount value => .number value.toInt
  | .dstAddress chars => .address chars
  | .isVoteScript value => .flag value
  | .isRemoveVote value => .flag value
  | .voteTo bytes => .key bytes

def SignerField.inBounds : SignerField → Bool
  | .allowedContract index => index < maxSignerAllowedContracts
  | .allowedGroup index => index < maxSignerAllowedGroups
  | _ => true

/-- The indices of a field are below the sizes of the arrays. -/
def TxField.inBounds : TxField → Bool
  | .signer index field => index < maxTxSigners && field.inBounds
  | .attributeType index => index < maxAttributes
  | _ => true

/-- Change one element of an array. -/
def modifyAt {α : Type} {n : Nat} (cells : Vector α n) (index : Nat) (f : α → α) : Vector α n :=
  Vector.ofFn fun k : Fin n => if k.val = index then f cells[k] else cells[k]

/-- Make an assignment to a signer. -/
def Signer.assign (s : Signer) : SignerWrite → Signer
  | .account position => { s with account := some position }
  | .scope value => { s with scope := value }
  | .allowedContract index position =>
      { s with allowedContracts := modifyAt s.allowedContracts index fun _ => some position }
  | .allowedContractsSize value => { s with allowedContractsSize := value }
  | .allowedGroup index position =>
      { s with allowedGroups := modifyAt s.allowedGroups index fun _ => some position }
  | .allowedGroupsSize value => { s with allowedGroupsSize := value }

/-- The value of a field; beyond an array the null pointer. -/
def Signer.field (s : Signer) : SignerField → TxValue
  | .account => .pointer s.account
  | .scope => .number s.scope.toNat
  | .allowedContract index => .pointer (s.allowedContracts[index]?.getD none)
  | .allowedContractsSize => .number s.allowedContractsSize.toNat
  | .allowedGroup index => .pointer (s.allowedGroups[index]?.getD none)
  | .allowedGroupsSize => .number s.allowedGroupsSize.toNat

namespace Transaction

/-- Make an assignment. -/
def assign (tx : Transaction) : TxWrite → Transaction
  | .version value => { tx with version := value }
  | .nonce value => { tx with nonce := value }
  | .systemFee value => { tx with systemFee := value }
  | .networkFee value => { tx with networkFee := value }
  | .validUntilBlock value => { tx with validUntilBlock := value }
  | .signer index write =>
      { tx with signers := modifyAt tx.signers index fun s => s.assign write }
  | .signersSize value => { tx with signersSize := value }
  | .attributeType index type =>
      { tx with attributes := modifyAt tx.attributes index fun _ => ⟨type⟩ }
  | .attributesSize value => { tx with attributesSize := value }
  | .script position => { tx with script := some position }
  | .scriptSize value => { tx with scriptSize := value }
  | .isSystemAssetTransfer value => { tx with isSystemAssetTransfer := value }
  | .isNeo value => { tx with isNeo := value }
  | .amount value => { tx with amount := value }
  | .dstAddress chars => { tx with dstAddress := chars }
  | .isVoteScript value => { tx with isVoteScript := value }
  | .isRemoveVote value => { tx with isRemoveVote := value }
  | .voteTo bytes => { tx with voteTo := bytes }

/-- The value of a field; beyond an array the one of a zeroed element. -/
def field (tx : Transaction) : TxField → TxValue
  | .version => .number tx.version.toNat
  | .nonce => .number tx.nonce.toNat
  | .systemFee => .number tx.systemFee.toInt
  | .networkFee => .number tx.networkFee.toInt
  | .validUntilBlock => .number tx.validUntilBlock.toNat
  | .signer index field => (tx.signers[index]?.getD Signer.zero).field field
  | .signersSize => .number tx.signersSize.toNat
  | .attributeType index => .number (tx.attributes[index]?.getD ⟨0⟩).type.toNat
  | .attributesSize => .number tx.attributesSize.toNat
  | .script => .pointer tx.script
  | .scriptSize => .number tx.scriptSize.toNat
  | .isSystemAssetTransfer => .flag tx.isSystemAssetTransfer
  | .isNeo => .flag tx.isNeo
  | .amount => .number tx.amount.toInt
  | .dstAddress => .address tx.dstAddress
  | .isVoteScript => .flag tx.isVoteScript
  | .isRemoveVote => .flag tx.isRemoveVote
  | .voteTo => .key tx.voteTo

end Transaction

/-! ## What an assignment changes -/

section Arrays

variable {α : Type} {n : Nat} (cells : Vector α n) {index k : Nat} (f : α → α)

theorem getElem?_modifyAt_self (inside : index < n) (default : α) :
    (modifyAt cells index f)[index]?.getD default = f (cells[index]?.getD default) := by
  simp [modifyAt, inside]

theorem getElem?_modifyAt_of_ne (other : index ≠ k) : (modifyAt cells index f)[k]? = cells[k]? := by
  by_cases inside : k < n
  · simp [modifyAt, inside, other.symm]
  · rw [Vector.getElem?_eq_none (Nat.le_of_not_lt inside),
      Vector.getElem?_eq_none (Nat.le_of_not_lt inside)]

end Arrays

theorem Signer.field_assign (s : Signer) (write : SignerWrite)
    (valid : write.target.inBounds = true) :
    (s.assign write).field write.target = write.value := by
  cases write with
  | allowedContract index position =>
      have inside : index < maxSignerAllowedContracts := of_decide_eq_true valid
      simp only [SignerWrite.target, Signer.assign, Signer.field, SignerWrite.value,
        getElem?_modifyAt_self _ _ inside]
  | allowedGroup index position =>
      have inside : index < maxSignerAllowedGroups := of_decide_eq_true valid
      simp only [SignerWrite.target, Signer.assign, Signer.field, SignerWrite.value,
        getElem?_modifyAt_self _ _ inside]
  | _ => rfl

theorem Signer.field_assign_of_ne (s : Signer) (write : SignerWrite) (field : SignerField)
    (other : write.target ≠ field) : (s.assign write).field field = s.field field := by
  cases write with
  | allowedContract index position =>
      cases field with
      | allowedContract k =>
          have indices : index ≠ k := fun same => other (same ▸ rfl)
          simp only [Signer.assign, Signer.field, getElem?_modifyAt_of_ne _ _ indices]
      | _ => simp only [Signer.assign, Signer.field]
  | allowedGroup index position =>
      cases field with
      | allowedGroup k =>
          have indices : index ≠ k := fun same => other (same ▸ rfl)
          simp only [Signer.assign, Signer.field, getElem?_modifyAt_of_ne _ _ indices]
      | _ => simp only [Signer.assign, Signer.field]
  | _ => cases field <;> first | exact absurd rfl other | rfl

theorem Transaction.field_assign (tx : Transaction) (write : TxWrite)
    (valid : write.target.inBounds = true) :
    (tx.assign write).field write.target = write.value := by
  cases write with
  | signer index write =>
      obtain ⟨inBounds, valid⟩ := Bool.and_eq_true_iff.mp valid
      have inside : index < maxTxSigners := of_decide_eq_true inBounds
      simp only [TxWrite.target, Transaction.assign, Transaction.field, TxWrite.value,
        getElem?_modifyAt_self _ _ inside]
      exact Signer.field_assign _ _ valid
  | attributeType index type =>
      have inside : index < maxAttributes := of_decide_eq_true valid
      simp only [TxWrite.target, Transaction.assign, Transaction.field, TxWrite.value,
        getElem?_modifyAt_self _ _ inside]
  | _ => rfl

theorem Transaction.field_assign_of_ne (tx : Transaction) (write : TxWrite) (field : TxField)
    (other : write.target ≠ field) : (tx.assign write).field field = tx.field field := by
  cases write with
  | signer index write =>
      cases field with
      | signer k field =>
          simp only [Transaction.assign, Transaction.field]
          by_cases same : index = k
          · subst same
            by_cases inside : index < maxTxSigners
            · rw [getElem?_modifyAt_self _ _ inside]
              exact Signer.field_assign_of_ne _ _ _ fun same => other (same ▸ rfl)
            · rw [Vector.getElem?_eq_none (Nat.le_of_not_lt inside),
                Vector.getElem?_eq_none (Nat.le_of_not_lt inside)]
          · rw [getElem?_modifyAt_of_ne _ _ same]
      | _ => rfl
  | attributeType index type =>
      cases field with
      | attributeType k =>
          have indices : index ≠ k := fun same => other (same ▸ rfl)
          simp only [Transaction.assign, Transaction.field, getElem?_modifyAt_of_ne _ _ indices]
      | _ => rfl
  | _ => cases field <;> first | exact absurd rfl other | rfl

/-! ## Fields make up a transaction -/

theorem TxValue.toNat_inj {first second : UInt8}
    (same : TxValue.number first.toNat = .number second.toNat) : first = second :=
  UInt8.toNat_inj.mp (Int.ofNat.inj (TxValue.number.inj same))

/-- Arrays whose elements have the same fields are equal. -/
theorem vector_eq_of_getD {α : Type} {n : Nat} {first second : Vector α n} (default : α)
    (same : ∀ index : Nat, first[index]?.getD default = second[index]?.getD default) :
    first = second := by
  refine Vector.ext fun index inside => ?_
  have cell := same index
  rwa [Vector.getElem?_eq_getElem inside, Vector.getElem?_eq_getElem inside] at cell

theorem Signer.eq_of_fields {first second : Signer}
    (same : ∀ field, first.field field = second.field field) : first = second := by
  obtain ⟨account, scope, contracts, contractsSize, groups, groupsSize⟩ := first
  have sameContracts : contracts = second.allowedContracts :=
    vector_eq_of_getD none fun index => TxValue.pointer.inj (same (.allowedContract index))
  have sameGroups : groups = second.allowedGroups :=
    vector_eq_of_getD none fun index => TxValue.pointer.inj (same (.allowedGroup index))
  have sameAccount : account = second.account := TxValue.pointer.inj (same .account)
  have sameScope : scope = second.scope := TxValue.toNat_inj (same .scope)
  have sameContractsSize : contractsSize = second.allowedContractsSize :=
    TxValue.toNat_inj (same .allowedContractsSize)
  have sameGroupsSize : groupsSize = second.allowedGroupsSize :=
    TxValue.toNat_inj (same .allowedGroupsSize)
  rw [sameAccount, sameScope, sameContracts, sameContractsSize, sameGroups, sameGroupsSize]

/-- **A transaction is what its fields are.** -/
theorem Transaction.eq_of_fields {first second : Transaction}
    (same : ∀ field, first.field field = second.field field) : first = second := by
  have signers : first.signers = second.signers :=
    vector_eq_of_getD Signer.zero fun index => Signer.eq_of_fields fun field =>
      same (.signer index field)
  have attributes : first.attributes = second.attributes :=
    vector_eq_of_getD ⟨0⟩ fun index =>
      congrArg Attribute.mk (TxValue.toNat_inj (same (.attributeType index)))
  have nonce : first.nonce = second.nonce :=
    UInt32.toNat_inj.mp (Int.ofNat.inj (TxValue.number.inj (same .nonce)))
  have systemFee : first.systemFee = second.systemFee :=
    Int64.toInt_inj.mp (TxValue.number.inj (same .systemFee))
  have networkFee : first.networkFee = second.networkFee :=
    Int64.toInt_inj.mp (TxValue.number.inj (same .networkFee))
  have validUntilBlock : first.validUntilBlock = second.validUntilBlock :=
    UInt32.toNat_inj.mp (Int.ofNat.inj (TxValue.number.inj (same .validUntilBlock)))
  have scriptSize : first.scriptSize = second.scriptSize :=
    UInt16.toNat_inj.mp (Int.ofNat.inj (TxValue.number.inj (same .scriptSize)))
  have amount : first.amount = second.amount :=
    Int64.toInt_inj.mp (TxValue.number.inj (same .amount))
  have version := TxValue.toNat_inj (same .version)
  have signersSize := TxValue.toNat_inj (same .signersSize)
  have attributesSize := TxValue.toNat_inj (same .attributesSize)
  have script := TxValue.pointer.inj (same .script)
  have transfer := TxValue.flag.inj (same .isSystemAssetTransfer)
  have neo := TxValue.flag.inj (same .isNeo)
  have address := TxValue.address.inj (same .dstAddress)
  have vote := TxValue.flag.inj (same .isVoteScript)
  have remove := TxValue.flag.inj (same .isRemoveVote)
  have key := TxValue.key.inj (same .voteTo)
  cases first
  cases second
  simp only at *
  subst signers attributes nonce systemFee networkFee validUntilBlock scriptSize amount version
    signersSize attributesSize script transfer neo address vote remove key
  rfl

/-- **Assignments and fields.** An assignment leaves its value in its field and
every other field as it was. -/
def txFields : FieldStore Transaction TxWrite TxField TxValue where
  act := Transaction.assign
  target := TxWrite.target
  value := TxWrite.value
  read := Transaction.field
  valid write := write.target.inBounds = true
  read_act := Transaction.field_assign
  read_act_of_ne := Transaction.field_assign_of_ne

end AppNeo3

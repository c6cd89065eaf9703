import AppNeo3.Constants
import AppNeo3.Foundation.CBody
import AppNeo3.Sdk.Reference

/-!
# Reading and validating a BIP44 path

`bufferReadAndValidateBip44` reads five levels and stores each one after it has
passed its check, so a refused path may be partly stored. A path it accepts is
complete and within the limits of the checks (`accepted_valid`).
-/

set_option autoImplicit false

namespace AppNeo3

open CBody Body

/-- The levels of a path. -/
abbrev Bip44Path : Type := Vector UInt32 bip44PathLen

/-- The state of the path reader: the input and the path stored so far. -/
structure PathState where
  input : Buffer
  path : Bip44Path

/-- The reader returns the status of a refused path. -/
abbrev PathReader : Type → Type := Body PathState StatusWord

variable (sdk : Sdk)

/-- Read a level. The result of the SDK's reader is not looked at. -/
def readLevel : PathReader UInt32 := fun s =>
  .next (sdk.bufferReadU32 s.input .be).2.1 { s with input := (sdk.bufferReadU32 s.input .be).2.2 }

/-- Store a level. -/
def storeLevel (index : Fin bip44PathLen) (level : UInt32) : PathReader Unit :=
  modify fun s => { s with path := s.path.set index level }

/-- Read a level, return when it is bad, and store it. -/
def checkLevel (index : Fin bip44PathLen) (bad : UInt32 → Bool) (status : StatusWord) :
    PathReader Unit := do
  let bipLevel ← readLevel sdk
  returnIf (bad bipLevel) status
  storeLevel index bipLevel

/-- The account is hardened and within a sane range. -/
def checkAccount : PathReader Unit := do
  let bipLevel ← readLevel sdk
  returnIf (bipLevel < 0x80000000) .swBip44AccountNotHardened
  returnIf (bipLevel > 0x80000010) .swBip44BadAccount
  storeLevel 2 bipLevel

/-- The checks of a path, level by level. -/
def validatePath : PathReader Unit := do
  let s ← get
  returnIf (s.input.size < bip44ByteLength) .swoWrongDataLength
  checkLevel sdk 0 (fun level => level != bip44Purpose) .swBip44BadPurpose
  checkLevel sdk 1 (fun level => level != bip44CoinTypeNeo) .swBip44BadCoinType
  checkAccount sdk
  checkLevel sdk 3 (fun level => level != 0x0 && level != 0x1) .swBip44BadChange
  checkLevel sdk 4 (fun level => level ≥ 5000) .swBip44BadAddress

/-- Read a path over the path given: continue when it is accepted, return the
status when it is refused. -/
def bufferReadAndValidateBip44 (input : Buffer) (path : Bip44Path) :
    Outcome PathState StatusWord Unit :=
  validatePath sdk ⟨input, path⟩

/-! ## Accepted paths -/

/-- A complete path whose levels are within the limits of the checks. -/
structure ValidPath (path : Bip44Path) : Prop where
  purpose : path[0] = bip44Purpose
  coinType : path[1] = bip44CoinTypeNeo
  hardened : path[2] ≥ 0x80000000
  account : path[2] ≤ 0x80000010
  change : path[3] = 0 ∨ path[3] = 1
  addressIndex : path[4] < 5000

variable {sdk}

theorem checkLevel_next {index : Fin bip44PathLen} {bad : UInt32 → Bool} {status : StatusWord}
    {s s' : PathState} (run : checkLevel sdk index bad status s = .next () s') :
    ∃ level, bad level = false ∧ s'.path = s.path.set index level := by
  obtain ⟨level, s₁, read, run⟩ := bind_eq_next run
  obtain ⟨_, s₂, passed, stored⟩ := bind_eq_next run
  obtain ⟨good, rfl⟩ := returnIf_eq_next passed
  cases read
  cases stored
  exact ⟨_, good, rfl⟩

theorem checkAccount_next {s s' : PathState} (run : checkAccount sdk s = .next () s') :
    ∃ level, 0x80000000 ≤ level ∧ level ≤ 0x80000010 ∧ s'.path = s.path.set 2 level := by
  obtain ⟨level, s₁, read, run⟩ := bind_eq_next run
  obtain ⟨_, s₂, passed, run⟩ := bind_eq_next run
  obtain ⟨_, s₃, passed', stored⟩ := bind_eq_next run
  obtain ⟨hardened, rfl⟩ := returnIf_eq_next passed
  obtain ⟨small, rfl⟩ := returnIf_eq_next passed'
  cases read
  cases stored
  exact ⟨_, UInt32.not_lt.mp (of_decide_eq_false hardened),
    UInt32.not_lt.mp (of_decide_eq_false small), rfl⟩

/-- **A path that is accepted is complete and valid.** -/
theorem accepted_valid {input : Buffer} {path : Bip44Path} {s : PathState}
    (run : bufferReadAndValidateBip44 sdk input path = .next () s) : ValidPath s.path := by
  obtain ⟨_, s₀, start, run⟩ := bind_eq_next run
  obtain ⟨_, s₁, _, run⟩ := bind_eq_next run
  obtain ⟨_, s₂, first, run⟩ := bind_eq_next run
  obtain ⟨_, s₃, second, run⟩ := bind_eq_next run
  obtain ⟨_, s₄, third, run⟩ := bind_eq_next run
  obtain ⟨_, s₅, fourth, run⟩ := bind_eq_next run
  obtain ⟨purpose, purposeGood, storedPurpose⟩ := checkLevel_next first
  obtain ⟨coinType, coinTypeGood, storedCoinType⟩ := checkLevel_next second
  obtain ⟨account, hardened, small, storedAccount⟩ := checkAccount_next third
  obtain ⟨change, changeGood, storedChange⟩ := checkLevel_next fourth
  obtain ⟨addressIndex, addressGood, storedIndex⟩ := checkLevel_next run
  have path_eq : s.path = ((((s₁.path.set 0 purpose).set 1 coinType).set 2 account).set 3
      change).set 4 addressIndex := by
    rw [storedIndex, storedChange, storedAccount, storedCoinType, storedPurpose]
    rfl
  rw [path_eq]
  refine ⟨by simpa using purposeGood, by simpa using coinTypeGood, by simpa using hardened,
    by simpa using small, ?_, by simpa using addressGood⟩
  by_cases zero : change = 0
  · exact .inl (by simpa using zero)
  · exact .inr (by simpa [zero] using changeGood)

/-- The path of the data is accepted. -/
def PathAccepted (sdk : Sdk) (data : List UInt8) (path : Bip44Path) : Prop :=
  ∃ read : PathState, read.path = path ∧
    bufferReadAndValidateBip44 sdk (.ofBytes data) (Vector.replicate _ 0) = .next () read

theorem PathAccepted.valid {data : List UInt8} {path : Bip44Path}
    (accepted : PathAccepted sdk data path) : ValidPath path := by
  obtain ⟨_, rfl, run⟩ := accepted
  exact accepted_valid run

/-- The path of the first address. -/
def firstPath : Bip44Path := #v[bip44Purpose, bip44CoinTypeNeo, 0x80000000, 0, 0]

def firstPathData : List UInt8 :=
  [0x80, 0, 0, 0x2C, 0x80, 0, 0x03, 0x78, 0x80, 0, 0, 0, 0, 0, 0, 0, 0, 0, 0, 0]

theorem firstPath_accepted : PathAccepted Sdk.reference firstPathData firstPath :=
  ⟨⟨⟨firstPathData, 20, by decide⟩, firstPath⟩, rfl, rfl⟩

/-- The statuses that refuse a path. -/
def pathRefusals : List StatusWord :=
  [.swoWrongDataLength, .swBip44BadPurpose, .swBip44BadCoinType, .swBip44AccountNotHardened,
    .swBip44BadAccount, .swBip44BadChange, .swBip44BadAddress]

def StatusWord.Refusal (status : StatusWord) : Prop := status ∈ pathRefusals

theorem StatusWord.Refusal.ne {status : StatusWord} (refusal : status.Refusal)
    {other : StatusWord} (outside : other ∉ pathRefusals) : status ≠ other := by
  rintro rfl
  exact outside refusal

theorem returnsWithin_readLevel : ReturnsWithin StatusWord.Refusal (readLevel sdk) :=
  fun _ _ _ run => nomatch run

theorem returnsWithin_checkLevel (index : Fin bip44PathLen) (bad : UInt32 → Bool)
    (status : StatusWord) (valid : status.Refusal) :
    ReturnsWithin StatusWord.Refusal (checkLevel sdk index bad status) :=
  returnsWithin_readLevel.bind fun _ => (returnsWithin_returnIf _ valid).bind fun _ =>
    returnsWithin_modify _

/-- A refused path is not answered with success. -/
theorem bufferReadAndValidateBip44_refusal {input : Buffer} {path : Bip44Path}
    {status : StatusWord} {read : PathState}
    (run : bufferReadAndValidateBip44 sdk input path = .ret status read) : status.Refusal := by
  have known : ∀ known ∈ pathRefusals, known.Refusal := fun _ member => member
  simp only [pathRefusals, List.forall_mem_cons] at known
  obtain ⟨length, purpose, coinType, hardened, account, change, address, _⟩ := known
  have accountLevel : ReturnsWithin StatusWord.Refusal (checkAccount sdk) :=
    returnsWithin_readLevel.bind fun _ => (returnsWithin_returnIf _ hardened).bind fun _ =>
      (returnsWithin_returnIf _ account).bind fun _ => returnsWithin_modify _
  have whole : ReturnsWithin StatusWord.Refusal (validatePath sdk) :=
    returnsWithin_get.bind fun _ => (returnsWithin_returnIf _ length).bind fun _ =>
      (returnsWithin_checkLevel _ _ _ purpose).bind fun _ =>
      (returnsWithin_checkLevel _ _ _ coinType).bind fun _ => accountLevel.bind fun _ =>
      (returnsWithin_checkLevel _ _ _ change).bind fun _ => returnsWithin_checkLevel _ _ _ address
  exact whole _ _ _ run

theorem noFault_readLevel : NoFault (readLevel sdk) := fun _ run => nomatch run

theorem noFault_checkLevel (index : Fin bip44PathLen) (bad : UInt32 → Bool)
    (status : StatusWord) : NoFault (checkLevel sdk index bad status) :=
  noFault_readLevel.bind fun _ => (noFault_returnIf _ _).bind fun _ => noFault_modify _

/-- Reading a path stays inside its input and the five levels. -/
theorem bufferReadAndValidateBip44_ne_fault (input : Buffer) (path : Bip44Path) :
    bufferReadAndValidateBip44 sdk input path ≠ .fault := by
  have account : NoFault (checkAccount sdk) :=
    noFault_readLevel.bind fun _ => (noFault_returnIf _ _).bind fun _ =>
      (noFault_returnIf _ _).bind fun _ => noFault_modify _
  have whole : NoFault (validatePath sdk) :=
    noFault_get.bind fun _ => (noFault_returnIf _ _).bind fun _ =>
      (noFault_checkLevel _ _ _).bind fun _ => (noFault_checkLevel _ _ _).bind fun _ =>
      account.bind fun _ => (noFault_checkLevel _ _ _).bind fun _ => noFault_checkLevel _ _ _
  exact whole _

end AppNeo3

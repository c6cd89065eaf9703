import AppNeo3.Foundation.Cursor
import AppNeo3.Transaction.TxUtils

/-!
# The grammars of the two scripts

What a recogniser reads of a script depends on the script alone, and so do the
assignments it makes; `transferScript` and `voteScript` are the recognisers as
parsers that log their assignments. Each accepts exactly the scripts of its
grammar, `TransferImage` and `VoteImage`.
-/

set_option autoImplicit false

namespace AppNeo3

open Memory CursorParsing Cursor ByteOrder

/-! ## The grammar of a transfer -/

/-- An amount instruction. -/
inductive AmountImage where
  | push (value : Fin 17)
  | pushInt8 (operand : Area UInt8 1)
  | pushInt16 (operand : Area UInt8 2)
  | pushInt32 (operand : Area UInt8 4)
  | pushInt64 (operand : Area UInt8 8)

namespace AmountImage

def bytes : AmountImage → List UInt8
  | .push value => [UInt8.ofNat (0x10 + value.val)]
  | .pushInt8 operand => 0x00 :: operand.cells
  | .pushInt16 operand => 0x01 :: operand.cells
  | .pushInt32 operand => 0x02 :: operand.cells
  | .pushInt64 operand => 0x03 :: operand.cells

/-- The integer the instruction pushes: operands are two's complement, lowest
byte first. -/
def pushed : AmountImage → Int
  | .push value => value.val
  | .pushInt8 operand => leInt operand.cells
  | .pushInt16 operand => leInt operand.cells
  | .pushInt32 operand => leInt operand.cells
  | .pushInt64 operand => leInt operand.cells

/-- The amount the recogniser stores. -/
def stored : AmountImage → Int64
  | .push value => (UInt8.ofNat (0x10 + value.val)).toUInt64.toInt64 - 0x10
  | .pushInt8 operand => (operand.cells.headD 0).toInt8.toUInt8.toUInt64.toInt64
  | .pushInt16 operand => (UInt16.ofNat (leNat operand.cells)).toInt16.toInt64
  | .pushInt32 operand => (UInt32.ofNat (leNat operand.cells)).toInt32.toInt64
  | .pushInt64 operand => (UInt64.ofNat (leNat operand.cells)).toInt64

end AmountImage

/-- The two system assets. -/
inductive SystemAsset where
  | neo
  | gas
deriving DecidableEq

def SystemAsset.scriptHash : SystemAsset → List UInt8
  | .neo => neoScriptHash
  | .gas => gasScriptHash

/-- The two bytes in front of 20 bytes of data. -/
def pushData20Bytes : List UInt8 := [0x0C, 0x14]

/-- A transfer of a system asset. -/
structure TransferImage where
  amount : AmountImage
  destination : Area UInt8 uint160Len
  source : Area UInt8 uint160Len
  asset : SystemAsset

def TransferImage.bytes (image : TransferImage) : List UInt8 :=
  [0x0B] ++ image.amount.bytes ++ pushData20Bytes ++ image.destination.cells ++
    pushData20Bytes ++ image.source.cells ++ transferSequence ++ image.asset.scriptHash ++
    syscallSequence

/-! ## The grammar of a vote -/

/-- The candidate of a vote: none retracts the vote. -/
inductive CandidateImage where
  | retract
  | cast (key : Area UInt8 ecpointLen)
      (compressed : key.cells.headD 0 = 0x02 ∨ key.cells.headD 0 = 0x03)

def CandidateImage.bytes : CandidateImage → List UInt8
  | .retract => [0x0B]
  | .cast key _ => [0x0C, 0x21] ++ key.cells

/-- The assignments for a candidate. -/
def CandidateImage.writes : CandidateImage → List TxWrite
  | .retract => [.isRemoveVote true]
  | .cast key _ => [.voteTo key, .isRemoveVote false]

/-- A vote. -/
structure VoteImage where
  candidate : CandidateImage
  source : Area UInt8 uint160Len

def VoteImage.bytes (image : VoteImage) : List UInt8 :=
  image.candidate.bytes ++ pushData20Bytes ++ image.source.cells ++ voteSequence ++
    neoScriptHash ++ syscallSequence

/-! ## The recognisers as parsers -/

/-- Parsers over a script, with assignments as writes. -/
abbrev ScriptParser : Type → Type := Cursor UInt8 TxWrite Unit

def scriptByte : ScriptParser UInt8 := takeAs 1 (fun bytes => bytes.headD 0) ()

/-- The operand that follows an opcode of an amount. -/
def amountOperand (opcode : UInt8) : ScriptParser Unit :=
  if 0x10 ≤ opcode ∧ opcode ≤ 0x20 then write (.amount (opcode.toUInt64.toInt64 - 0x10))
  else if opcode = 0x00 then do
    let operand ← takeAs 1 (fun bytes => (bytes.headD 0).toInt8.toUInt8) ()
    write (.amount operand.toUInt64.toInt64)
  else if opcode = 0x01 then do
    let operand ← takeAs 2 (fun bytes => (UInt16.ofNat (leNat bytes)).toInt16) ()
    write (.amount operand.toInt64)
  else if opcode = 0x02 then do
    let operand ← takeAs 4 (fun bytes => (UInt32.ofNat (leNat bytes)).toInt32) ()
    write (.amount operand.toInt64)
  else if opcode = 0x03 then do
    let operand ← takeAs 8 (fun bytes => (UInt64.ofNat (leNat bytes)).toInt64) ()
    write (.amount operand)
  else fail ()

def amountInstruction : ScriptParser Unit := do
  let opcode ← scriptByte
  amountOperand opcode

def pushData20Data : ScriptParser (List UInt8) := do
  let header ← takeAs 2 (fun bytes => UInt16.ofNat (beNat bytes)) ()
  failIf (header != pushData20) ()
  take uint160Len ()

/-- Consume bytes that pass a check. -/
def matchingBytes (matching : List UInt8 → Bool) (count : Nat) : ScriptParser (List UInt8) := do
  let next ← take count ()
  failIf (!matching next) ()
  pure next

def assetFlag (scriptHash : List UInt8) : ScriptParser Unit :=
  if scriptHash = neoScriptHash then write (.isNeo true)
  else failIf (scriptHash != gasScriptHash) ()

def assetHash : ScriptParser Unit := do
  let scriptHash ← take uint160Len ()
  assetFlag scriptHash

/-- The stored form of the address of a script hash. -/
def addressArea (sdk : Sdk) (scriptHash : List UInt8) : Area Char addressLen :=
  Area.ofList addressLen CText.nul (addressText sdk scriptHash)

/-- A transfer up to its end. -/
def transferBody (sdk : Sdk) : ScriptParser Unit := do
  let first ← scriptByte
  failIf (first != 0x0B) ()
  amountInstruction
  let destination ← pushData20Data
  write (.dstAddress (addressArea sdk destination))
  let _ ← pushData20Data
  let _ ← matchingBytes (· == transferSequence) transferSequence.length
  assetHash
  let _ ← matchingBytes (· == syscallSequence) syscallSequence.length

def transferScript (sdk : Sdk) : ScriptParser Unit := do
  transferBody sdk
  atEnd ()
  write (.isSystemAssetTransfer true)

/-- The stored form of a public key. -/
def keyArea (publicKey : List UInt8) : Area UInt8 ecpointLen :=
  Area.ofList ecpointLen 0 publicKey

/-- What follows the first byte of a candidate. -/
def candidateOperand (first : UInt8) : ScriptParser Unit :=
  if first = 0x0B then write (.isRemoveVote true)
  else do
    let length ← scriptByte
    failIf (length != 0x21) ()
    let publicKey ← take ecpointLen ()
    failIf (publicKey.headD 0 != 0x02 && publicKey.headD 0 != 0x03) ()
    write (.voteTo (keyArea publicKey))
    write (.isRemoveVote false)

def candidate : ScriptParser Unit := do
  let first ← scriptByte
  failIf (first != 0x0B && first != 0x0C) ()
  candidateOperand first

/-- A vote up to its end. -/
def voteBody : ScriptParser Unit := do
  candidate
  let _ ← pushData20Data
  let _ ← matchingBytes (· == voteSequence) voteSequence.length
  let _ ← matchingBytes (· == neoScriptHash) uint160Len
  let _ ← matchingBytes (· == syscallSequence) syscallSequence.length

def voteScript : ScriptParser Unit := do
  voteBody
  atEnd ()
  write (.isVoteScript true)

/-! ## Every script of the grammar is accepted -/

theorem accepts_scriptByte (byte : UInt8) : Accepts scriptByte [byte] byte (fun _ => []) := by
  have size : [byte].length = 1 := rfl
  exact accepts_takeAs size (fun bytes => bytes.headD 0) ()

theorem accepts_amount (image : AmountImage) :
    Accepts amountInstruction image.bytes () (fun _ => [.amount image.stored]) := by
  cases image with
  | push value =>
      have range : 0x10 ≤ UInt8.ofNat (0x10 + value.val) ∧ UInt8.ofNat (0x10 + value.val) ≤ 0x20 := by
        revert value
        decide
      have operand : Accepts (amountOperand (UInt8.ofNat (0x10 + value.val))) [] ()
          (fun _ => [.amount (AmountImage.push value).stored]) := by
        rw [amountOperand, if_pos range]
        exact accepts_write _
      exact Accepts.of_eq (Accepts.bind (accepts_scriptByte _) operand) (List.append_nil _).symm
        (fun _ => rfl)
  | pushInt8 operand =>
      exact Accepts.of_eq (Accepts.bind (accepts_scriptByte 0x00)
        (Accepts.bind (accepts_takeAs operand.size_eq _ _) (accepts_write _)))
        (by rw [List.append_nil]; rfl) (fun _ => rfl)
  | pushInt16 operand =>
      exact Accepts.of_eq (Accepts.bind (accepts_scriptByte 0x01)
        (Accepts.bind (accepts_takeAs operand.size_eq _ _) (accepts_write _)))
        (by rw [List.append_nil]; rfl) (fun _ => rfl)
  | pushInt32 operand =>
      exact Accepts.of_eq (Accepts.bind (accepts_scriptByte 0x02)
        (Accepts.bind (accepts_takeAs operand.size_eq _ _) (accepts_write _)))
        (by rw [List.append_nil]; rfl) (fun _ => rfl)
  | pushInt64 operand =>
      exact Accepts.of_eq (Accepts.bind (accepts_scriptByte 0x03)
        (Accepts.bind (accepts_takeAs operand.size_eq _ _) (accepts_write _)))
        (by rw [List.append_nil]; rfl) (fun _ => rfl)

theorem accepts_pushData20 (data : Area UInt8 uint160Len) :
    Accepts pushData20Data (pushData20Bytes ++ data.cells) data.cells (fun _ => []) :=
  have header : pushData20Bytes.length = 2 := rfl
  Accepts.of_eq (Accepts.bind (accepts_takeAs header _ _)
    (Accepts.bind (accepts_failIf (by decide) _) (accepts_take data.size_eq _))) rfl (fun _ => rfl)

theorem accepts_matching (bytes : List UInt8) {count : Nat} (size : bytes.length = count) :
    Accepts (matchingBytes (· == bytes) count) bytes bytes (fun _ => []) :=
  Accepts.of_eq (Accepts.bind (accepts_take size _)
    (Accepts.bind (accepts_failIf (by simp) _) (accepts_pure _)))
    (by rw [List.append_nil, List.append_nil]) (fun _ => rfl)

/-- The assignments of a transfer before its end. -/
def TransferImage.bodyWrites (sdk : Sdk) (image : TransferImage) : List TxWrite :=
  [.amount image.amount.stored, .dstAddress (addressArea sdk image.destination.cells)] ++
    (if image.asset = .neo then [.isNeo true] else [])

theorem accepts_asset (asset : SystemAsset) :
    Accepts assetHash asset.scriptHash ()
      (fun _ => if asset = .neo then [TxWrite.isNeo true] else []) := by
  have size : asset.scriptHash.length = uint160Len := by cases asset <;> rfl
  have flagged : Accepts (assetFlag asset.scriptHash) [] ()
      (fun _ => if asset = .neo then [TxWrite.isNeo true] else []) := by
    cases asset with
    | neo => exact accepts_write _
    | gas =>
        have passes : (gasScriptHash != gasScriptHash) = false := by decide
        exact accepts_failIf passes ()
  exact Accepts.of_eq (Accepts.bind (accepts_take size _) flagged) (List.append_nil _).symm
    (fun _ => rfl)

theorem accepts_transferBody (sdk : Sdk) (image : TransferImage) :
    Accepts (transferBody sdk) image.bytes () (fun _ => image.bodyWrites sdk) := by
  have opening : Accepts (failIf ((0x0B : UInt8) != 0x0B) () : ScriptParser Unit) [] ()
      (fun _ => []) := accepts_failIf (by decide) ()
  refine Accepts.of_eq (Accepts.bind (accepts_scriptByte 0x0B) <|
    Accepts.bind opening <| Accepts.bind (accepts_amount image.amount) <|
    Accepts.bind (accepts_pushData20 image.destination) <| Accepts.bind (accepts_write _) <|
    Accepts.bind (accepts_pushData20 image.source) <|
    Accepts.bind (accepts_matching transferSequence rfl) <|
    Accepts.bind (accepts_asset image.asset) <|
    Accepts.bind (accepts_matching syscallSequence rfl) <| accepts_pure _) ?_ ?_
  · simp only [TransferImage.bytes, List.append_assoc, List.nil_append, List.append_nil]
  · intro pos
    simp only [TransferImage.bodyWrites, List.nil_append, List.append_nil, List.cons_append]

theorem accepts_candidate (image : CandidateImage) :
    Accepts candidate image.bytes () (fun _ => image.writes) := by
  cases image with
  | retract =>
      have opening : Accepts (failIf ((0x0B : UInt8) != 0x0B && (0x0B : UInt8) != 0x0C) () :
          ScriptParser Unit) [] () (fun _ => []) := accepts_failIf (by decide) ()
      have operand : Accepts (candidateOperand 0x0B) [] () (fun _ => [.isRemoveVote true]) :=
        accepts_write _
      exact Accepts.of_eq (Accepts.bind (accepts_scriptByte 0x0B) (Accepts.bind opening operand))
        rfl (fun _ => rfl)
  | cast key compressed =>
      have opening : Accepts (failIf ((0x0C : UInt8) != 0x0B && (0x0C : UInt8) != 0x0C) () :
          ScriptParser Unit) [] () (fun _ => []) := accepts_failIf (by decide) ()
      have length : Accepts (failIf ((0x21 : UInt8) != 0x21) () : ScriptParser Unit) [] ()
          (fun _ => []) := accepts_failIf (by decide) ()
      have checked : Accepts (failIf (key.cells.headD 0 != 0x02 && key.cells.headD 0 != 0x03) () :
          ScriptParser Unit) [] () (fun _ => []) :=
        accepts_failIf (by rcases compressed with head | head <;> rw [head] <;> decide) ()
      have operand : Accepts (candidateOperand 0x0C) ([0x21] ++ key.cells) ()
          (fun _ => [.voteTo (keyArea key.cells), .isRemoveVote false]) :=
        Accepts.of_eq (Accepts.bind (accepts_scriptByte 0x21) <| Accepts.bind length <|
          Accepts.bind (accepts_take key.size_eq _) <| Accepts.bind checked <|
          Accepts.bind (accepts_write _) <| accepts_write _)
          (by simp only [List.nil_append, List.append_nil]) (fun _ => rfl)
      refine Accepts.of_eq (Accepts.bind (accepts_scriptByte 0x0C) (Accepts.bind opening operand))
        rfl (fun _ => ?_)
      rw [CandidateImage.writes, keyArea, Area.ofList_eq key.size_eq]
      rfl

theorem accepts_voteBody (image : VoteImage) :
    Accepts voteBody image.bytes () (fun _ => image.candidate.writes) := by
  refine Accepts.of_eq (Accepts.bind (accepts_candidate image.candidate) <|
    Accepts.bind (accepts_pushData20 image.source) <|
    Accepts.bind (accepts_matching voteSequence rfl) <|
    Accepts.bind (accepts_matching neoScriptHash rfl) <|
    Accepts.bind (accepts_matching syscallSequence rfl) <| accepts_pure _) ?_ ?_
  · simp only [VoteImage.bytes, List.append_assoc, List.append_nil]
  · intro pos
    simp only [List.append_nil]

/-! ## Every accepted script is of the grammar -/

theorem sound_scriptByte : Sound scriptByte (fun phrase byte => phrase = [byte]) := by
  refine Sound.mono (sound_takeAs 1 _ ()) ?_
  rintro phrase byte ⟨size, rfl⟩
  obtain ⟨first, rfl⟩ := List.length_eq_one_iff.mp size
  rfl

theorem sound_amountOperand (opcode : UInt8) :
    Sound (amountOperand opcode)
      (fun phrase _ => ∃ image : AmountImage, opcode :: phrase = image.bytes) := by
  rw [amountOperand]
  split
  · rename_i range
    refine Sound.mono (sound_write _) ?_
    rintro _ _ rfl
    have pushes : ∀ byte : UInt8, 0x10 ≤ byte ∧ byte ≤ 0x20 →
        ∃ value : Fin 17, byte = UInt8.ofNat (0x10 + value.val) := by
      intro byte ⟨lower, upper⟩
      rw [UInt8.le_iff_toNat_le] at lower upper
      have range : byte.toNat - 0x10 < 17 := by
        have top : UInt8.toNat 0x20 = 32 := rfl
        omega
      refine ⟨⟨byte.toNat - 0x10, range⟩, ?_⟩
      have value : 0x10 + (byte.toNat - 0x10) = byte.toNat := by
        have bottom : UInt8.toNat 0x10 = 16 := rfl
        omega
      rw [value, UInt8.ofNat_toNat]
    obtain ⟨value, rfl⟩ := pushes opcode range
    exact ⟨.push value, rfl⟩
  · split
    · rename_i same
      subst same
      refine Sound.mono (Sound.bind (sound_takeAs 1 _ ()) fun _ => sound_write _) ?_
      rintro _ _ ⟨front, _, _, rfl, ⟨size, rfl⟩, rfl⟩
      exact ⟨.pushInt8 ⟨front, size⟩, by rw [List.append_nil]; rfl⟩
    · split
      · rename_i same
        subst same
        refine Sound.mono (Sound.bind (sound_takeAs 2 _ ()) fun _ => sound_write _) ?_
        rintro _ _ ⟨front, _, _, rfl, ⟨size, rfl⟩, rfl⟩
        exact ⟨.pushInt16 ⟨front, size⟩, by rw [List.append_nil]; rfl⟩
      · split
        · rename_i same
          subst same
          refine Sound.mono (Sound.bind (sound_takeAs 4 _ ()) fun _ => sound_write _) ?_
          rintro _ _ ⟨front, _, _, rfl, ⟨size, rfl⟩, rfl⟩
          exact ⟨.pushInt32 ⟨front, size⟩, by rw [List.append_nil]; rfl⟩
        · split
          · rename_i same
            subst same
            refine Sound.mono (Sound.bind (sound_takeAs 8 _ ()) fun _ => sound_write _) ?_
            rintro _ _ ⟨front, _, _, rfl, ⟨size, rfl⟩, rfl⟩
            exact ⟨.pushInt64 ⟨front, size⟩, by rw [List.append_nil]; rfl⟩
          · intro pos input writes value pos' rest run
            cases run

theorem sound_amount :
    Sound amountInstruction (fun phrase _ => ∃ image : AmountImage, phrase = image.bytes) := by
  refine Sound.mono (Sound.bind sound_scriptByte sound_amountOperand) ?_
  rintro _ _ ⟨_, _, opcode, rfl, rfl, image, same⟩
  exact ⟨image, same⟩

theorem sound_pushData20 :
    Sound pushData20Data
      (fun phrase data => data.length = uint160Len ∧ phrase = pushData20Bytes ++ data) := by
  refine Sound.mono (Sound.bind (sound_takeAs 2 _ ()) fun header =>
    Sound.bind (sound_failIf (header != pushData20) ()) fun _ => sound_take uint160Len ()) ?_
  rintro _ data ⟨front, _, _, rfl, ⟨size, rfl⟩, _, _, _, rfl, ⟨rfl, same⟩, dataSize, rfl⟩
  have header : UInt16.ofNat (beNat front) = pushData20 := by simpa using same
  have small : beNat front < 2 ^ 16 := by
    have bound := beNat_lt front
    rwa [size] at bound
  have equal : beNat front = beNat pushData20Bytes := by
    have number := congrArg UInt16.toNat header
    rw [UInt16.toNat_ofNat', Nat.mod_eq_of_lt small] at number
    exact number
  rw [beNat_inj (by rw [size]; rfl) equal]
  exact ⟨dataSize, rfl⟩

theorem sound_matching (bytes : List UInt8) (count : Nat) :
    Sound (matchingBytes (· == bytes) count) (fun phrase _ => phrase = bytes) := by
  refine Sound.mono (Sound.bind (sound_take count ()) fun next =>
    Sound.bind (sound_failIf _ ()) fun _ => sound_pure next) ?_
  rintro _ _ ⟨front, _, _, rfl, ⟨_, rfl⟩, _, _, _, rfl, ⟨rfl, same⟩, rfl, rfl⟩
  rw [List.append_nil, List.append_nil]
  simpa using same

theorem sound_asset :
    Sound assetHash (fun phrase _ => ∃ asset : SystemAsset, phrase = asset.scriptHash) := by
  have flagged : ∀ scriptHash, Sound (assetFlag scriptHash) (fun phrase _ => phrase = [] ∧
      ∃ asset : SystemAsset, scriptHash = asset.scriptHash) := by
    intro scriptHash
    rw [assetFlag]
    split
    · rename_i same
      refine Sound.mono (sound_write _) ?_
      rintro _ _ rfl
      exact ⟨rfl, .neo, same⟩
    · refine Sound.mono (sound_failIf _ _) ?_
      rintro _ _ ⟨rfl, same⟩
      have gas : scriptHash = gasScriptHash := by simpa using same
      exact ⟨rfl, .gas, gas⟩
  refine Sound.mono (Sound.bind (sound_take uint160Len ()) flagged) ?_
  rintro _ _ ⟨front, _, _, rfl, ⟨_, rfl⟩, rfl, asset, rfl⟩
  exact ⟨asset, List.append_nil _⟩

theorem sound_transferBody (sdk : Sdk) :
    Sound (transferBody sdk) (fun phrase _ => ∃ image : TransferImage, phrase = image.bytes) := by
  refine Sound.mono (Sound.bind sound_scriptByte fun first =>
    Sound.bind (sound_failIf (first != 0x0B) ()) fun _ => Sound.bind sound_amount fun _ =>
    Sound.bind sound_pushData20 fun destination => Sound.bind (sound_write _) fun _ =>
    Sound.bind sound_pushData20 fun _ => Sound.bind (sound_matching _ _) fun _ =>
    Sound.bind sound_asset fun _ => Sound.bind (sound_matching _ _) fun _ => sound_pure ()) ?_
  rintro _ _ ⟨_, _, first, rfl, rfl, _, _, _, rfl, ⟨rfl, opening⟩, _, _, _, rfl, ⟨amount, rfl⟩,
    _, _, destination, rfl, ⟨destinationSize, rfl⟩, _, _, _, rfl, rfl, _, _, source, rfl,
    ⟨sourceSize, rfl⟩, _, _, _, rfl, rfl, _, _, _, rfl, ⟨asset, rfl⟩, _, _, _, rfl, rfl, rfl, _⟩
  have opened : first = 0x0B := by simpa using opening
  refine ⟨⟨amount, ⟨destination, destinationSize⟩, ⟨source, sourceSize⟩, asset⟩, ?_⟩
  simp only [TransferImage.bytes, opened, List.append_assoc, List.nil_append, List.append_nil]

theorem sound_candidate :
    Sound candidate (fun phrase _ => ∃ image : CandidateImage, phrase = image.bytes) := by
  have operand : ∀ first, Sound (candidateOperand first) (fun phrase _ =>
      (first = 0x0B ∧ phrase = []) ∨ first ≠ 0x0B ∧ ∃ key : Area UInt8 ecpointLen,
        (key.cells.headD 0 = 0x02 ∨ key.cells.headD 0 = 0x03) ∧ phrase = 0x21 :: key.cells) := by
    intro first
    rw [candidateOperand]
    split
    · rename_i same
      refine Sound.mono (sound_write _) ?_
      rintro _ _ rfl
      exact .inl ⟨same, rfl⟩
    · refine Sound.mono (Sound.bind sound_scriptByte fun length =>
        Sound.bind (sound_failIf (length != 0x21) ()) fun _ =>
        Sound.bind (sound_take ecpointLen ()) fun key =>
        Sound.bind (sound_failIf (key.headD 0 != 0x02 && key.headD 0 != 0x03) ()) fun _ =>
        Sound.bind (sound_write _) fun _ => sound_write _) ?_
      rename_i other
      rintro _ _ ⟨_, _, length, rfl, rfl, _, _, _, rfl, ⟨rfl, lengthIs⟩, _, _, key, rfl,
        ⟨size, same⟩, _, _, _, rfl, ⟨rfl, checked⟩, _, _, _, rfl, rfl, rfl⟩
      subst same
      have lengthByte : length = 0x21 := by simpa using lengthIs
      refine .inr ⟨other, ⟨key, size⟩, ?_, by simp [lengthByte]⟩
      rcases Bool.and_eq_false_iff.mp checked with even | odd
      · exact .inl (by simpa using even)
      · exact .inr (by simpa using odd)
  refine Sound.mono (Sound.bind sound_scriptByte fun first =>
    Sound.bind (sound_failIf (first != 0x0B && first != 0x0C) ()) fun _ => operand first) ?_
  rintro _ _ ⟨_, _, first, rfl, rfl, _, _, _, rfl, ⟨rfl, opening⟩, retracts |
    ⟨other, key, head, rfl⟩⟩
  · obtain ⟨rfl, rfl⟩ := retracts
    exact ⟨.retract, rfl⟩
  · have casting : first = 0x0C := by simpa [other] using opening
    subst casting
    exact ⟨.cast key head, rfl⟩

theorem sound_voteBody :
    Sound voteBody (fun phrase _ => ∃ image : VoteImage, phrase = image.bytes) := by
  refine Sound.mono (Sound.bind sound_candidate fun _ => Sound.bind sound_pushData20 fun _ =>
    Sound.bind (sound_matching _ _) fun _ => Sound.bind (sound_matching _ _) fun _ =>
    Sound.bind (sound_matching _ _) fun _ => sound_pure ()) ?_
  rintro _ _ ⟨_, _, _, rfl, ⟨candidate, rfl⟩, _, _, source, rfl, ⟨sourceSize, rfl⟩, _, _, _, rfl,
    rfl, _, _, _, rfl, rfl, _, _, _, rfl, rfl, rfl, _⟩
  refine ⟨⟨candidate, ⟨source, sourceSize⟩⟩, ?_⟩
  simp only [VoteImage.bytes, List.append_assoc, List.append_nil]

/-! ## What the recognisers assign -/

/-- The write assigns to one of the fields. -/
def TxWrite.Targets (fields : List TxField) (write : TxWrite) : Prop := write.target ∈ fields

theorem TxWrite.Targets.ne {fields : List TxField} {write : TxWrite}
    (targets : write.Targets fields) {field : TxField} (other : field ∉ fields) :
    write.target ≠ field := fun same => other (same ▸ targets)

/-- The fields that a transfer describes. -/
def transferFields : List TxField := [.amount, .dstAddress, .isNeo]

/-- The fields that a vote describes. -/
def voteFields : List TxField := [.isRemoveVote, .voteTo]

theorem writesWithin_pushData20 {holds : TxWrite → Prop} : WritesWithin holds pushData20Data :=
  (writesWithin_takeAs 2 _ _).bind fun _ => (writesWithin_failIf _ _).bind fun _ =>
    writesWithin_take _ _

theorem writesWithin_matching {holds : TxWrite → Prop} (matching : List UInt8 → Bool)
    (count : Nat) : WritesWithin holds (matchingBytes matching count) :=
  (writesWithin_take _ _).bind fun _ => (writesWithin_failIf _ _).bind fun _ =>
    writesWithin_pure _

theorem writesWithin_amountOperand (opcode : UInt8) :
    WritesWithin (TxWrite.Targets transferFields) (amountOperand opcode) := by
  have amount : ∀ value, (TxWrite.amount value).Targets transferFields := fun _ =>
    .head _
  have operand : ∀ {α : Type} (count : Nat) (decode : List UInt8 → α) (stored : α → Int64),
      WritesWithin (TxWrite.Targets transferFields)
        ((takeAs count decode () : ScriptParser α) >>= fun operand =>
          write (.amount (stored operand))) :=
    fun _ _ _ => (writesWithin_takeAs _ _ _).bind fun _ => writesWithin_write (amount _)
  rw [amountOperand]
  split
  · exact writesWithin_write (amount _)
  split
  · exact operand _ _ _
  split
  · exact operand _ _ _
  split
  · exact operand _ _ _
  split
  · exact operand _ _ id
  · exact fun _ _ _ member => nomatch member

theorem writesWithin_transferBody (sdk : Sdk) :
    WritesWithin (TxWrite.Targets transferFields) (transferBody sdk) := by
  have asset : ∀ scriptHash, WritesWithin (TxWrite.Targets transferFields)
      (assetFlag scriptHash) := by
    intro scriptHash
    rw [assetFlag]
    split
    · exact writesWithin_write (.tail _ (.tail _ (.head _)))
    · exact writesWithin_failIf _ _
  exact (writesWithin_takeAs 1 _ _).bind fun _ => (writesWithin_failIf _ _).bind fun _ =>
    ((writesWithin_takeAs 1 _ _).bind writesWithin_amountOperand).bind fun _ =>
    writesWithin_pushData20.bind fun _ =>
    (writesWithin_write (.tail _ (.head _))).bind fun _ =>
    writesWithin_pushData20.bind fun _ => (writesWithin_matching _ _).bind fun _ =>
    ((writesWithin_take _ _).bind asset).bind fun _ => (writesWithin_matching _ _).bind fun _ =>
    writesWithin_pure _

theorem writesWithin_voteBody :
    WritesWithin (TxWrite.Targets voteFields) voteBody := by
  have operand : ∀ first, WritesWithin (TxWrite.Targets voteFields)
      (candidateOperand first) := by
    intro first
    rw [candidateOperand]
    split
    · exact writesWithin_write (.head _)
    · exact (writesWithin_takeAs 1 _ _).bind fun _ => (writesWithin_failIf _ _).bind fun _ =>
        (writesWithin_take _ _).bind fun _ => (writesWithin_failIf _ _).bind fun _ =>
        (writesWithin_write (.tail _ (.head _))).bind fun _ =>
        writesWithin_write (.head _)
  exact ((writesWithin_takeAs 1 _ _).bind fun _ => (writesWithin_failIf _ _).bind fun _ =>
      operand _).bind fun _ => writesWithin_pushData20.bind fun _ =>
    (writesWithin_matching _ _).bind fun _ => (writesWithin_matching _ _).bind fun _ =>
    (writesWithin_matching _ _).bind fun _ => writesWithin_pure _

theorem writesWithin_transferScript (sdk : Sdk) :
    WritesWithin (TxWrite.Targets (.isSystemAssetTransfer :: transferFields))
      (transferScript sdk) :=
  ((writesWithin_transferBody sdk).mono fun _ member => .tail _ member).bind fun _ =>
    (writesWithin_atEnd _).bind fun _ => writesWithin_write (.head _)

theorem writesWithin_voteScript :
    WritesWithin (TxWrite.Targets (.isVoteScript :: voteFields)) voteScript :=
  (writesWithin_voteBody.mono fun _ member => .tail _ member).bind fun _ =>
    (writesWithin_atEnd _).bind fun _ => writesWithin_write (.head _)

/-- A parser that ends with a flag: the flag is the last write of a success and
no write of a failure. -/
theorem flagged_run {body : ScriptParser Unit} {flag : TxWrite} {pos : Nat}
    {script : List UInt8} :
    ((body >>= fun _ => atEnd () >>= fun _ => write flag) pos script).writes =
      (body pos script).writes ++
        if ((body >>= fun _ => atEnd () >>= fun _ => write flag) pos script).outcome.isOk
        then [flag] else [] := by
  cases run : body pos script with
  | mk writes outcome =>
      cases outcome with
      | error e =>
          rw [bind_of_error run]
          exact (List.append_nil _).symm
      | ok result =>
          obtain ⟨_, pos', rest⟩ := result
          rw [bind_of_ok run]
          cases rest with
          | nil => rfl
          | cons => rfl

/-- **The transfer recogniser sets its flag on the scripts it recognises.** -/
theorem transferScript_writes (sdk : Sdk) (pos : Nat) (script : List UInt8) :
    (transferScript sdk pos script).writes = (transferBody sdk pos script).writes ++
      if (transferScript sdk pos script).outcome.isOk then [.isSystemAssetTransfer true] else [] :=
  flagged_run

/-- **The vote recogniser sets its flag on the scripts it recognises.** -/
theorem voteScript_writes (pos : Nat) (script : List UInt8) :
    (voteScript pos script).writes = (voteBody pos script).writes ++
      if (voteScript pos script).outcome.isOk then [.isVoteScript true] else [] :=
  flagged_run

end AppNeo3

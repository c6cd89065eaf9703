import AppNeo3.Transaction.Scripts

/-!
# The recognisers follow their parsers

Each step of a recogniser is compared with a step of its parser; the two
recognisers then end as the parsers do, with the parsers' assignments made. The
length check at the end of a recogniser compares with the stored script size, so
the comparison is made from states in which that size is the script's.
-/

set_option autoImplicit false

namespace AppNeo3

open Memory CBody CursorParsing Cursor ByteOrder
open Body hiding pure_run

/-- What a recogniser's state shows of the script; the script and the stored
script size never change. -/
def scriptView : View ScriptState UInt8 (List UInt8 × UInt16) Transaction where
  position s := s.script.offset
  rest s := s.script.rest
  fixed s := (s.script.ptr, s.tx.scriptSize)
  store s := s.tx

/-- A recogniser follows a parser from a state. -/
abbrev Follows {α : Type} (s : ScriptState) (body : Recogniser α) (parser : ScriptParser α) :
    Prop := Refines scriptView Transaction.assign s body parser

variable {sdk : Sdk} {s : ScriptState}

theorem slice_offset (buffer : Buffer) (count : Nat) :
    slice buffer.ptr buffer.offset count = buffer.rest.take count := rfl

/-- Taking bytes moves on as the script does. -/
theorem takeAs_advance {γ : Type} {count : Nat} (decode : List UInt8 → γ) {tx : Transaction}
    {size : Data} (fits : count ≤ s.script.rest.length) :
    (takeAs count decode () : ScriptParser γ) (scriptView.position s) (scriptView.rest s) =
      ⟨[], .ok (decode (s.script.rest.take count),
        scriptView.position ⟨s.script.advance count fits, tx, size⟩,
        scriptView.rest ⟨s.script.advance count fits, tx, size⟩)⟩ := by
  show _ = Reading.mk [] (.ok (_, _, (s.script.advance count fits).rest))
  rw [Buffer.rest_advance]
  exact takeAs_of_le fits

/-! ## Steps -/

theorem follows_readOrReturn {α γ : Type} {reader : Buffer → Bool × α × Buffer}
    {set : Data → α → Data} {member : Data → γ} {count : Nat} {decode : List UInt8 → α} {zero : α}
    {value : List UInt8 → γ} (reads : ∀ buffer, reader buffer = buffer.read count decode zero)
    (loads : ∀ data bytes, bytes.length = count → member (set data (decode bytes)) = value bytes) :
    Follows s (readOrReturn reader set member) (takeAs count value ()) := by
  by_cases fits : count ≤ s.script.rest.length
  · have size : (s.script.rest.take count).length = count := by
      rw [List.length_take, Nat.min_eq_left fits]
    have read : readSize reader set s = .next true
        { s with script := s.script.advance count fits,
                 size := set s.size (decode (s.script.rest.take count)) } := by
      rw [readSize, reads, Buffer.read, dif_pos fits]
    have went : readOrReturn reader set member s = .next (value (s.script.rest.take count))
        { s with script := s.script.advance count fits,
                 size := set s.size (decode (s.script.rest.take count)) } := by
      rw [readOrReturn, bind_of_next (orReturn_of_true read ()), bind_of_next (get_run _),
        Body.pure_run, loads _ _ size]
    exact Refines.of_ok went (takeAs_advance _ fits) rfl rfl
  · have read : readSize reader set s = .next false
        { s with script := s.script, size := set s.size zero } := by
      rw [readSize, reads, Buffer.read, dif_neg fits]
    exact Refines.of_error (bind_of_ret (orReturn_of_false read ()) _) (takeAs_of_not_le fits) rfl

theorem follows_byte :
    Follows s (readOrReturn sdk.bufferReadU8 Data.setU8 Data.u8) scriptByte :=
  follows_readOrReturn sdk.bufferReadU8_eq fun data _ _ => Data.u8_setU8 data _

theorem seekScript_of_le {count : Nat} (fits : count ≤ s.script.rest.length) :
    seekScript sdk count s = .next true { s with script := s.script.advance count fits } := by
  rw [seekScript, sdk.bufferSeekCur_eq, dif_pos fits]

theorem follows_take (count : Nat) : Follows s (takeScript sdk count) (take count ()) := by
  by_cases fits : count ≤ s.script.rest.length
  · have went : takeScript sdk count s = .next (s.script.rest.take count)
        { s with script := s.script.advance count fits } := by
      rw [takeScript, bind_of_next (get_run s),
        bind_of_next (orReturn_of_true (seekScript_of_le fits) ())]
      rfl
    exact Refines.of_ok went (takeAs_advance _ fits) rfl rfl
  · have seek : seekScript sdk count s = .next false s := by
      rw [seekScript, sdk.bufferSeekCur_eq, dif_neg fits]
    have ended : takeScript sdk count s = .ret () s := by
      rw [takeScript, bind_of_next (get_run s), bind_of_ret (orReturn_of_false seek ())]
    exact Refines.of_error ended (takeAs_of_not_le fits) rfl

theorem follows_assign {write : TxWrite} (other : write.target ≠ .scriptSize) :
    Follows s (assignScript write) (Cursor.write write) := by
  have kept : (s.tx.assign write).scriptSize = s.tx.scriptSize := by
    cases write <;> first | rfl | exact absurd rfl other
  have went : assignScript write s = .next () { s with tx := s.tx.assign write } := rfl
  exact Refines.of_ok went (write_run write _ _) (congrArg (Prod.mk s.script.ptr) kept) rfl

theorem follows_returnIf (condition : Bool) :
    Follows s (returnIf condition ()) (failIf condition ()) := Refines.returnIf condition ()

/-- The check that the SDK can read `count` bytes. -/
theorem canRead_passes {count : Nat} (fits : count ≤ s.script.rest.length) :
    (returnIf (!sdk.bufferCanRead s.script count) () : Recogniser Unit) s = .next () s := by
  rw [sdk.bufferCanRead_eq, decide_eq_true fits]
  rfl

theorem canRead_returns {count : Nat} (short : ¬ count ≤ s.script.rest.length) :
    (returnIf (!sdk.bufferCanRead s.script count) () : Recogniser Unit) s = .ret () s := by
  rw [sdk.bufferCanRead_eq, decide_eq_false short]
  rfl

theorem follows_matching (matching : List UInt8 → Bool) (count : Nat) :
    Follows s (expectScript sdk matching count) (matchingBytes matching count) := by
  by_cases fits : count ≤ s.script.rest.length
  · have read := @takeAs_advance s _ _ id s.tx s.size fits
    cases passes : matching (s.script.rest.take count) with
    | true =>
        have went : expectScript sdk matching count s = .next (s.script.rest.take count)
            { s with script := s.script.advance count fits } := by
          rw [expectScript, bind_of_next (get_run s), bind_of_next (canRead_passes fits)]
          have passed : (returnIf (!matching (s.script.rest.take count)) () : Recogniser Unit) s =
              .next () s := by rw [passes]; rfl
          rw [slice_offset, bind_of_next passed, bind_of_next (seekScript_of_le fits)]
          rfl
        have taken : matchingBytes matching count (scriptView.position s) (scriptView.rest s) =
            ⟨[], .ok (s.script.rest.take count,
              scriptView.position { s with script := s.script.advance count fits },
              scriptView.rest { s with script := s.script.advance count fits })⟩ := by
          rw [matchingBytes, take, bind_of_ok read, id, passes]
          rfl
        exact Refines.of_ok went taken rfl rfl
    | false =>
        have ended : expectScript sdk matching count s = .ret () s := by
          rw [expectScript, bind_of_next (get_run s), bind_of_next (canRead_passes fits)]
          have refused : (returnIf (!matching (s.script.rest.take count)) () : Recogniser Unit) s =
              .ret () s := by rw [passes]; rfl
          rw [slice_offset, bind_of_ret refused]
        have failed : matchingBytes matching count (scriptView.position s) (scriptView.rest s) =
            ⟨[], .error ()⟩ := by
          rw [matchingBytes, take, bind_of_ok read, id, passes]
          rfl
        exact Refines.of_error ended failed rfl
  · have ended : expectScript sdk matching count s = .ret () s := by
      rw [expectScript, bind_of_next (get_run s), bind_of_ret (canRead_returns fits)]
    exact Refines.of_error ended (bind_of_error (takeAs_of_not_le fits)) rfl

theorem follows_asset : Follows s (parseContract sdk) assetHash := by
  by_cases fits : uint160Len ≤ s.script.rest.length
  · have read : assetHash (scriptView.position s) (scriptView.rest s) =
        assetFlag (s.script.rest.take uint160Len) (s.script.offset + uint160Len)
          (s.script.advance uint160Len fits).rest := by
      rw [assetHash, take, bind_of_ok (@takeAs_advance s _ _ id s.tx s.size fits)]
      rfl
    have went : parseContract sdk s =
        (flagContract (s.script.rest.take uint160Len) >>= fun _ => do
          let _ ← seekScript sdk uint160Len) s := by
      rw [parseContract, bind_of_next (get_run s), bind_of_next (canRead_passes fits),
        slice_offset]
    have seek : ∀ tx, (do let _ ← seekScript sdk uint160Len : Recogniser Unit) { s with tx := tx } =
        .next () { s with tx := tx, script := s.script.advance uint160Len fits } := fun tx => by
      rw [bind_of_next (@seekScript_of_le sdk { s with tx := tx } _ fits)]
      rfl
    by_cases neo : s.script.rest.take uint160Len = neoScriptHash
    · rw [flagContract, if_pos neo, assignScript, bind_of_next (modify_run _ s), seek] at went
      rw [assetFlag, if_pos neo] at read
      exact Refines.of_ok went read rfl rfl
    · rw [flagContract, if_neg neo] at went
      rw [assetFlag, if_neg neo, failIf_run] at read
      cases other : s.script.rest.take uint160Len != gasScriptHash with
      | true =>
          rw [other] at went read
          exact Refines.of_error went read rfl
      | false =>
          rw [other, bind_of_next (rfl : returnIf false () s = .next () s), seek] at went
          rw [other] at read
          exact Refines.of_ok went read rfl rfl
  · have ended : parseContract sdk s = .ret () s := by
      rw [parseContract, bind_of_next (get_run s), bind_of_ret (canRead_returns fits)]
    exact Refines.of_error ended (bind_of_error (takeAs_of_not_le fits)) rfl

theorem follows_pushData20 : Follows s (parsePushData20 sdk) pushData20Data := by
  refine Refines.bind (follows_readOrReturn (fun buffer => sdk.bufferReadU16_eq buffer .be)
    fun data _ _ => Data.u16_setU16 data _) fun header s' _ _ _ _ => ?_
  exact Refines.bind (follows_returnIf _) fun _ s'' _ _ _ _ => follows_take _

theorem follows_operand {α : Type} {body : Recogniser α} {parser : ScriptParser α}
    (follows : ∀ s, Follows s body parser) (amount : α → Int64) :
    Follows s (body >>= fun operand => assignScript (.amount (amount operand)))
      (parser >>= fun operand => write (.amount (amount operand))) :=
  Refines.bind (follows s) fun _ _ _ _ _ _ => follows_assign nofun

theorem follows_amount : Follows s (parseAmount sdk) amountInstruction := by
  have small : ∀ (value : Int64) (s : ScriptState),
      Follows s (assignScript (.amount value)) (Cursor.write (.amount value)) :=
    fun _ _ => follows_assign nofun
  refine Refines.bind follows_byte fun opcode s' _ _ _ _ => ?_
  rw [amountOperand]
  split
  · exact small _ _
  split
  · exact follows_operand (fun s => follows_readOrReturn bufferReadS8_eq fun data _ _ =>
      Data.u8_setS8 data _) _
  split
  · exact follows_operand (fun s => follows_readOrReturn bufferReadS16_eq fun data _ _ =>
      Data.s16_setS16 data _) _
  split
  · exact follows_operand (fun s => follows_readOrReturn bufferReadS32_eq fun data _ _ =>
      Data.s32_setS32 data _) _
  split
  · exact follows_operand (fun s => follows_readOrReturn bufferReadS64_eq fun data _ _ =>
      Data.s64_setS64 data _) id
  · exact Refines.of_error (ret_run () _) (fail_run () _ _) rfl

theorem scriptHashToAddress_eq_addressArea {scriptHash : List UInt8}
    (size : scriptHash.length = uint160Len) (stored : Area Char addressLen) :
    scriptHashToAddress sdk stored scriptHash = addressArea sdk scriptHash := by
  rw [scriptHashToAddress_eq sdk size (Nat.le_refl _), addressArea,
    Area.ofList_eq (length_addressText sdk size), Area.write_whole]

/-- The destination is stored whole, so its old contents do not matter. -/
theorem follows_destination {scriptHash : List UInt8} (size : scriptHash.length = uint160Len) :
    Follows s (storeDestination sdk scriptHash)
      (Cursor.write (.dstAddress (addressArea sdk scriptHash))) := by
  have address := @scriptHashToAddress_eq_addressArea sdk _ size s.tx.dstAddress
  have went : storeDestination sdk scriptHash s =
      .next () { s with tx := s.tx.assign (.dstAddress (addressArea sdk scriptHash)) } := by
    rw [storeDestination, modify_run, address]
  exact Refines.of_ok went (write_run _ _ _) rfl rfl

theorem follows_voteTo {publicKey : List UInt8} (size : publicKey.length = ecpointLen) :
    Follows s (parseCandidate.storeVoteTo publicKey)
      (Cursor.write (.voteTo (keyArea publicKey))) := by
  have went : parseCandidate.storeVoteTo publicKey s =
      .next () { s with tx := s.tx.assign (.voteTo (keyArea publicKey)) } := by
    rw [parseCandidate.storeVoteTo, dif_pos size, keyArea, Area.ofList_eq size]
  exact Refines.of_ok went (write_run _ _ _) rfl rfl

/-- The stored script size is the size of the script. -/
def ScriptState.Whole (s : ScriptState) : Prop := s.tx.scriptSize.toNat = s.script.ptr.length

theorem ScriptState.Whole.of_fixed {s' : ScriptState} (whole : s.Whole)
    (same : scriptView.fixed s' = scriptView.fixed s) : s'.Whole := by
  obtain ⟨ptr, size⟩ := Prod.mk.inj same
  rw [ScriptState.Whole, size, ptr]
  exact whole

theorem follows_end (whole : s.Whole) : Follows s expectScriptEnd (atEnd ()) := by
  have same : (s.script.offset != s.tx.scriptSize.toNat) = !s.script.rest.isEmpty := by
    rw [whole, Buffer.isEmpty_rest]
    rfl
  have went : expectScriptEnd s =
      (returnIf (!s.script.rest.isEmpty) () : Recogniser Unit) s := by
    rw [expectScriptEnd, bind_of_next (get_run s), same]
  cases ended : s.script.rest.isEmpty with
  | true =>
      rw [ended] at went
      have read : (atEnd () : ScriptParser Unit) (scriptView.position s) (scriptView.rest s) =
          ⟨[], .ok ((), scriptView.position s, scriptView.rest s)⟩ := if_pos ended
      exact Refines.of_ok went read rfl rfl
  | false =>
      rw [ended] at went
      have read : (atEnd () : ScriptParser Unit) (scriptView.position s) (scriptView.rest s) =
          ⟨[], .error ()⟩ := if_neg (ended ▸ Bool.false_ne_true)
      exact Refines.of_error went read rfl

/-! ## The recognisers -/

theorem follows_transferBody : Follows s (parseTransfer sdk) (transferBody sdk) := by
  refine Refines.bind follows_byte fun first s₁ _ _ _ _ => ?_
  refine Refines.bind (follows_returnIf _) fun _ s₂ _ _ _ _ => ?_
  refine Refines.bind follows_amount fun _ s₃ _ _ _ _ => ?_
  refine Refines.bind follows_pushData20 fun destination s₄ _ read _ _ => ?_
  obtain ⟨_, _, _, size, _⟩ := sound_pushData20 _ _ _ _ _ _ read
  refine Refines.bind (follows_destination size) fun _ s₅ _ _ _ _ => ?_
  refine Refines.bind follows_pushData20 fun _ s₆ _ _ _ _ => ?_
  refine Refines.bind (follows_matching _ _) fun _ s₇ _ _ _ _ => ?_
  refine Refines.bind follows_asset fun _ s₈ _ _ _ _ => ?_
  exact Refines.bind (follows_matching _ _) fun _ s₉ _ _ _ _ => Refines.pure ()

/-- **The transfer recogniser follows its parser.** -/
theorem follows_transfer (whole : s.Whole) :
    Follows s (tryParseTransferScript sdk) (transferScript sdk) := by
  refine Refines.bind follows_transferBody fun _ s' _ _ same _ => ?_
  refine Refines.bind (follows_end (whole.of_fixed same)) fun _ s'' _ _ _ _ => ?_
  exact follows_assign nofun

theorem follows_candidate : Follows s (parseCandidate sdk) candidate := by
  have flag : ∀ (removes : Bool) (s : ScriptState),
      Follows s (assignScript (.isRemoveVote removes)) (Cursor.write (.isRemoveVote removes)) :=
    fun _ _ => follows_assign nofun
  refine Refines.bind follows_byte fun first s₁ _ _ _ _ => ?_
  refine Refines.bind (follows_returnIf _) fun _ s₂ _ _ _ _ => ?_
  rw [candidateOperand]
  split
  · exact flag _ _
  · refine Refines.bind follows_byte fun length s₃ _ _ _ _ => ?_
    refine Refines.bind (follows_returnIf _) fun _ s₄ _ _ _ _ => ?_
    refine Refines.bind (follows_take _) fun publicKey s₅ _ read _ _ => ?_
    obtain ⟨phrase, _, _, size, same⟩ := sound_take ecpointLen () _ _ _ _ _ _ read
    refine Refines.bind (follows_returnIf _) fun _ s₆ _ _ _ _ => ?_
    refine Refines.bind (follows_voteTo (same ▸ size)) fun _ s₇ _ _ _ _ => ?_
    exact flag _ _

/-- **The vote recogniser follows its parser.** -/
theorem follows_vote (whole : s.Whole) :
    Follows s (tryParseVoteScript sdk) voteScript := by
  have body : Follows s (parseVote sdk) voteBody := by
    refine Refines.bind follows_candidate fun _ s₁ _ _ _ _ => ?_
    refine Refines.bind follows_pushData20 fun _ s₂ _ _ _ _ => ?_
    refine Refines.bind (follows_matching _ _) fun _ s₃ _ _ _ _ => ?_
    refine Refines.bind (follows_matching _ _) fun _ s₄ _ _ _ _ => ?_
    exact Refines.bind (follows_matching _ _) fun _ s₅ _ _ _ _ => Refines.pure ()
  refine Refines.bind body fun _ s' _ _ same _ => ?_
  refine Refines.bind (follows_end (whole.of_fixed same)) fun _ s'' _ _ _ _ => ?_
  exact follows_assign nofun

end AppNeo3

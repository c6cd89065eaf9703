import AppNeo3.Transaction.Layout
import AppNeo3.Transaction.ScriptRefinement

/-!
# The transaction parser follows its layout

Stage by stage, the parser ends as the layout does and has made the assignments
that the layout logs. The account comparison reads the pointers that the parse
itself has stored, and `AccountsHeld` says that they still point at the accounts
read so far.
-/

set_option autoImplicit false

namespace AppNeo3

open Memory CBody CursorParsing Cursor ByteOrder
open Body hiding pure_run bind_run

/-- What a parser's state shows of the buffer; the bytes never change. -/
def txView : View ParserState UInt8 (List UInt8) Transaction where
  position s := s.buf.offset
  rest s := s.buf.rest
  fixed s := s.buf.ptr
  store s := s.tx

/-- The parser follows a layout from a state. -/
abbrev FollowsTx {α : Type} (s : ParserState) (body : TxReader α) (parser : TxParser α) : Prop :=
  Refines txView Transaction.assign s body parser

variable {sdk : Sdk} {s : ParserState}

/-! ## Steps -/

/-- A buffer that has moved on shows the rest of the bytes. -/
theorem view_advance {count : Nat} {tx : Transaction} {size : Data}
    (fits : count ≤ s.buf.rest.length) :
    txView.rest ⟨s.buf.advance count fits, tx, size⟩ = s.buf.rest.drop count :=
  Buffer.rest_advance _ _ fits

theorem readBuffer_of_le {α : Type} {reader : Buffer → Bool × α × Buffer} {count : Nat}
    {decode : List UInt8 → α} {zero : α}
    (reads : ∀ buffer, reader buffer = buffer.read count decode zero)
    (fits : count ≤ s.buf.rest.length) :
    readBuffer reader s = .next (true, decode (s.buf.rest.take count))
      { s with buf := s.buf.advance count fits } := by
  rw [readBuffer, reads, Buffer.read, dif_pos fits]

theorem readBuffer_of_not_le {α : Type} {reader : Buffer → Bool × α × Buffer} {count : Nat}
    {decode : List UInt8 → α} {zero : α}
    (reads : ∀ buffer, reader buffer = buffer.read count decode zero)
    (short : ¬ count ≤ s.buf.rest.length) : readBuffer reader s = .next (false, zero) s := by
  rw [readBuffer, reads, Buffer.read, dif_neg short]

theorem assign_of_inBounds {write : TxWrite} (valid : write.target.inBounds = true) :
    assign write s = .next () { s with tx := s.tx.assign write } := if_pos valid

theorem followsTx_assign {write : TxWrite} (valid : write.target.inBounds = true) :
    FollowsTx s (assign write) (Cursor.write write) :=
  Refines.write (assign_of_inBounds valid) rfl rfl rfl rfl

theorem followsTx_returnIf (condition : Bool) (status : ParserStatus) :
    FollowsTx s (returnIf condition status) (failIf condition status) :=
  Refines.returnIf condition status

theorem followsTx_readField {α : Type} {reader : Buffer → Bool × α × Buffer} {count : Nat}
    {decode : List UInt8 → α} {zero : α} {write : α → TxWrite} {status : ParserStatus}
    (reads : ∀ buffer, reader buffer = buffer.read count decode zero)
    (valid : ∀ value, (write value).target.inBounds = true) :
    FollowsTx s (readField reader write status) (takeInto count decode zero write status) := by
  by_cases fits : count ≤ s.buf.rest.length
  · have went : readField reader write status s = .next (decode (s.buf.rest.take count))
        { s with buf := s.buf.advance count fits,
                 tx := s.tx.assign (write (decode (s.buf.rest.take count))) } := by
      rw [readField, bind_of_next (readBuffer_of_le reads fits),
        bind_of_next (assign_of_inBounds (valid _))]
      rfl
    have read : takeInto count decode zero write status (txView.position s) (txView.rest s) =
        ⟨[write (decode (s.buf.rest.take count))], .ok (decode (s.buf.rest.take count),
          s.buf.offset + count, s.buf.rest.drop count)⟩ := if_pos fits
    rw [← view_advance fits] at read
    exact Refines.of_ok went read rfl rfl
  · have ended : readField reader write status s =
        .ret status { s with tx := s.tx.assign (write zero) } := by
      rw [readField, bind_of_next (readBuffer_of_not_le reads fits),
        bind_of_next (assign_of_inBounds (valid _))]
      rfl
    have read : takeInto count decode zero write status (txView.position s) (txView.rest s) =
        ⟨[write zero], .error status⟩ := if_neg fits
    exact Refines.of_error ended read rfl

theorem followsTx_readLocal {α : Type} {reader : Buffer → Bool × α × Buffer} {count : Nat}
    {decode : List UInt8 → α} {zero : α} {status : ParserStatus}
    (reads : ∀ buffer, reader buffer = buffer.read count decode zero) :
    FollowsTx s (readLocal reader status) (takeAs count decode status) := by
  by_cases fits : count ≤ s.buf.rest.length
  · have went : readLocal reader status s = .next (decode (s.buf.rest.take count))
        { s with buf := s.buf.advance count fits } := by
      rw [readLocal, bind_of_next (readBuffer_of_le reads fits)]
      rfl
    have read := @takeAs_of_le UInt8 TxWrite ParserStatus α count decode status s.buf.offset _ fits
    rw [← view_advance fits] at read
    exact Refines.of_ok went read rfl rfl
  · have ended : readLocal reader status s = .ret status s := by
      rw [readLocal, bind_of_next (readBuffer_of_not_le reads fits)]
      rfl
    exact Refines.of_error ended (takeAs_of_not_le fits) rfl

theorem followsTx_uvarint (status : ParserStatus) :
    FollowsTx s (readLocal (bufferReadUvarint sdk) status) (uvarint status) := by
  cases encoded : Varint.decode s.buf.rest with
  | none =>
      have ended : readLocal (bufferReadUvarint sdk) status s = .ret status s := by
        have read : readBuffer (bufferReadUvarint sdk) s = .next (false, 0) s := by
          rw [readBuffer, bufferReadUvarint_of_none encoded]
        rw [readLocal, bind_of_next read]
        rfl
      exact Refines.of_error ended (uvarint_of_none encoded) rfl
  | some result =>
      obtain ⟨length, value⟩ := result
      obtain ⟨fits, reads⟩ := @bufferReadUvarint_of_some sdk _ _ _ encoded
      have went : readLocal (bufferReadUvarint sdk) status s =
          .next value { s with buf := s.buf.advance length fits } := by
        have read : readBuffer (bufferReadUvarint sdk) s =
            .next (true, value) { s with buf := s.buf.advance length fits } := by
          rw [readBuffer, reads]
        rw [readLocal, bind_of_next read]
        rfl
      have read := @uvarint_of_some status s.buf.offset _ _ _ encoded
      rw [← view_advance fits] at read
      exact Refines.of_ok went read rfl rfl

theorem followsTx_here : FollowsTx s here position := ⟨s, rfl, rfl, rfl, rfl, rfl⟩

theorem seek_of_le {count : Nat} {status : ParserStatus} (fits : count ≤ s.buf.rest.length) :
    seek sdk count status s = .next () { s with buf := s.buf.advance count fits } := by
  rw [seek, bind_of_next (get_run s), sdk.bufferSeekCur_eq, dif_pos fits]
  rfl

theorem seek_of_not_le {count : Nat} {status : ParserStatus}
    (short : ¬ count ≤ s.buf.rest.length) : seek sdk count status s = .ret status s := by
  rw [seek, bind_of_next (get_run s), sdk.bufferSeekCur_eq, dif_neg short]
  rfl

theorem followsTx_seek (count : Nat) (status : ParserStatus) :
    FollowsTx s (seek sdk count status) (take count status >>= fun _ => pure ()) := by
  by_cases fits : count ≤ s.buf.rest.length
  · have taken := @takeAs_of_le UInt8 TxWrite ParserStatus _ count id status s.buf.offset _ fits
    rw [← view_advance fits] at taken
    exact Refines.of_ok (seek_of_le fits) (bind_of_ok taken) rfl rfl
  · exact Refines.of_error (seek_of_not_le fits) (bind_of_error (takeAs_of_not_le fits)) rfl

/-! ## The fixed fields -/

theorem followsTx_header : FollowsTx s (parseHeader sdk) headerLayout := by
  refine Refines.bind (followsTx_readField sdk.bufferReadU8_eq fun _ => rfl)
    fun _ _ _ _ _ _ => ?_
  refine Refines.bind (followsTx_returnIf _ _) fun _ _ _ _ _ _ => ?_
  refine Refines.bind (followsTx_readField (fun buffer => sdk.bufferReadU32_eq buffer .le)
    fun _ => rfl) fun _ _ _ _ _ _ => ?_
  refine Refines.bind (followsTx_readField bufferReadS64_eq fun _ => rfl) fun _ _ _ _ _ _ => ?_
  refine Refines.bind (followsTx_returnIf _ _) fun _ _ _ _ _ _ => ?_
  refine Refines.bind (followsTx_readField bufferReadS64_eq fun _ => rfl) fun _ _ _ _ _ _ => ?_
  refine Refines.bind (followsTx_returnIf _ _) fun _ _ _ _ _ _ => ?_
  exact Refines.bind (followsTx_readField (fun buffer => sdk.bufferReadU32_eq buffer .le)
    fun _ => rfl) fun _ _ _ _ _ _ => Refines.pure ()

/-! ## The signers -/

theorem signer_inBounds {signer : Nat} {write : SignerWrite} (inside : signer < maxTxSigners)
    (valid : write.target.inBounds = true) :
    (TxWrite.signer signer write).target.inBounds = true := by
  rw [TxWrite.target, TxField.inBounds, decide_eq_true inside, valid]
  rfl

/-- The account pointers of the first signers point at the given accounts. -/
def AccountsHeld (s : ParserState) (accounts : List (List UInt8)) : Prop :=
  ∀ k (inside : k < accounts.length), ∃ position,
    (s.tx.signers[k]?.getD Signer.zero).account = some position ∧
      position + uint160Len ≤ s.buf.ptr.length ∧
      slice s.buf.ptr position uint160Len = accounts[k]

/-- A write that leaves the account pointers alone. -/
def TxWrite.KeepsAccounts (write : TxWrite) : Prop := ∀ k, write.target ≠ .signer k .account

theorem AccountsHeld.replay {accounts : List (List UInt8)} (held : AccountsHeld s accounts)
    {s' : ParserState} {writes : List TxWrite} (keeps : ∀ w ∈ writes, w.KeepsAccounts)
    (same : txView.fixed s' = txView.fixed s)
    (stored : txView.store s' = writes.foldl Transaction.assign (txView.store s)) :
    AccountsHeld s' accounts := by
  intro k inside
  obtain ⟨position, pointer, fits, bytes⟩ := held k inside
  have buffer : s'.buf.ptr = s.buf.ptr := same
  have kept : s'.tx.field (.signer k .account) = s.tx.field (.signer k .account) := by
    have read := txFields.read_replay_of_not_mem (fun w member => keeps w member k) s.tx
    rw [show s'.tx = txFields.replay s.tx writes from stored]
    exact read
  refine ⟨position, ?_, by rw [buffer]; exact fits, by rw [buffer]; exact bytes⟩
  rw [← pointer]
  exact TxValue.pointer.inj kept

/-- The state after a signer's account has been stored. -/
def afterAccount (s : ParserState) (signer : Nat) (fits : uint160Len ≤ s.buf.rest.length) :
    ParserState :=
  { s with buf := s.buf.advance uint160Len fits,
           tx := s.tx.assign (.signer signer (.account s.buf.offset)) }

theorem AccountsHeld.add {accounts : List (List UInt8)} (held : AccountsHeld s accounts)
    (inside : accounts.length < maxTxSigners) (fits : uint160Len ≤ s.buf.rest.length) :
    AccountsHeld (afterAccount s accounts.length fits)
      (accounts ++ [s.buf.rest.take uint160Len]) := by
  intro k bound
  have room : s.buf.offset + uint160Len ≤ s.buf.ptr.length :=
    (s.buf.advance uint160Len fits).offset_le
  by_cases earlier : k < accounts.length
  · obtain ⟨position, pointer, positionFits, bytes⟩ := held k earlier
    have other : (TxWrite.signer accounts.length (.account s.buf.offset)).target ≠
        .signer k .account := by
      intro same
      cases same
      exact absurd earlier (Nat.lt_irrefl _)
    have kept := Transaction.field_assign_of_ne s.tx _ _ other
    refine ⟨position, (TxValue.pointer.inj kept).trans pointer, positionFits, ?_⟩
    rw [List.getElem_append_left earlier]
    exact bytes
  · have last : k = accounts.length := by
      rw [List.length_append, List.length_singleton] at bound
      omega
    subst last
    have valid : (TxWrite.signer accounts.length (.account s.buf.offset)).target.inBounds =
        true := signer_inBounds inside rfl
    have set := Transaction.field_assign s.tx _ valid
    refine ⟨s.buf.offset, TxValue.pointer.inj set, room, ?_⟩
    rw [List.getElem_append_right (Nat.le_refl _)]
    simp only [Nat.sub_self, List.getElem_singleton]
    rfl

theorem accountAt_of_held {accounts : List (List UInt8)} (held : AccountsHeld s accounts) {k : Nat}
    (inside : k < accounts.length) : accountAt k s = .next accounts[k] s := by
  obtain ⟨position, pointer, fits, bytes⟩ := held k inside
  rw [accountAt, pointer]
  simp only [if_pos fits, bytes]

/-- Comparing with every earlier account is looking for the account among them. -/
theorem any_account_eq (accounts : List (List UInt8)) (account : List UInt8) :
    (List.range' 0 accounts.length).any (fun k => accounts[k]?.getD [] == account) =
      accounts.contains account := by
  rw [Bool.eq_iff_iff, List.any_eq_true, List.contains_iff_mem, List.mem_iff_getElem]
  constructor
  · rintro ⟨k, member, same⟩
    obtain ⟨i, inside, rfl⟩ := List.mem_range'.mp member
    have here : 0 + 1 * i < accounts.length := by omega
    rw [List.getElem?_eq_getElem here, Option.getD_some, beq_iff_eq] at same
    exact ⟨_, here, same⟩
  · rintro ⟨k, inside, rfl⟩
    refine ⟨k, List.mem_range'.mpr ⟨k, inside, by omega⟩, ?_⟩
    rw [List.getElem?_eq_getElem inside, Option.getD_some]
    exact beq_self_eq_true _

theorem parseAccount_run {accounts : List (List UInt8)} (held : AccountsHeld s accounts)
    (inside : accounts.length < maxTxSigners) (fits : uint160Len ≤ s.buf.rest.length) :
    parseAccount sdk accounts.length s =
      (returnIf (accounts.contains (s.buf.rest.take uint160Len)) .signerAccountDuplicateError :
        TxReader Unit) (afterAccount s accounts.length fits) := by
  have valid : (TxWrite.signer accounts.length (.account s.buf.offset)).target.inBounds = true :=
    signer_inBounds inside rfl
  have added := held.add inside fits
  have last : accountAt accounts.length (afterAccount s accounts.length fits) =
      .next (s.buf.rest.take uint160Len) (afterAccount s accounts.length fits) := by
    rw [accountAt_of_held added (by rw [List.length_append, List.length_singleton]; omega),
      List.getElem_append_right (Nat.le_refl _)]
    simp only [Nat.sub_self, List.getElem_singleton]
  have checks : ∀ k, 0 ≤ k → k < 0 + accounts.length →
      compareAccounts accounts.length k (afterAccount s accounts.length fits) =
        (returnIf (accounts[k]?.getD [] == s.buf.rest.take uint160Len)
          .signerAccountDuplicateError : TxReader Unit) (afterAccount s accounts.length fits) := by
    intro k _ bound
    have earlier : k < accounts.length := by omega
    rw [compareAccounts, bind_of_next (accountAt_of_held added (by
        rw [List.length_append]
        omega)), bind_of_next last, List.getElem_append_left earlier,
      List.getElem?_eq_getElem earlier, Option.getD_some]
  have moved : seek sdk uint160Len .signerAccountParsingError
      { s with tx := s.tx.assign (.signer accounts.length (.account s.buf.offset)) } =
        .next () (afterAccount s accounts.length fits) :=
    @seek_of_le sdk { s with tx := s.tx.assign (.signer accounts.length (.account s.buf.offset)) }
      _ _ fits
  have stood : here s = .next s.buf.offset s := rfl
  rw [parseAccount, bind_of_next stood, bind_of_next (assign_of_inBounds valid),
    bind_of_next moved, loop_of_checks _ _ checks, any_account_eq]

/-- The layout of an account reads it, or finds it among the earlier ones. -/
theorem accountLayout_run {signer pos : Nat} {accounts : List (List UInt8)} {input : List UInt8}
    (fits : uint160Len ≤ input.length) :
    accountLayout signer accounts pos input =
      ⟨[.signer signer (.account pos)],
        if accounts.contains (input.take uint160Len) then .error .signerAccountDuplicateError
        else .ok (input.take uint160Len, pos + uint160Len, input.drop uint160Len)⟩ := by
  rw [accountLayout, bind_of_ok (position_run pos input),
    bind_of_ok (write_run (TxWrite.signer signer (.account pos)) pos input), take,
    bind_of_ok (takeAs_of_le fits), id]
  cases accounts.contains (input.take uint160Len) <;> rfl

theorem followsTx_account {accounts : List (List UInt8)} (held : AccountsHeld s accounts)
    (inside : accounts.length < maxTxSigners) :
    FollowsTx s (parseAccount sdk accounts.length)
      (accountLayout accounts.length accounts >>= fun _ => pure ()) := by
  by_cases fits : uint160Len ≤ s.buf.rest.length
  · have went := @parseAccount_run sdk _ _ held inside fits
    have read := @accountLayout_run accounts.length s.buf.offset accounts _ fits
    cases duplicate : accounts.contains (s.buf.rest.take uint160Len) with
    | true =>
        rw [duplicate] at went read
        exact Refines.of_error went (bind_of_error read) rfl
    | false =>
        rw [duplicate] at went read
        have rest : txView.rest (afterAccount s accounts.length fits) =
            s.buf.rest.drop uint160Len := view_advance fits
        have whole : (accountLayout accounts.length accounts >>= fun _ => pure ())
            (txView.position s) (txView.rest s) =
              ⟨[.signer accounts.length (.account s.buf.offset)], .ok ((),
                txView.position (afterAccount s accounts.length fits),
                txView.rest (afterAccount s accounts.length fits))⟩ := by
          rw [rest]
          exact bind_of_ok read
        exact Refines.of_ok went whole rfl rfl
  · have valid : (TxWrite.signer accounts.length (.account s.buf.offset)).target.inBounds =
        true := signer_inBounds inside rfl
    have stood : here s = .next s.buf.offset s := rfl
    have ended : parseAccount sdk accounts.length s = .ret .signerAccountParsingError
        { s with tx := s.tx.assign (.signer accounts.length (.account s.buf.offset)) } := by
      rw [parseAccount, bind_of_next stood, bind_of_next (assign_of_inBounds valid)]
      exact bind_of_ret (@seek_of_not_le sdk
        { s with tx := s.tx.assign (.signer accounts.length (.account s.buf.offset)) } _ _ fits) _
    have read : accountLayout accounts.length accounts s.buf.offset s.buf.rest =
        ⟨[.signer accounts.length (.account s.buf.offset)],
          .error .signerAccountParsingError⟩ := by
      rw [accountLayout, bind_of_ok (position_run _ _), bind_of_ok (write_run _ _ _), take,
        bind_of_error (takeAs_of_not_le fits)]
      rfl
    exact Refines.of_error ended (bind_of_error read) rfl

theorem followsTx_scope {signer : Nat} (inside : signer < maxTxSigners) :
    FollowsTx s (parseScope sdk signer) (scopeLayout signer) := by
  refine Refines.bind (followsTx_readLocal sdk.bufferReadU8_eq) fun value _ _ _ _ _ => ?_
  refine Refines.bind (followsTx_assign (signer_inBounds inside rfl)) fun _ _ _ _ _ _ => ?_
  exact Refines.bind (followsTx_returnIf _ _) fun _ _ _ _ _ _ => Refines.pure _

theorem followsTx_entries (list : EntryList) {signer : Nat} (inside : signer < maxTxSigners)
    (scope : UInt8) :
    FollowsTx s (parseOptionalEntries sdk list signer scope)
      (optionalEntriesLayout list signer scope) := by
  rw [parseOptionalEntries, optionalEntriesLayout]
  split
  · refine Refines.bind (followsTx_uvarint _) fun length s₁ _ _ _ _ => ?_
    refine Refines.bind (followsTx_returnIf _ _) fun _ s₂ _ passed _ _ => ?_
    have bound : length.toNat ≤ list.maxEntries := by simpa using failIf_passes passed
    refine Refines.bind (followsTx_assign (signer_inBounds inside (list.size_inBounds _)))
      fun _ s₃ _ _ _ _ => ?_
    refine Refines.loop (fun _ _ _ => True) (fun index _ s₄ below _ => ?_)
      (fun _ _ _ _ _ _ _ _ _ _ _ => trivial) length.toNat 0 () s₃ (by rw [Nat.zero_add]) trivial
    rw [show (entryLayout list signer index >>= fun _ => pure ()) = entryLayout list signer index
      from bind_pure _]
    refine Refines.bind followsTx_here fun position s₅ _ _ _ _ => ?_
    refine Refines.bind (followsTx_assign (signer_inBounds inside
      (list.entry_inBounds _ _ (below.trans_le bound)))) fun _ s₆ _ _ _ _ => ?_
    exact followsTx_seek _ _
  · exact Refines.pure ()

theorem followsTx_authorisation {signer : Nat} (inside : signer < maxTxSigners) :
    FollowsTx s (parseScope sdk signer >>= fun scope => do
        parseOptionalEntries sdk allowedContracts signer scope
        parseOptionalEntries sdk allowedGroups signer scope)
      (authorisationLayout signer) := by
  refine Refines.bind (followsTx_scope inside) fun scope s₁ _ _ _ _ => ?_
  refine Refines.bind (followsTx_entries _ inside _) fun _ s₂ _ _ _ _ => ?_
  exact followsTx_entries _ inside _

/-- What follows the account of a signer leaves the account pointers alone. -/
theorem writesWithin_authorisation (signer : Nat) :
    WritesWithin TxWrite.KeepsAccounts (authorisationLayout signer) := by
  have keeps : ∀ {write : SignerWrite}, write.target ≠ .account →
      (TxWrite.signer signer write).KeepsAccounts := by
    intro write other k same
    exact other (TxField.signer.inj same).2
  have scopeKeeps : ∀ value, (TxWrite.signer signer (.scope value)).KeepsAccounts :=
    fun _ => keeps nofun
  have entries : ∀ list scope, WritesWithin TxWrite.KeepsAccounts
      (optionalEntriesLayout list signer scope) := by
    intro list scope
    rw [optionalEntriesLayout]
    split
    · exact (writesWithin_uvarint _).bind fun _ => (writesWithin_failIf _ _).bind fun _ =>
        (writesWithin_write (keeps (list.size_other _))).bind fun _ =>
        writesWithin_repeatFrom (fun _ _ => writesWithin_position.bind fun _ =>
          (writesWithin_write (keeps (list.entry_other _ _))).bind fun _ =>
          (writesWithin_take _ _).bind fun _ => writesWithin_pure _) _ _ _
    · exact writesWithin_pure _
  exact ((writesWithin_takeAs 1 _ _).bind fun value =>
    (writesWithin_write (scopeKeeps value)).bind fun _ =>
    (writesWithin_failIf _ _).bind fun _ => writesWithin_pure _).bind fun scope =>
    (entries _ scope).bind fun _ => entries _ scope

theorem signerLayout_run {signer pos : Nat} {accounts gathered : List (List UInt8)}
    {input rest : List UInt8} {writes : List TxWrite} {pos' : Nat}
    (run : signerLayout signer accounts pos input = ⟨writes, .ok (gathered, pos', rest)⟩) :
    uint160Len ≤ input.length ∧ gathered = accounts ++ [input.take uint160Len] ∧
      ∃ tail, writes = .signer signer (.account pos) :: tail ∧ ∀ w ∈ tail, w.KeepsAccounts := by
  by_cases fits : uint160Len ≤ input.length
  · have read := @accountLayout_run signer pos accounts _ fits
    cases duplicate : accounts.contains (input.take uint160Len) with
    | true =>
        rw [duplicate] at read
        rw [signerLayout, bind_of_error read] at run
        cases run
    | false =>
        rw [duplicate] at read
        rw [signerLayout, bind_of_ok read] at run
        have within : WritesWithin TxWrite.KeepsAccounts
            (authorisationLayout signer >>= fun _ =>
              (pure (accounts ++ [input.take uint160Len]) : TxParser _)) :=
          (writesWithin_authorisation signer).bind fun _ => writesWithin_pure _
        obtain ⟨writesEq, outcomeEq⟩ := Reading.mk.inj run
        refine ⟨fits, ?_, _, writesEq.symm, within _ _⟩
        cases tail : authorisationLayout signer (pos + uint160Len) (input.drop uint160Len) with
        | mk tailWrites outcome =>
            cases outcome with
            | error e =>
                rw [bind_of_error tail] at outcomeEq
                cases outcomeEq
            | ok result =>
                obtain ⟨_, pos'', rest'⟩ := result
                rw [bind_of_ok tail] at outcomeEq
                cases outcomeEq
                rfl
  · have read : accountLayout signer accounts pos input =
        ⟨[.signer signer (.account pos)], .error .signerAccountParsingError⟩ := by
      rw [accountLayout, bind_of_ok (position_run _ _), bind_of_ok (write_run _ _ _), take,
        bind_of_error (takeAs_of_not_le fits)]
      rfl
    rw [signerLayout, bind_of_error read] at run
    cases run

theorem followsTx_signers : FollowsTx s (parseSigners sdk) signersLayout := by
  refine Refines.bind (followsTx_uvarint _) fun length s₁ _ _ _ _ => ?_
  refine Refines.bind (followsTx_returnIf _ _) fun _ s₂ _ passed _ _ => ?_
  have inLimits := failIf_passes passed
  have bound : length.toUInt8.toNat ≤ maxTxSigners := by
    rw [Bool.or_eq_false_iff, decide_eq_false_iff_not, decide_eq_false_iff_not] at inLimits
    rw [UInt64.toNat_toUInt8]
    exact (Nat.mod_le _ _).trans (Nat.le_of_not_lt inLimits.2)
  refine Refines.bind (followsTx_assign rfl) fun _ s₃ _ _ _ _ => ?_
  refine Refines.loop
    (fun index accounts s => accounts.length = index ∧ AccountsHeld s accounts) ?_ ?_
    length.toUInt8.toNat 0 [] s₃ (by rw [Nat.zero_add]) ⟨rfl, nofun⟩
  · rintro _ accounts s₄ below ⟨rfl, held⟩
    have inside : accounts.length < maxTxSigners := below.trans_le bound
    have layout : (signerLayout accounts.length accounts >>= fun _ => pure ()) =
        (accountLayout accounts.length accounts >>= fun _ =>
          authorisationLayout accounts.length) := by
      simp only [signerLayout, bind_assoc, pure_bind]
      exact congrArg _ (funext fun _ => bind_pure _)
    rw [layout]
    exact Refines.bind_gathering (followsTx_account held inside) fun _ s₅ _ _ _ _ =>
      followsTx_authorisation inside
  · rintro _ accounts s₄ gathered s₅ writes below ⟨rfl, held⟩ run same stored
    have inside : accounts.length < maxTxSigners := below.trans_le bound
    obtain ⟨fits, rfl, tail, rfl, keeps⟩ := signerLayout_run run
    refine ⟨by rw [List.length_append, List.length_singleton], ?_⟩
    exact (held.add inside fits).replay keeps same stored

/-! ## The attributes -/

/-- A write that leaves the attribute slots alone. -/
def TxWrite.KeepsSlots (write : TxWrite) : Prop := ∀ k, write.target ≠ .attributeType k

theorem attributes_assign (tx : Transaction) (write : TxWrite) (keeps : write.KeepsSlots) :
    (tx.assign write).attributes = tx.attributes := by
  cases write with
  | attributeType index type => exact absurd rfl (keeps index)
  | _ => rfl

theorem attributes_of_stored {s' : ParserState} {writes : List TxWrite}
    (keeps : ∀ w ∈ writes, w.KeepsSlots)
    (stored : txView.store s' = writes.foldl Transaction.assign (txView.store s)) :
    s'.tx.attributes = s.tx.attributes := by
  rw [show s'.tx = txFields.replay s.tx writes from stored]
  exact txFields.replay_keeps attributes_assign keeps s.tx

theorem compareAttribute_run {slots : AttributeSlots} (held : s.tx.attributes = slots)
    {attributeType : UInt8} {index : Nat} (inside : index < maxAttributes) :
    compareAttribute attributeType index s =
      (returnIf ((slots[index]?.getD ⟨0⟩).type == attributeType) .attributesDuplicateType :
        TxReader Unit) s := by
  subst held
  rw [compareAttribute, Vector.getElem?_eq_getElem inside]
  rfl

/-- The checks of an attribute, from the state after its type has been read. -/
theorem attributeChecks_run {slots : AttributeSlots} (held : s.tx.attributes = slots)
    {attributesSize : Nat} (bound : attributesSize ≤ maxAttributes) (attributeType : UInt8) :
    loop (compareAttribute attributeType) attributesSize 0 s =
      (returnIf (holdsAttribute slots attributesSize attributeType) .attributesDuplicateType :
        TxReader Unit) s :=
  loop_of_checks attributesSize 0 fun _ _ below =>
    compareAttribute_run held (by omega)

theorem followsTx_attribute {slots : AttributeSlots} (held : s.tx.attributes = slots)
    {attributesSize index : Nat} (bound : attributesSize ≤ maxAttributes)
    (below : index < attributesSize) :
    FollowsTx s (parseAttribute sdk attributesSize index)
      (attributeLayout attributesSize index slots >>= fun _ => pure ()) := by
  have valid : ∀ type, (TxWrite.attributeType index type).target.inBounds = true := fun _ =>
    decide_eq_true (below.trans_le bound)
  by_cases fits : 1 ≤ s.buf.rest.length
  · have taken := @takeAs_of_le UInt8 TxWrite ParserStatus UInt8 1 (fun bytes => bytes.headD 0)
      .attributesUnsupportedType s.buf.offset _ fits
    have went := readBuffer_of_le sdk.bufferReadU8_eq fits
    generalize (s.buf.rest.take 1).headD 0 = attributeType at taken went
    cases unsupported : attributeType != highPriority with
    | true =>
        have ended : parseAttribute sdk attributesSize index s =
            .ret .attributesUnsupportedType { s with buf := s.buf.advance 1 fits } := by
          rw [parseAttribute, bind_of_next went]
          simp only [Bool.not_true, Bool.false_or, unsupported]
          rfl
        have failed : attributeLayout attributesSize index slots s.buf.offset s.buf.rest =
            ⟨[], .error .attributesUnsupportedType⟩ := by
          rw [attributeLayout, bind_of_ok taken, unsupported]
          rfl
        exact Refines.of_error ended (bind_of_error failed) rfl
    | false =>
        have checks := @attributeChecks_run { s with buf := s.buf.advance 1 fits } slots held
          attributesSize bound attributeType
        have passed : parseAttribute sdk attributesSize index s =
            (loop (compareAttribute attributeType) attributesSize 0 >>= fun _ =>
              assign (.attributeType index attributeType))
              { s with buf := s.buf.advance 1 fits } := by
          rw [parseAttribute, bind_of_next went]
          simp only [Bool.not_true, Bool.false_or, unsupported]
          rfl
        cases duplicate : holdsAttribute slots attributesSize attributeType with
        | true =>
            rw [duplicate] at checks
            have failed : attributeLayout attributesSize index slots s.buf.offset s.buf.rest =
                ⟨[], .error .attributesDuplicateType⟩ := by
              rw [attributeLayout, bind_of_ok taken, unsupported, duplicate]
              rfl
            exact Refines.of_error (passed.trans (bind_of_ret checks _)) (bind_of_error failed) rfl
        | false =>
            rw [duplicate] at checks
            have stored := passed.trans ((bind_of_next checks _).trans
              (assign_of_inBounds (valid attributeType)))
            have read : attributeLayout attributesSize index slots s.buf.offset s.buf.rest =
                ⟨[.attributeType index attributeType],
                  .ok (modifyAt slots index fun _ => ⟨attributeType⟩, s.buf.offset + 1,
                    s.buf.rest.drop 1)⟩ := by
              rw [attributeLayout, bind_of_ok taken, unsupported, duplicate]
              rfl
            have whole := @bind_of_ok _ _ _ _ _ _ (fun _ => pure ()) _ _ _ _ _ _ read
            rw [← view_advance fits] at whole
            exact Refines.of_ok stored whole rfl rfl
  · have ended : parseAttribute sdk attributesSize index s =
        .ret .attributesUnsupportedType s := by
      rw [parseAttribute, bind_of_next (readBuffer_of_not_le sdk.bufferReadU8_eq fits)]
      rfl
    have failed : attributeLayout attributesSize index slots s.buf.offset s.buf.rest =
        ⟨[], .error .attributesUnsupportedType⟩ := bind_of_error (takeAs_of_not_le fits)
    exact Refines.of_error ended (bind_of_error failed) rfl

/-- The layout of an attribute keeps account of the slots that the parser fills. -/
theorem attributeLayout_run {slots slots' : AttributeSlots} {attributesSize index pos pos' : Nat}
    {input rest : List UInt8} {writes : List TxWrite}
    (run : attributeLayout attributesSize index slots pos input =
      ⟨writes, .ok (slots', pos', rest)⟩) :
    ∃ attributeType, writes = [.attributeType index attributeType] ∧
      slots' = modifyAt slots index fun _ => ⟨attributeType⟩ := by
  by_cases fits : 1 ≤ input.length
  · rw [attributeLayout, bind_of_ok (takeAs_of_le fits)] at run
    generalize (input.take 1).headD 0 = attributeType at run
    cases unsupported : attributeType != highPriority with
    | true =>
        rw [unsupported] at run
        cases run
    | false =>
        cases duplicate : holdsAttribute slots attributesSize attributeType with
        | true =>
            rw [unsupported, duplicate] at run
            cases run
        | false =>
            rw [unsupported, duplicate] at run
            cases run
            exact ⟨attributeType, rfl, rfl⟩
  · rw [attributeLayout, bind_of_error (takeAs_of_not_le fits)] at run
    cases run

theorem followsTx_attributes {slots : AttributeSlots} (held : s.tx.attributes = slots) :
    FollowsTx s (parseAttributes sdk) (attributesLayout slots) := by
  have sizeKeeps : ∀ size, (TxWrite.attributesSize size).KeepsSlots := fun _ => nofun
  refine Refines.bind (followsTx_uvarint _) fun length s₁ writes₁ read₁ _ stored₁ => ?_
  refine Refines.bind (followsTx_returnIf _ _) fun _ s₂ writes₂ passed _ stored₂ => ?_
  have inLimits := failIf_passes passed
  rw [Bool.or_eq_false_iff, decide_eq_false_iff_not, decide_eq_false_iff_not] at inLimits
  have bound : length.toUInt8.toNat ≤ maxAttributes := by
    rw [UInt64.toNat_toUInt8]
    exact (Nat.mod_le _ _).trans (Nat.le_of_not_lt inLimits.1)
  refine Refines.bind (followsTx_assign rfl) fun _ s₃ writes₃ written _ stored₃ => ?_
  refine Refines.loop (fun _ slots s => s.tx.attributes = slots) ?_ ?_
    length.toUInt8.toNat 0 slots s₃ (by rw [Nat.zero_add]) ?_
  · rintro index slots s₄ below held
    exact followsTx_attribute held bound below
  · rintro index slots s₄ slots' s₅ writes below held run _ stored
    obtain ⟨attributeType, rfl, rfl⟩ := attributeLayout_run run
    have filled : s₅.tx = s₄.tx.assign (.attributeType index attributeType) := stored
    rw [filled, Transaction.assign, held]
  · rw [attributes_of_stored ((writesWithin_write (sizeKeeps _)).of_run written) stored₃,
      attributes_of_stored ((writesWithin_failIf _ _).of_run passed) stored₂,
      attributes_of_stored ((writesWithin_uvarint _).of_run read₁) stored₁, held]

/-! ## The script -/

theorem flag_assign (tx : Transaction) (write : TxWrite)
    (keeps : write.target ≠ .isSystemAssetTransfer) :
    (tx.assign write).isSystemAssetTransfer = tx.isSystemAssetTransfer := by
  cases write with
  | isSystemAssetTransfer value => exact absurd rfl keeps
  | _ => rfl

theorem scriptSize_assign (tx : Transaction) (write : TxWrite)
    (keeps : write.target ≠ .scriptSize) : (tx.assign write).scriptSize = tx.scriptSize := by
  cases write with
  | scriptSize value => exact absurd rfl keeps
  | _ => rfl

/-- The transfer recogniser sets the flag when it recognises the script, and
never clears it. -/
theorem flag_transferScript (tx : Transaction) (script : List UInt8) :
    (txFields.replay tx (transferScript sdk 0 script).writes).isSystemAssetTransfer =
      (tx.isSystemAssetTransfer || recognisesTransfer sdk script) := by
  have body : (txFields.replay tx (transferBody sdk 0 script).writes).isSystemAssetTransfer =
      tx.isSystemAssetTransfer :=
    txFields.replay_keeps flag_assign (fun w member =>
      (writesWithin_transferBody sdk 0 script w member).ne (by decide)) tx
  rw [transferScript_writes, txFields.replay_append, recognisesTransfer]
  cases (transferScript sdk 0 script).outcome.isOk with
  | true => exact (Bool.or_true _).symm
  | false =>
      rw [Bool.or_false]
      exact body

theorem scriptSize_transferScript (tx : Transaction) (script : List UInt8) :
    (txFields.replay tx (transferScript sdk 0 script).writes).scriptSize = tx.scriptSize :=
  txFields.replay_keeps scriptSize_assign (fun w member =>
    (writesWithin_transferScript sdk 0 script w member).ne (by decide)) tx

/-- A recogniser that follows a parser makes the parser's assignments. -/
theorem callRecogniser_run {recogniser : Recogniser Unit} {parser : ScriptParser Unit}
    {script : List UInt8}
    (follows : Follows ⟨Buffer.ofBytes script, s.tx, s.size⟩ recogniser parser) :
    ∃ size, callRecogniser recogniser script s =
      .next () { s with tx := txFields.replay s.tx (parser 0 script).writes, size := size } := by
  have start : (parser : ScriptParser Unit) (scriptView.position ⟨Buffer.ofBytes script, s.tx,
      s.size⟩) (scriptView.rest ⟨Buffer.ofBytes script, s.tx, s.size⟩) = parser 0 script := rfl
  unfold Follows Refines at follows
  rw [start] at follows
  cases run : parser 0 script with
  | mk writes outcome =>
      rw [run] at follows
      cases outcome with
      | error e =>
          obtain ⟨s', ended, stored⟩ := follows
          have filled : s'.tx = txFields.replay s.tx writes := stored
          refine ⟨s'.size, ?_⟩
          rw [callRecogniser, ended, ← filled]
      | ok result =>
          obtain ⟨_, _, _⟩ := result
          obtain ⟨s', went, _, _, _, stored⟩ := follows
          have filled : s'.tx = txFields.replay s.tx writes := stored
          refine ⟨s'.size, ?_⟩
          rw [callRecogniser, went, ← filled]

/-- **Both recognisers together make the assignments of the script.** -/
theorem recogniseScript_run {script : List UInt8}
    (whole : s.tx.scriptSize.toNat = script.length) :
    ∃ size, recogniseScript sdk script s = .next ()
      { s with tx := txFields.replay s.tx (scriptWrites sdk s.tx.isSystemAssetTransfer script),
               size := size } := by
  have start : (ScriptState.mk (Buffer.ofBytes script) s.tx s.size).Whole := whole
  obtain ⟨size, called⟩ := callRecogniser_run (@follows_transfer sdk _ start)
  have flag := @flag_transferScript sdk s.tx script
  have kept := @scriptSize_transferScript sdk s.tx script
  have went : recogniseScript sdk script s = _ := bind_of_next called _
  rw [bind_of_next (get_run _), flag] at went
  rw [went, scriptWrites]
  cases recognised : s.tx.isSystemAssetTransfer || recognisesTransfer sdk script with
  | true =>
      simp only [Bool.not_true, Bool.false_eq_true, if_false, if_true, List.append_nil]
      exact ⟨size, rfl⟩
  | false =>
      simp only [Bool.not_false, Bool.false_eq_true, if_false, if_true, txFields.replay_append]
      have middle : (ScriptState.mk (Buffer.ofBytes script)
          (txFields.replay s.tx (transferScript sdk 0 script).writes) size).Whole := by
        rw [ScriptState.Whole, kept]
        exact whole
      exact @callRecogniser_run { s with
        tx := txFields.replay s.tx (transferScript sdk 0 script).writes, size := size } _ _ _
        (@follows_vote sdk _ middle)

theorem flag_of_stored {s' : ParserState} {writes : List TxWrite}
    (keeps : ∀ w ∈ writes, w.target ≠ .isSystemAssetTransfer)
    (stored : txView.store s' = writes.foldl Transaction.assign (txView.store s)) :
    s'.tx.isSystemAssetTransfer = s.tx.isSystemAssetTransfer := by
  rw [show s'.tx = txFields.replay s.tx writes from stored]
  exact txFields.replay_keeps flag_assign keeps s.tx

/-- A step that only checks or writes does not move. -/
theorem stays_of_ok {parser : TxParser Unit} {s' : ParserState} {writes writes' : List TxWrite}
    (run : parser (txView.position s) (txView.rest s) =
      ⟨writes, .ok ((), txView.position s', txView.rest s')⟩)
    (still : parser (txView.position s) (txView.rest s) =
      ⟨writes', .ok ((), txView.position s, txView.rest s)⟩) :
    txView.position s' = txView.position s := by
  rw [run] at still
  simp only [Reading.mk.injEq, Except.ok.injEq, Prod.mk.injEq] at still
  exact still.2.2.1

/-- The recognisers as a step: the assignments of the script at its position. -/
theorem followsTx_recognise {script : List UInt8} {position : Nat} {flag : Bool}
    (held : s.tx.isSystemAssetTransfer = flag)
    (taken : slice s.buf.ptr position script.length = script)
    (whole : s.tx.scriptSize.toNat = script.length) :
    FollowsTx s
      (get >>= fun s => recogniseScript sdk (slice s.buf.ptr position script.length))
      (writeAll (scriptWrites sdk flag script)) := by
  subst held
  obtain ⟨size, went⟩ := @recogniseScript_run sdk s _ whole
  have start : (get >>= fun s => recogniseScript sdk (slice s.buf.ptr position script.length)) s =
      recogniseScript sdk script s := by
    rw [bind_of_next (get_run s), taken]
  exact Refines.of_ok (start.trans went) rfl rfl rfl

theorem followsTx_script {flag : Bool} (held : s.tx.isSystemAssetTransfer = flag) :
    FollowsTx s (parseScript sdk) (scriptLayout sdk flag) := by
  refine Refines.bind (followsTx_uvarint _) fun length s₁ _ read₁ _ stored₁ => ?_
  refine Refines.bind followsTx_here fun position s₂ _ read₂ _ stored₂ => ?_
  refine Refines.bind (followsTx_assign rfl) fun _ s₃ _ read₃ _ stored₃ => ?_
  refine Refines.bind (followsTx_returnIf _ _) fun _ s₄ _ read₄ _ stored₄ => ?_
  refine Refines.bind_gathering (followsTx_seek _ _) fun script s₅ _ read₅ same₅ stored₅ => ?_
  refine Refines.bind (followsTx_assign rfl) fun _ s₆ _ read₆ same₆ stored₆ => ?_
  have inLimits := failIf_passes read₄
  have small : length.toNat ≤ 0xFFFF := by
    rw [Bool.or_eq_false_iff, decide_eq_false_iff_not] at inLimits
    exact Nat.le_of_not_lt inLimits.1
  have kept : s₆.tx.isSystemAssetTransfer = flag := by
    rw [flag_of_stored ((writesWithin_write nofun).of_run read₆) stored₆,
      flag_of_stored ((writesWithin_take _ _).of_run read₅) stored₅,
      flag_of_stored ((writesWithin_failIf _ _).of_run read₄) stored₄,
      flag_of_stored ((writesWithin_write nofun).of_run read₃) stored₃,
      flag_of_stored (writesWithin_position.of_run read₂) stored₂,
      flag_of_stored ((writesWithin_uvarint _).of_run read₁) stored₁, held]
  -- The script begins where the parser stood before the two checks.
  have start : s₄.buf.offset = position := by
    have stood : txView.position s₂ = position := by
      simp only [position_run, Reading.mk.injEq, Except.ok.injEq, Prod.mk.injEq] at read₂
      exact read₂.2.2.1.symm.trans read₂.2.1
    have checked := stays_of_ok read₄ (by rw [failIf_run, inLimits]; rfl)
    exact checked.trans ((stays_of_ok read₃ (write_run _ _ _)).trans stood)
  have taken : script = s₄.buf.rest.take length.toNat ∧ script.length = length.toNat := by
    obtain ⟨phrase, split, _, size, rfl⟩ := sound_take _ _ _ _ _ _ _ _ read₅
    have front : s₄.buf.rest = script ++ s₅.buf.rest := split
    exact ⟨by rw [front, ← size, List.take_left], size⟩
  have buffer : s₆.buf.ptr = s₄.buf.ptr := same₆.trans same₅
  have whole : s₆.tx.scriptSize.toNat = script.length := by
    have set : s₆.tx = s₅.tx.assign (.scriptSize length.toUInt16) := by
      simp only [write_run, Reading.mk.injEq] at read₆
      rw [show s₆.tx = _ from stored₆, ← read₆.1]
      rfl
    rw [set, taken.2]
    exact (UInt64.toNat_toUInt16 _).trans (Nat.mod_eq_of_lt (Nat.lt_succ_of_le small))
  rw [← taken.2]
  refine followsTx_recognise kept ?_ whole
  rw [taken.2, buffer, ← start]
  exact taken.1.symm

/-! ## The whole transaction -/

/-- A write that leaves alone what a parse looks at. -/
def TxWrite.KeepsLeftovers (write : TxWrite) : Prop :=
  write.KeepsSlots ∧ write.target ≠ .isSystemAssetTransfer

/-- The parts before the attributes leave alone what a parse looks at. -/
theorem keepsLeftovers_of_part {part : TxPart} {write : TxWrite} (holds : part.Holds write)
    (notAttributes : .attributes ≠ part) (notRecognisers : .recognisers ≠ part) :
    write.KeepsLeftovers :=
  ⟨fun _ => holds.ne notAttributes, holds.ne notRecognisers⟩

/-- What the parser looks at when a stage begins is what it looked at before the
stages that keep it. -/
theorem leftovers_of_stored {s' : ParserState} {writes : List TxWrite}
    (keeps : ∀ w ∈ writes, w.KeepsLeftovers)
    (stored : txView.store s' = writes.foldl Transaction.assign (txView.store s)) :
    s'.tx.leftovers = s.tx.leftovers := by
  rw [Transaction.leftovers, Transaction.leftovers,
    attributes_of_stored (fun w member => (keeps w member).1) stored,
    flag_of_stored (fun w member => (keeps w member).2) stored]

/-- **The parser follows the layout**, with what is left in its transaction. -/
theorem followsTx_transaction :
    FollowsTx s (parseTransaction sdk) (transactionLayout sdk s.tx.leftovers) := by
  refine Refines.bind followsTx_header fun _ s₁ _ read₁ _ stored₁ => ?_
  refine Refines.bind followsTx_signers fun _ s₂ _ read₂ _ stored₂ => ?_
  have kept : s₂.tx.leftovers = s.tx.leftovers := by
    rw [leftovers_of_stored (fun w member => keepsLeftovers_of_part
        (writesWithin_signers.of_run read₂ w member) nofun nofun) stored₂,
      leftovers_of_stored (fun w member => keepsLeftovers_of_part
        (writesWithin_header.of_run read₁ w member) nofun nofun) stored₁]
  refine Refines.bind (followsTx_attributes (congrArg Leftovers.slots kept))
    fun _ s₃ _ read₃ _ stored₃ => ?_
  refine followsTx_script ?_
  rw [flag_of_stored (fun w member => ((writesWithin_attributes _).of_run read₃ w member).ne
    nofun) stored₃]
  exact congrArg Leftovers.transferFlag kept

/-- **The deserializer reads the layout.** It never accesses anything outside;
its status and the transaction it leaves are the layout's. -/
theorem transactionDeserialize_eq (bytes : List UInt8) (tx : Transaction) (size : Data) :
    ∃ size', transactionDeserialize sdk (Buffer.ofBytes bytes) tx size =
      some (layoutStatus sdk tx.leftovers bytes,
        txFields.replay tx (layoutWrites sdk tx.leftovers bytes), size') := by
  have start : deserializeBody sdk ⟨Buffer.ofBytes bytes, tx, size⟩ =
      (returnIf (decide (bytes.length > maxTransactionLen)) .invalidLengthError >>= fun _ => do
        parseTransaction sdk
        let s ← get
        pure (if s.buf.offset == s.buf.size then .parsingOk else .invalidLengthError) :
        TxReader ParserStatus) ⟨Buffer.ofBytes bytes, tx, size⟩ := rfl
  by_cases long : bytes.length > maxTransactionLen
  · have ended : deserializeBody sdk ⟨Buffer.ofBytes bytes, tx, size⟩ =
        .ret .invalidLengthError ⟨Buffer.ofBytes bytes, tx, size⟩ := by
      rw [start, decide_eq_true long]
      rfl
    refine ⟨size, ?_⟩
    rw [transactionDeserialize, ended, layoutStatus, layoutWrites, if_pos long, if_pos long]
    rfl
  · rw [decide_eq_false long] at start
    rw [layoutStatus, layoutWrites, if_neg long, if_neg long]
    have follows := @followsTx_transaction sdk ⟨Buffer.ofBytes bytes, tx, size⟩
    unfold FollowsTx Refines at follows
    have here : transactionLayout sdk tx.leftovers
        (txView.position ⟨Buffer.ofBytes bytes, tx, size⟩)
        (txView.rest ⟨Buffer.ofBytes bytes, tx, size⟩) =
          transactionLayout sdk tx.leftovers 0 bytes := rfl
    rw [here] at follows
    cases run : transactionLayout sdk tx.leftovers 0 bytes with
    | mk writes outcome =>
        rw [run] at follows
        cases outcome with
        | error status =>
            obtain ⟨s', ended, stored⟩ := follows
            have returned : deserializeBody sdk ⟨Buffer.ofBytes bytes, tx, size⟩ =
                .ret status s' := start.trans (bind_of_ret ended _)
            have filled : s'.tx = txFields.replay tx writes := stored
            refine ⟨s'.size, ?_⟩
            rw [transactionDeserialize, returned, ← filled]
            rfl
        | ok result =>
            obtain ⟨_, pos, rest⟩ := result
            obtain ⟨s', went, _, atRest, same, stored⟩ := follows
            have filled : s'.tx = txFields.replay tx writes := stored
            have finished : deserializeBody sdk ⟨Buffer.ofBytes bytes, tx, size⟩ = .next
                (if s'.buf.offset == s'.buf.size then .parsingOk else .invalidLengthError) s' :=
              start.trans (bind_of_next went _)
            refine ⟨s'.size, ?_⟩
            rw [transactionDeserialize, finished, ← filled, wholeStatus]
            have ended : rest.isEmpty = (s'.buf.offset == s'.buf.size) :=
              (congrArg List.isEmpty atRest.symm).trans s'.buf.isEmpty_rest
            simp only [ended]

/-- The transaction that parsing bytes leaves. -/
def Transaction.parse (sdk : Sdk) (tx : Transaction) (bytes : List UInt8) : Transaction :=
  txFields.replay tx (layoutWrites sdk tx.leftovers bytes)

/-- The status that parsing bytes returns. -/
def Transaction.parseStatus (sdk : Sdk) (tx : Transaction) (bytes : List UInt8) : ParserStatus :=
  layoutStatus sdk tx.leftovers bytes

end AppNeo3

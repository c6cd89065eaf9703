import AppNeo3.Common.Bip44

/-!
# The documented rules of a path

The documentation of the status words gives each level of a path a rule, and the
reader checks the levels in their order. Both sets of rules are `pathRules` with
two limits, the largest account and the largest address index, and the reader
answers with the first violation of its own (`bufferReadAndValidateBip44_answers`).

The limits differ: the reader takes the account limit for a hexadecimal number,
and refuses the largest address index. So it follows the documentation except on
the paths between the limits (`followsDocumentation_iff`).
-/

set_option autoImplicit false

namespace AppNeo3

open Memory CBody Body

/-! ## Rules -/

/-- A rule for a level: when it is violated, and the status that says so. -/
structure PathRule where
  level : Fin bip44PathLen
  violated : UInt32 → Bool
  status : StatusWord

/-- The rules of a path, in path order. -/
def pathRules (maxAccount maxAddress : UInt32) : List PathRule :=
  [⟨⟨0, by decide⟩, fun level => level != bip44Purpose, .swBip44BadPurpose⟩,
    ⟨⟨1, by decide⟩, fun level => level != bip44CoinTypeNeo, .swBip44BadCoinType⟩,
    ⟨⟨2, by decide⟩, fun level => level < 0x80000000, .swBip44AccountNotHardened⟩,
    ⟨⟨2, by decide⟩, fun level => level > maxAccount, .swBip44BadAccount⟩,
    ⟨⟨3, by decide⟩, fun level => level != 0x0 && level != 0x1, .swBip44BadChange⟩,
    ⟨⟨4, by decide⟩, fun level => level > maxAddress, .swBip44BadAddress⟩]

/-- The documented rules: an account is not above 10, an address index not above
5000. -/
def documentedRules : List PathRule := pathRules 0x8000000A 5000

/-- The rules that the reader checks. -/
def checkedRules : List PathRule := pathRules 0x80000010 4999

/-- The status of the first rule that a path violates. -/
def firstViolation (rules : List PathRule) (path : Bip44Path) : Option StatusWord :=
  (rules.find? fun rule => rule.violated path[rule.level]).map PathRule.status

theorem firstViolation_cons (rule : PathRule) (rules : List PathRule) (path : Bip44Path) :
    firstViolation (rule :: rules) path =
      if rule.violated path[rule.level] then some rule.status else firstViolation rules path := by
  rw [firstViolation, List.find?_cons]
  cases rule.violated path[rule.level] <;> rfl

/-- The word of a level, with its highest byte first. -/
def pathWord (b : List UInt8) (level : Nat) : UInt32 :=
  UInt32.ofNat (ByteOrder.beNat (slice b (4 * level) 4))

/-- The five words at the front of a byte string. -/
def pathWords (b : List UInt8) : Bip44Path := Vector.ofFn fun level => pathWord b level

/-- What a byte string is answered with, under a set of rules. -/
def pathStatus (rules : List PathRule) (b : List UInt8) : Option StatusWord :=
  if b.length < bip44ByteLength then some .swoWrongDataLength
  else firstViolation rules (pathWords b)

/-- The reader answers with a status, or accepts and leaves the path. -/
def Answers (outcome : Outcome PathState StatusWord Unit) (path : Bip44Path) :
    Option StatusWord → Prop
  | none => ∃ read, outcome = .next () read ∧ read.path = path
  | some status => ∃ read, outcome = .ret status read

/-- There is one answer. -/
theorem Answers.unique {outcome : Outcome PathState StatusWord Unit} {path : Bip44Path} :
    ∀ {first second : Option StatusWord}, Answers outcome path first →
      Answers outcome path second → first = second
  | none, none, _, _ => rfl
  | none, some _, ⟨_, accepted, _⟩, ⟨_, refused⟩ => nomatch accepted.symm.trans refused
  | some _, none, ⟨_, refused⟩, ⟨_, accepted, _⟩ => nomatch accepted.symm.trans refused
  | some _, some _, ⟨_, refused⟩, ⟨_, refused'⟩ => by
      cases refused.symm.trans refused'
      rfl

/-! ## The reader answers with the first violation of its rules -/

variable {sdk : Sdk} {b : List UInt8}

/-- The first `count` levels have been read and stored. -/
structure LevelsRead (b : List UInt8) (count : Nat) (s : PathState) : Prop where
  ptr : s.input.ptr = b
  offset : s.input.offset = 4 * count
  stored : ∀ level : Fin bip44PathLen, level.val < count → s.path[level] = (pathWords b)[level]

/-- Reading a level reads its word. -/
theorem answers_readLevel {level : Fin bip44PathLen} {rest : UInt32 → PathReader Unit}
    {answer : Option StatusWord} {s : PathState} (long : bip44ByteLength ≤ b.length)
    (read : LevelsRead b level s)
    (later : ∀ input : Buffer, input.ptr = b → input.offset = 4 * (level.val + 1) →
      Answers (rest (pathWords b)[level] { s with input := input }) (pathWords b) answer) :
    Answers ((readLevel sdk >>= rest) s) (pathWords b) answer := by
  have below : level.val < 5 := level.isLt
  have size : 20 ≤ b.length := long
  have fits : 4 ≤ s.input.rest.length := by
    rw [Buffer.length_rest, read.ptr, read.offset]
    omega
  have word : (pathWords b)[level] =
      UInt32.ofNat (Endianness.be.nat (s.input.rest.take 4)) := by
    rw [Buffer.rest, read.ptr, read.offset]
    exact Vector.getElem_ofFn level.isLt
  have run : readLevel sdk s =
      .next (pathWords b)[level] { s with input := s.input.advance 4 fits } := by
    rw [readLevel, sdk.bufferReadU32_eq, Buffer.read, dif_pos fits, word]
  rw [bind_of_next run]
  refine later _ read.ptr ?_
  rw [Buffer.offset_advance, read.offset, Nat.mul_add]

/-- A level that violates a rule is returned with the status of the rule. -/
theorem answers_returnIf {bad : Bool} {status : StatusWord} {rest : Unit → PathReader Unit}
    {path : Bip44Path} {answer : Option StatusWord} {s : PathState}
    (later : Answers (rest () s) path answer) :
    Answers ((returnIf bad status >>= rest) s) path (if bad then some status else answer) := by
  cases bad with
  | true => exact ⟨s, rfl⟩
  | false => exact later

/-- A level that passes its checks is stored. -/
theorem LevelsRead.store {level : Fin bip44PathLen} {s : PathState} {input : Buffer}
    (read : LevelsRead b level s) (ptr : input.ptr = b)
    (offset : input.offset = 4 * (level.val + 1)) :
    LevelsRead b (level.val + 1)
      { input := input, path := s.path.set level (pathWords b)[level] } := by
  refine ⟨ptr, offset, fun other below => ?_⟩
  have inside : level.val < bip44PathLen := level.isLt
  by_cases same : level = other
  · subst same
    exact Vector.getElem_set_self inside
  · have different : level.val ≠ other.val := fun equal => same (Fin.ext equal)
    have earlier : other.val < level.val := by omega
    exact (Vector.getElem_set_ne inside other.isLt different).trans (read.stored other earlier)

/-- **One level with one rule.** -/
theorem answers_checkLevel {level : Fin bip44PathLen} {bad : UInt32 → Bool} {status : StatusWord}
    {rest : Unit → PathReader Unit} {answer : Option StatusWord} {s : PathState}
    (long : bip44ByteLength ≤ b.length) (read : LevelsRead b level s)
    (later : ∀ s', LevelsRead b (level.val + 1) s' → Answers (rest () s') (pathWords b) answer) :
    Answers ((checkLevel sdk level bad status >>= rest) s) (pathWords b)
      (if bad (pathWords b)[level] then some status else answer) := by
  rw [checkLevel, bind_assoc_run]
  refine answers_readLevel long read fun input ptr offset => ?_
  have stored := read.store ptr offset
  rw [bind_assoc_run]
  exact answers_returnIf (later _ stored)

/-- The account has two rules. -/
theorem answers_checkAccount {rest : Unit → PathReader Unit} {answer : Option StatusWord}
    {s : PathState} (long : bip44ByteLength ≤ b.length) (read : LevelsRead b 2 s)
    (later : ∀ s', LevelsRead b 3 s' → Answers (rest () s') (pathWords b) answer) :
    Answers ((checkAccount sdk >>= rest) s) (pathWords b)
      (if decide ((pathWords b)[(2 : Fin bip44PathLen)] < 0x80000000) then
          some .swBip44AccountNotHardened
        else if decide ((pathWords b)[(2 : Fin bip44PathLen)] > 0x80000010) then
          some .swBip44BadAccount
        else answer) := by
  rw [checkAccount, bind_assoc_run]
  refine @answers_readLevel sdk b 2 _ _ _ long read fun input ptr offset => ?_
  have stored := @LevelsRead.store b 2 _ _ read ptr offset
  rw [bind_assoc_run]
  refine answers_returnIf ?_
  rw [bind_assoc_run]
  exact answers_returnIf (later _ stored)

/-- The limit of the address index, as the reader writes it. -/
theorem address_limit (level : UInt32) : decide (level ≥ 5000) = decide (level > 4999) := by
  rw [decide_eq_decide, ge_iff_le, gt_iff_lt, UInt32.le_iff_toNat_le, UInt32.lt_iff_toNat_lt]
  exact Iff.rfl

/-- **The reader answers with the first violation of its rules.** -/
theorem bufferReadAndValidateBip44_answers (b : List UInt8) (path : Bip44Path) :
    Answers (bufferReadAndValidateBip44 sdk (.ofBytes b) path) (pathWords b)
      (pathStatus checkedRules b) := by
  rw [bufferReadAndValidateBip44, validatePath, bind_of_next (get_run _), bind_run, returnIf_run,
    pathStatus, Buffer.size_ofBytes]
  by_cases short : b.length < bip44ByteLength
  · rw [if_pos short, if_pos (decide_eq_true short)]
    exact ⟨_, rfl⟩
  · have long : bip44ByteLength ≤ b.length := Nat.le_of_not_lt short
    have start : LevelsRead b 0 ⟨.ofBytes b, path⟩ := ⟨rfl, rfl, nofun⟩
    rw [if_neg short, if_neg (by simpa using short), checkedRules, pathRules]
    simp only [firstViolation_cons]
    refine answers_checkLevel long start fun s₁ read₁ => ?_
    refine answers_checkLevel long read₁ fun s₂ read₂ => ?_
    refine answers_checkAccount long read₂ fun s₃ read₃ => ?_
    refine answers_checkLevel long read₃ fun s₄ read₄ => ?_
    have last := @answers_checkLevel sdk b 4 (fun level => level ≥ 5000) .swBip44BadAddress
      (fun _ => pure ()) (firstViolation [] (pathWords b)) s₄ long read₄ fun s₅ read₅ => ⟨s₅, rfl,
        Vector.ext fun level inside => read₅.stored ⟨level, inside⟩ inside⟩
    have limit : (fun level : UInt32 => decide (level ≥ 5000)) = fun level => decide (level > 4999) :=
      funext address_limit
    rw [bind_unit_run, limit] at last
    simp only [limit]
    exact last

/-! ## The documentation -/

/-- A path that the documentation allows. -/
structure DocumentedPath (path : Bip44Path) : Prop where
  purpose : path[0] = bip44Purpose
  coinType : path[1] = bip44CoinTypeNeo
  hardened : path[2] ≥ 0x80000000
  account : path[2] ≤ 0x8000000A
  change : path[3] = 0 ∨ path[3] = 1
  addressIndex : path[4] ≤ 5000

/-- The reader does what the documentation says: it accepts the documented paths
and leaves their words, and it returns the status of the first level that violates
its rule. -/
def FollowsDocumentation (sdk : Sdk) (b : List UInt8) (path : Bip44Path) : Prop :=
  ((∃ read, bufferReadAndValidateBip44 sdk (.ofBytes b) path = .next () read) ↔
      bip44ByteLength ≤ b.length ∧ DocumentedPath (pathWords b)) ∧
    Answers (bufferReadAndValidateBip44 sdk (.ofBytes b) path) (pathWords b)
      (pathStatus documentedRules b)

/-- A path on which the two sets of rules differ: the account is above 10 but not
above 16, or all the levels before the address index are documented ones and the
address index is 5000. -/
def BetweenLimits (path : Bip44Path) : Prop :=
  path[0] = bip44Purpose ∧ path[1] = bip44CoinTypeNeo ∧
    (path[2] > 0x8000000A ∧ path[2] ≤ 0x80000010 ∨
      path[2] ≥ 0x80000000 ∧ path[2] ≤ 0x8000000A ∧ (path[3] = 0 ∨ path[3] = 1) ∧
        path[4] = 5000)

theorem firstViolation_pathRules (maxAccount maxAddress : UInt32) (path : Bip44Path) :
    firstViolation (pathRules maxAccount maxAddress) path =
      if path[0] ≠ bip44Purpose then some .swBip44BadPurpose
      else if path[1] ≠ bip44CoinTypeNeo then some .swBip44BadCoinType
      else if path[2] < 0x80000000 then some .swBip44AccountNotHardened
      else if path[2] > maxAccount then some .swBip44BadAccount
      else if ¬ (path[3] = 0 ∨ path[3] = 1) then some .swBip44BadChange
      else if path[4] > maxAddress then some .swBip44BadAddress
      else none := by
  simp only [pathRules, firstViolation_cons, bne_iff_ne, decide_eq_true_eq, Bool.and_eq_true,
    not_or]
  rfl

theorem firstViolation_documented (path : Bip44Path) :
    firstViolation documentedRules path = none ↔ DocumentedPath path := by
  have guarded : ∀ (bad : Prop) [Decidable bad] (status : StatusWord) (later : Option StatusWord),
      (if bad then some status else later) = none ↔ ¬ bad ∧ later = none := by
    intro bad _ status later
    by_cases violated : bad
    · simp [violated]
    · simp [violated]
  rw [documentedRules, firstViolation_pathRules]
  simp only [guarded, not_not, UInt32.not_lt, ne_eq]
  constructor
  · rintro ⟨purpose, coinType, hardened, account, change, addressIndex, _⟩
    exact ⟨purpose, coinType, hardened, account, change, addressIndex⟩
  · rintro ⟨purpose, coinType, hardened, account, change, addressIndex⟩
    exact ⟨purpose, coinType, hardened, account, change, addressIndex, trivial⟩

/-- **The two sets of rules differ between their limits only.** -/
theorem firstViolation_agree_iff (path : Bip44Path) :
    firstViolation checkedRules path = firstViolation documentedRules path ↔
      ¬ BetweenLimits path := by
  rw [checkedRules, documentedRules, firstViolation_pathRules, firstViolation_pathRules,
    BetweenLimits]
  by_cases purpose : path[0] = bip44Purpose
  case neg => simp [purpose]
  by_cases coinType : path[1] = bip44CoinTypeNeo
  case neg => simp [coinType]
  by_cases soft : path[2] < 0x80000000
  · have low : ¬ path[2] > 0x8000000A := UInt32.not_lt.mpr
      (UInt32.le_of_lt (UInt32.lt_trans soft (by decide)))
    simp [purpose, coinType, soft, low]
  have hardened : path[2] ≥ 0x80000000 := UInt32.not_lt.mp soft
  by_cases high : path[2] > 0x80000010
  · have above : path[2] > 0x8000000A := UInt32.lt_trans (by decide) high
    simp [purpose, coinType, soft, high, above]
  by_cases account : path[2] > 0x8000000A
  · -- The reader goes on, and no later status is that of a bad account.
    simp only [purpose, coinType, soft, high, account, ne_eq, not_true_eq_false, if_false, if_true,
      gt_iff_lt]
    split
    · simp [UInt32.not_lt.mp high]
    · split
      · simp [UInt32.not_lt.mp high]
      · simp [UInt32.not_lt.mp high]
  have low : path[2] ≤ 0x8000000A := UInt32.not_lt.mp account
  by_cases change : path[3] = 0 ∨ path[3] = 1
  case neg => simp [purpose, coinType, soft, high, account, change]
  simp only [purpose, coinType, soft, high, account, change, hardened, low, ne_eq,
    not_true_eq_false, if_false, true_and, false_and, false_or]
  by_cases large : path[4] > 5000
  · have beyond : path[4] > 4999 := UInt32.lt_trans (by decide) large
    have other : path[4] ≠ 5000 := fun same => UInt32.lt_irrefl 5000 (same ▸ large)
    simp [large, beyond, other]
  by_cases last : path[4] = 5000
  · simp [last]
  · have small : ¬ path[4] > 4999 := fun beyond => last (UInt32.toNat_inj.mp (by
      have lower := UInt32.lt_iff_toNat_lt.mp beyond
      have upper := UInt32.le_iff_toNat_le.mp (UInt32.not_lt.mp large)
      exact Nat.le_antisymm upper lower))
    simp [large, small, last]

theorem pathStatus_agree_iff (b : List UInt8) :
    pathStatus checkedRules b = pathStatus documentedRules b ↔
      ¬ (bip44ByteLength ≤ b.length ∧ BetweenLimits (pathWords b)) := by
  rw [pathStatus, pathStatus]
  by_cases short : b.length < bip44ByteLength
  · simp [short]
  · rw [if_neg short, if_neg short, firstViolation_agree_iff]
    simp [Nat.le_of_not_lt short]

theorem pathStatus_documented (b : List UInt8) :
    pathStatus documentedRules b = none ↔
      bip44ByteLength ≤ b.length ∧ DocumentedPath (pathWords b) := by
  rw [pathStatus, ← firstViolation_documented, ← Nat.not_lt]
  split
  · rename_i short
    simp [short]
  · rename_i long
    simp [long]

/-- A byte string is accepted when there is no status to answer with. -/
theorem Answers.accepts_iff {outcome : Outcome PathState StatusWord Unit} {path : Bip44Path} :
    ∀ {answer : Option StatusWord}, Answers outcome path answer →
      ((∃ read, outcome = .next () read) ↔ answer = none)
  | none, ⟨read, accepted, _⟩ => ⟨fun _ => rfl, fun _ => ⟨read, accepted⟩⟩
  | some _, ⟨_, refused⟩ => ⟨fun ⟨_, accepted⟩ => (nomatch refused.symm.trans accepted), nofun⟩

/-- **The reader follows the documentation** on every byte string except those with
a path between the limits. -/
theorem followsDocumentation_iff (sdk : Sdk) (b : List UInt8) (path : Bip44Path) :
    FollowsDocumentation sdk b path ↔
      ¬ (bip44ByteLength ≤ b.length ∧ BetweenLimits (pathWords b)) := by
  have answered := @bufferReadAndValidateBip44_answers sdk b path
  rw [← pathStatus_agree_iff]
  constructor
  · rintro ⟨_, documented⟩
    exact answered.unique documented
  · intro same
    rw [same] at answered
    exact ⟨answered.accepts_iff.trans (pathStatus_documented b), answered⟩

/-- The path of account 11, which is documented to be refused. -/
def accountElevenData : List UInt8 :=
  [0x80, 0, 0, 0x2C, 0x80, 0, 0x03, 0x78, 0x80, 0, 0, 0x0B, 0, 0, 0, 0, 0, 0, 0, 0]

/-- The path of address index 5000, which is documented to be accepted. -/
def lastAddressData : List UInt8 :=
  [0x80, 0, 0, 0x2C, 0x80, 0, 0x03, 0x78, 0x80, 0, 0, 0, 0, 0, 0, 0, 0, 0, 0x13, 0x88]

/-- **Two paths between the limits.** The reader accepts account 11 and refuses
address index 5000. -/
theorem followsDocumentation_fails :
    (¬ FollowsDocumentation Sdk.reference accountElevenData (Vector.replicate _ 0) ∧
      ∃ read, bufferReadAndValidateBip44 Sdk.reference (.ofBytes accountElevenData)
        (Vector.replicate _ 0) = .next () read) ∧
    (¬ FollowsDocumentation Sdk.reference lastAddressData (Vector.replicate _ 0) ∧
      ∃ read, bufferReadAndValidateBip44 Sdk.reference (.ofBytes lastAddressData)
        (Vector.replicate _ 0) = .ret .swBip44BadAddress read) := by
  have account := @bufferReadAndValidateBip44_answers Sdk.reference accountElevenData
    (Vector.replicate _ 0)
  have address := @bufferReadAndValidateBip44_answers Sdk.reference lastAddressData
    (Vector.replicate _ 0)
  have accepted : pathStatus checkedRules accountElevenData = none := by decide
  have documented : pathStatus documentedRules accountElevenData = some .swBip44BadAccount := by
    decide
  have refused : pathStatus checkedRules lastAddressData = some .swBip44BadAddress := by decide
  have allowed : pathStatus documentedRules lastAddressData = none := by decide
  refine ⟨⟨fun follows => ?_, account.accepts_iff.mpr accepted⟩, fun follows => ?_, ?_⟩
  · have same := account.unique follows.2
    rw [accepted, documented] at same
    cases same
  · have same := address.unique follows.2
    rw [refused, allowed] at same
    cases same
  · rw [refused] at address
    exact address

end AppNeo3

import AppNeo3.Review.SignerFacts

/-!
# What the pairs of a review tell about the signers

Every item of a review fills a slot, and the pair shown is what is then in the
slot. `SlotText` says what an item leaves readable: a whole text, the start of
one, or nothing but what the slot held before. Reading the pairs back
(`readPairs_of_shows`) yields the accounts, the texts of the scopes, the contracts
and the number of groups of every signer, whatever the slots held.
-/

set_option autoImplicit false

namespace AppNeo3

open Memory CText DecimalText

/-! ## Items as fillings of a slot -/

/-- What an item does to its slot. -/
abbrev Filling : Type := DynamicSlot → Option DynamicSlot

variable (sdk : Sdk) (storage : InternalStorage)

/-- The fillings of the items of a signer, from its facts. -/
def SignerFacts.fillings (signersSize i : Nat) (facts : SignerFacts) : List Filling :=
  [fun slot => some (formatSigner i signersSize slot),
    fun slot => facts.account.map fun account => accountItem sdk storage account slot,
    fun slot => some (formatScope { Signer.zero with scope := facts.scope } slot)] ++
    (facts.contracts.mapIdx fun j contract slot => contract.map fun contract =>
      entryItem sdk "Contract".toList facts.contracts.length j contract slot) ++
    facts.groups.mapIdx fun j group slot => group.map fun group =>
      entryItem sdk "Group".toList facts.groups.length j group slot

/-- The fillings of the items of all signers. -/
def allFillings (signers : List SignerFacts) : List Filling :=
  (signers.mapIdx fun i facts => facts.fillings sdk storage signers.length i).flatten

theorem mapIdx_map_range {α β : Type} (f : Nat → α → β) (g : Nat → α) (n : Nat) :
    ((List.range n).map g).mapIdx f = (List.range n).map fun k => f k (g k) := by
  refine List.ext_getElem (by simp) ?_
  intro k inside inside'
  simp

/-- **The items of a review are formatted from the facts.** -/
theorem map_formatTagValue (tx : Transaction) (b : List UInt8) :
    (Nbgl.dynItems tx).map (Nbgl.formatTagValue sdk storage b tx) =
      allFillings sdk storage (tx.signerFacts b) := by
  have signer : ∀ i, (Nbgl.signerItems tx i).map (Nbgl.formatTagValue sdk storage b tx) =
      ((tx.signers[i]?.getD .zero).facts b).fillings sdk storage tx.signersSize.toNat i := by
    intro i
    rw [SignerFacts.fillings, Signer.facts, mapIdx_map_range, mapIdx_map_range, Nbgl.signerItems,
      List.length_map, List.length_map, List.length_range, List.length_range, List.map_append,
      List.map_append, List.map_map, List.map_map]
    rfl
  have size : (tx.signerFacts b).length = tx.signersSize.toNat := by
    rw [Transaction.signerFacts, List.length_map, List.length_range]
  rw [allFillings, size, Transaction.signerFacts, mapIdx_map_range, Nbgl.dynItems, List.flatMap_def,
    List.map_flatten, List.map_map]
  exact congrArg List.flatten (List.map_congr_left fun i _ => signer i)

/-! ## What a filling leaves readable -/

/-- What is readable of the text of a slot after it has been filled. -/
inductive SlotText where
  | whole (text : List Char)
  | start (text : List Char)
  | kept

/-- The pair shows the title and what is readable. -/
def Shows (expected : List Char × SlotText) (pair : List Char × List Char) : Prop :=
  pair.1 = expected.1 ∧
    match expected.2 with
    | .whole text => pair.2 = text
    | .start text => text <+: pair.2
    | .kept => True

/-- The filling succeeds on every slot and leaves what is expected. -/
def Fills (expected : List Char × SlotText) (filling : Filling) : Prop :=
  ∀ slot, ∃ filled, filling slot = some filled ∧ Shows expected filled.shown

variable {sdk storage}

theorem length_digits_le {n count : Nat} (positive : 0 < count) (small : n < 10 ^ count) :
    (digits n).length ≤ count := (length_digits_le_iff positive).mpr small

theorem nul_not_mem_place (index size : Nat) :
    nul ∉ digits (index + 1) ++ " of ".toList ++ digits size := by
  rw [List.mem_append, List.mem_append]
  rintro ((first | word) | second)
  · exact nul_not_mem_digits _ first
  · exact absurd word (by decide)
  · exact nul_not_mem_digits _ second

theorem length_place {index size : Nat} (inside : index < size) (small : size < 1000) :
    (digits (index + 1) ++ " of ".toList ++ digits size).length ≤ 10 := by
  have first := @length_digits_le (index + 1) 3 (by decide) (by omega)
  have second := @length_digits_le size 3 (by decide) (by omega)
  rw [List.length_append, List.length_append]
  show _ + 4 + _ ≤ 10
  omega

theorem fills_signer {signersSize i : Nat} (inside : i < signersSize) (small : signersSize < 1000) :
    Fills ("Signer".toList, .whole (digits (i + 1) ++ " of ".toList ++ digits signersSize))
      (fun slot => some (formatSigner i signersSize slot)) := by
  intro slot
  have short := length_place inside small
  exact ⟨_, rfl, text_strlcpy (by decide) (by decide),
    text_snprintf (Nat.lt_of_le_of_lt short (by decide)) (nul_not_mem_place i signersSize)⟩

/-- The readable text of an account. -/
def accountText (sdk : Sdk) (storage : InternalStorage) (account : List UInt8) : SlotText :=
  if storage.signerAccountFormat = 0 then .whole (hexText account)
  else .start (addressText sdk account)

/-- An address is written without terminator. -/
theorem fills_account {account : List UInt8} (size : account.length = uint160Len) :
    Fills ("Account".toList, accountText sdk storage account)
      (fun slot => (some account).map fun account => accountItem sdk storage account slot) := by
  intro slot
  refine ⟨_, rfl, text_strlcpy (by decide) (by decide), ?_⟩
  by_cases hex : storage.signerAccountFormat = 0
  · have expected : accountText sdk storage account = .whole (hexText account) := if_pos hex
    have written : (accountItem sdk storage account slot).text =
        (sdk.formatHex account slot.text).2 := if_pos hex
    rw [expected, DynamicSlot.shown, written]
    exact Sdk.text_formatHex (by rw [size]; decide)
  · have expected : accountText sdk storage account = .start (addressText sdk account) :=
      if_neg hex
    have written : (accountItem sdk storage account slot).text =
        scriptHashToAddress sdk slot.text account := if_neg hex
    rw [expected, DynamicSlot.shown, written, scriptHashToAddress_eq sdk size (by decide),
      Area.write_cells, overwrite_zero]
    show _ <+: text (_ ++ _)
    rw [text_append (nul_not_mem_addressText sdk)]
    exact List.prefix_append _ _

theorem nul_not_mem_title {kind : List Char} (clean : nul ∉ kind) (size index : Nat) :
    nul ∉ kind ++ ' ' :: (digits (index + 1) ++ " of ".toList ++ digits size) := by
  intro member
  rcases List.mem_append.mp member with word | tail
  · exact clean word
  · rcases List.mem_cons.mp tail with blank | place
    · exact absurd blank (by decide)
    · exact nul_not_mem_place index size place

theorem shown_entryItem_title {kind : List Char} (short : kind.length < 50) (clean : nul ∉ kind)
    {size index : Nat} (inside : index < size) (small : size < 1000) (entry : List UInt8)
    (slot : DynamicSlot) :
    (entryItem sdk kind size index entry slot).shown.1 =
      kind ++ ' ' :: (digits (index + 1) ++ " of ".toList ++ digits size) := by
  have place := length_place inside small
  refine text_snprintf ?_ (nul_not_mem_title clean size index)
  rw [List.length_append, List.length_cons]
  omega

theorem fills_contract {size index : Nat} (inside : index < size) (small : size < 1000)
    {entry : List UInt8} (width : entry.length = uint160Len) :
    Fills ("Contract".toList ++ ' ' :: (digits (index + 1) ++ " of ".toList ++ digits size),
      .whole (hexText entry)) (fun slot => (some entry).map fun contract =>
        entryItem sdk "Contract".toList size index contract slot) := fun slot =>
  ⟨_, rfl, shown_entryItem_title (by decide) (by decide) inside small entry slot,
    Sdk.text_formatHex (by rw [width]; decide)⟩

/-- The text of a group does not fit and is not written. -/
theorem entryItem_group {entry : List UInt8} (width : entry.length = ecpointLen)
    (size index : Nat) (slot : DynamicSlot) :
    entryItem sdk "Group".toList size index entry slot =
      { slot with
        title := snprintf slot.title
          ("Group".toList ++ ' ' :: (digits (index + 1) ++ " of ".toList ++ digits size)) } := by
  rw [entryItem, Sdk.formatHex_of_le (by rw [width]; decide)]

theorem fills_group {size index : Nat} (inside : index < size) (small : size < 1000)
    (entry : List UInt8) :
    Fills ("Group".toList ++ ' ' :: (digits (index + 1) ++ " of ".toList ++ digits size), .kept)
      (fun slot => (some entry).map fun group =>
        entryItem sdk "Group".toList size index group slot) := fun slot =>
  ⟨_, rfl, shown_entryItem_title (by decide) (by decide) inside small entry slot, trivial⟩

/-! ## The text of a scope -/

/-- Append a word, with a comma in front unless it is the first. -/
def scopeWord (has : Bool) (word : List Char) (written : List Char × Bool) : List Char × Bool :=
  if has then (written.1 ++ (if !written.2 then [','] else []) ++ word, false) else written

/-- The text of a scope that is neither empty nor global. -/
def byText (entry contracts groups : Bool) : List Char :=
  (scopeWord groups "Groups".toList <| scopeWord contracts "Contracts".toList <|
    scopeWord entry "Entry".toList ("By ".toList, true)).1

def scopeText (scope : UInt8) : List Char :=
  if scope = 0 then "None".toList
  else if scope = global then "Global".toList
  else byText (scope &&& calledByEntry ≠ 0) (scope &&& customContracts ≠ 0)
    (scope &&& customGroups ≠ 0)

/-- Two scopes that a review shows alike: both empty, both global, and the same of
the three bits that have words. -/
structure SameShownScope (first second : UInt8) : Prop where
  none : first = 0 ↔ second = 0
  global : first = AppNeo3.global ↔ second = AppNeo3.global
  entry : first &&& calledByEntry ≠ 0 ↔ second &&& calledByEntry ≠ 0
  contracts : first &&& customContracts ≠ 0 ↔ second &&& customContracts ≠ 0
  groups : first &&& customGroups ≠ 0 ↔ second &&& customGroups ≠ 0

theorem byText_inj : ∀ entry contracts groups entry' contracts' groups' : Bool,
    byText entry contracts groups = byText entry' contracts' groups' →
    entry = entry' ∧ contracts = contracts' ∧ groups = groups' := by
  decide

theorem byText_fresh : ∀ entry contracts groups : Bool,
    byText entry contracts groups ≠ "None".toList ∧
      byText entry contracts groups ≠ "Global".toList := by
  decide

/-- **The text of a scope tells what `SameShownScope` says.** -/
theorem sameShownScope_of_text {first second : UInt8} (same : scopeText first = scopeText second) :
    SameShownScope first second := by
  have none_ne_global : "None".toList ≠ "Global".toList := by decide
  rw [scopeText, scopeText] at same
  by_cases none : first = 0
  · subst none
    by_cases none' : second = 0
    · subst none'
      exact ⟨Iff.rfl, Iff.rfl, Iff.rfl, Iff.rfl, Iff.rfl⟩
    · rw [if_pos rfl, if_neg none'] at same
      split at same
      · exact absurd same none_ne_global
      · exact absurd same.symm (byText_fresh _ _ _).1
  by_cases none' : second = 0
  · rw [if_neg none, if_pos none'] at same
    split at same
    · exact absurd same.symm none_ne_global
    · exact absurd same (byText_fresh _ _ _).1
  rw [if_neg none, if_neg none'] at same
  by_cases all : first = AppNeo3.global
  · subst all
    by_cases all' : second = AppNeo3.global
    · subst all'
      exact ⟨Iff.rfl, Iff.rfl, Iff.rfl, Iff.rfl, Iff.rfl⟩
    · rw [if_pos rfl, if_neg all'] at same
      exact absurd same.symm (byText_fresh _ _ _).2
  by_cases all' : second = AppNeo3.global
  · rw [if_neg all, if_pos all'] at same
    exact absurd same (byText_fresh _ _ _).2
  rw [if_neg all, if_neg all'] at same
  obtain ⟨entry, contracts, groups⟩ := byText_inj _ _ _ _ _ _ same
  exact ⟨iff_of_false none none', iff_of_false all all', decide_eq_decide.mp entry,
    decide_eq_decide.mp contracts, decide_eq_decide.mp groups⟩

/-- A word that fits is appended whole. -/
theorem text_scopeBit {n : Nat} {dest : Area Char n × Bool} {scope bit : UInt8}
    {word : List Char} (room : strlen dest.1.cells + 1 + word.length < n) (clean : nul ∉ word) :
    (text (scopeBit scope bit word dest).1.cells, (scopeBit scope bit word dest).2) =
      scopeWord (scope &&& bit ≠ 0) word (text dest.1.cells, dest.2) := by
  by_cases has : scope &&& bit ≠ 0
  · rw [scopeBit, if_pos has, scopeWord, if_pos (decide_eq_true has), strlcatWithComma]
    cases first : dest.2 with
    | true =>
        have fits : strlen dest.1.cells + word.length < n := by omega
        have joined := text_strlcat fits clean
        simpa using joined
    | false =>
        have comma : text (strlcat dest.1 [',']).cells = text dest.1.cells ++ [','] :=
          text_strlcat (by rw [List.length_singleton]; omega) (by decide)
        have length : strlen (strlcat dest.1 [',']).cells = strlen dest.1.cells + 1 := by
          rw [strlen, comma, List.length_append, List.length_singleton]
          rfl
        have joined := @text_strlcat n (strlcat dest.1 [',']) word (by rw [length]; exact room)
          clean
        rw [comma] at joined
        simpa using joined
  · rw [scopeBit, if_neg has, scopeWord, if_neg (by simpa using has)]

theorem length_scopeWord (has : Bool) (word : List Char) (written : List Char × Bool) :
    (scopeWord has word written).1.length ≤ written.1.length + 1 + word.length := by
  cases has with
  | true =>
      cases first : written.2 with
      | true => simp [scopeWord, first]
      | false =>
          simp only [scopeWord, first, Bool.not_false, if_true, List.length_append,
            List.length_singleton]
          omega
  | false =>
      simp only [scopeWord, Bool.false_eq_true, if_false]
      omega

/-- The text that the three words are appended to in a buffer of a slot. -/
theorem text_scopeBits (scope : UInt8) {dest : Area Char 64}
    (start : text dest.cells = "By ".toList) :
    text (scopeBit scope customGroups "Groups".toList <|
      scopeBit scope customContracts "Contracts".toList <|
      scopeBit scope calledByEntry "Entry".toList (dest, true)).1.cells =
      byText (scope &&& calledByEntry ≠ 0) (scope &&& customContracts ≠ 0)
        (scope &&& customGroups ≠ 0) := by
  have room₁ : strlen dest.cells + 1 + "Entry".toList.length < 64 := by
    rw [strlen, start]
    decide
  have first := @text_scopeBit 64 (dest, true) scope calledByEntry _ room₁ (by decide)
  rw [start] at first
  have bound₁ := length_scopeWord (scope &&& calledByEntry ≠ 0) "Entry".toList
    ("By ".toList, true)
  rw [← first] at bound₁
  have room₂ : strlen (scopeBit scope calledByEntry "Entry".toList (dest, true)).1.cells + 1 +
      "Contracts".toList.length < 64 :=
    Nat.lt_of_le_of_lt (Nat.add_le_add_right (Nat.add_le_add_right bound₁ 1) _) (by decide)
  have second := @text_scopeBit 64 _ scope customContracts _ room₂ (by decide)
  rw [first] at second
  have bound₂ := length_scopeWord (scope &&& customContracts ≠ 0) "Contracts".toList
    (scopeWord (scope &&& calledByEntry ≠ 0) "Entry".toList ("By ".toList, true))
  rw [← second] at bound₂
  have room₃ : strlen (scopeBit scope customContracts "Contracts".toList
      (scopeBit scope calledByEntry "Entry".toList (dest, true))).1.cells + 1 +
      "Groups".toList.length < 64 := by
    rw [first] at bound₁
    exact Nat.lt_of_le_of_lt (Nat.add_le_add_right (Nat.add_le_add_right (bound₂.trans
      (Nat.add_le_add_right (Nat.add_le_add_right bound₁ 1) _)) 1) _) (by decide)
  have third := @text_scopeBit 64 _ scope customGroups _ room₃ (by decide)
  rw [second] at third
  exact congrArg Prod.fst third

theorem fills_scope (scope : UInt8) :
    Fills ("Scope".toList, .whole (scopeText scope))
      (fun slot => some (formatScope { Signer.zero with scope := scope } slot)) := by
  intro slot
  refine ⟨_, rfl, text_strlcpy (by decide) (by decide), ?_⟩
  show text (formatScope { Signer.zero with scope := scope } slot).text.cells = scopeText scope
  rw [scopeText, formatScope]
  split
  · exact text_strlcpy (by decide) (by decide)
  · split
    · exact text_strlcpy (by decide) (by decide)
    · exact text_scopeBits scope (text_strlcpy (by decide) (by decide))

theorem formatScope_congr {first second : UInt8} (same : SameShownScope first second)
    (slot : DynamicSlot) :
    formatScope { Signer.zero with scope := first } slot =
      formatScope { Signer.zero with scope := second } slot := by
  have bit : ∀ {bit : UInt8} (word : List Char) (dest : Area Char 64 × Bool),
      (first &&& bit ≠ 0 ↔ second &&& bit ≠ 0) →
      scopeBit first bit word dest = scopeBit second bit word dest :=
    fun _ _ alike => if_congr alike rfl rfl
  have words : ∀ dest : Area Char 64 × Bool,
      scopeBit first customGroups "Groups".toList (scopeBit first customContracts
        "Contracts".toList (scopeBit first calledByEntry "Entry".toList dest)) =
      scopeBit second customGroups "Groups".toList (scopeBit second customContracts
        "Contracts".toList (scopeBit second calledByEntry "Entry".toList dest)) := by
    intro dest
    rw [bit _ dest same.entry, bit _ _ same.contracts, bit _ _ same.groups]
  rw [formatScope, formatScope, words]
  exact congrArg (DynamicSlot.mk _)
    (if_congr same.none rfl (if_congr same.global rfl rfl))

end AppNeo3

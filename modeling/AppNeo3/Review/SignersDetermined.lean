import AppNeo3.Review.SignersShown
import AppNeo3.Sdk.Reference
import AppNeo3.Ui.SignTxUi

/-!
# Whether a review determines the signers

Two reviews that show the same pairs for their signers are of signers with the
same accounts, contracts and numbers of groups, and with scopes that have the same
text. Other bits of a scope and the keys of the groups are not shown. So the pairs
determine the signers exactly when the two transactions do not differ in these
alone (`signers_determined_iff`).
-/

set_option autoImplicit false

namespace AppNeo3

open Memory CText DecimalText

/-! ## Showing the items in review order -/

/-- A title and a text as shown. -/
abbrev Pair : Type := List Char × List Char

/-- Fetch the pairs of some indices one after the other. -/
def fetchPairs (fetch : Nat → List DynamicSlot → Option (Pair × List DynamicSlot)) :
    List Nat → List DynamicSlot → Option (List Pair)
  | [], _ => some []
  | index :: later, slots => do
      let fetched ← fetch index slots
      let rest ← fetchPairs fetch later fetched.2
      some (fetched.1 :: rest)

variable (sdk : Sdk) (storage : InternalStorage) (b : List UInt8) (tx : Transaction)

/-- The devices with buttons format every item into one slot, the first. -/
def Bagl.genericPair (position : Nat) (slots : List DynamicSlot) :
    Option (Pair × List DynamicSlot) := do
  let item ← (Nbgl.dynItems tx)[position]?
  let slot ← slots[0]?
  let filled ← Nbgl.formatTagValue sdk storage b tx item slot
  some (filled.shown, slots.set 0 filled)

/-- The pairs shown for the signers, in review order, from the contents of the
slots before the review. -/
def Build.signerPairs (g : GlobalItemStorage) (slots : List DynamicSlot) :
    Build → Option (List Pair)
  | .bagl => fetchPairs (Bagl.genericPair sdk storage b tx)
      (List.range' 0 (Nbgl.dynItems tx).length) slots
  | .nbgl => fetchPairs (Nbgl.getSingleActionReviewPair sdk storage b tx g)
      (List.range' (Nbgl.staticItems tx).length (Nbgl.dynItems tx).length) slots

/-! ## Fillings in turn -/

/-- Fill slots in turn and show each. -/
def showFrom (slotOf : Nat → Nat) : Nat → List Filling → List DynamicSlot → Option (List Pair)
  | _, [], _ => some []
  | k, filling :: later, slots => do
      let slot ← slots[slotOf k]?
      let filled ← filling slot
      let rest ← showFrom slotOf (k + 1) later (slots.set (slotOf k) filled)
      some (filled.shown :: rest)

/-- The slot of an item. -/
def Build.slotOf (count : Nat) : Build → Nat → Nat
  | .bagl, _ => 0
  | .nbgl, k => ((Nbgl.staticItems tx).length + k) % count

theorem Build.slotOf_lt {count : Nat} (positive : 0 < count) (build : Build) (k : Nat) :
    build.slotOf tx count k < count := by
  cases build with
  | bagl => exact positive
  | nbgl => exact Nat.mod_lt _ positive

variable {sdk storage b tx}

/-- Fetching indices one after the other fills their slots in turn. -/
theorem fetchPairs_eq_showFrom {count first : Nat} {slotOf : Nat → Nat} {fillings : List Filling}
    {fetch : Nat → List DynamicSlot → Option (Pair × List DynamicSlot)}
    (fetches : ∀ k filling, fillings[k]? = some filling → ∀ slots, slots.length = count →
      fetch (first + k) slots = do
        let slot ← slots[slotOf k]?
        let filled ← filling slot
        some (filled.shown, slots.set (slotOf k) filled)) :
    ∀ m k slots, slots.length = count → k + m = fillings.length →
      fetchPairs fetch (List.range' (first + k) m) slots =
        showFrom slotOf k (fillings.drop k) slots
  | 0, k, slots, _, whole => by
      have past : fillings.length ≤ k := Nat.le_of_eq whole.symm
      rw [List.drop_of_length_le past]
      rfl
  | m + 1, k, slots, size, whole => by
      have inside : k < fillings.length := by omega
      have rest : ∀ filled, fetchPairs fetch (List.range' (first + (k + 1)) m)
          (slots.set (slotOf k) filled) =
          showFrom slotOf (k + 1) (fillings.drop (k + 1)) (slots.set (slotOf k) filled) :=
        fun _ => fetchPairs_eq_showFrom fetches m (k + 1) _ (List.length_set.trans size) (by omega)
      rw [List.range'_succ, List.drop_eq_getElem_cons inside, fetchPairs, showFrom,
        fetches k _ (List.getElem?_eq_getElem inside) slots size, Nat.add_assoc]
      cases slots[slotOf k]? with
      | none => rfl
      | some slot =>
          simp only [Option.bind_eq_bind, Option.bind_some]
          cases fillings[k] slot with
          | none => rfl
          | some filled => simp only [Option.bind_some, rest]

/-- **The pairs of the signers are those of the fillings in turn.** -/
theorem Build.signerPairs_eq (g : GlobalItemStorage) (build : Build) {slots : List DynamicSlot}
    {count : Nat} (size : slots.length = count) :
    build.signerPairs sdk storage b tx g slots =
      showFrom (build.slotOf tx count) 0 (allFillings sdk storage (tx.signerFacts b)) slots := by
  rw [← map_formatTagValue]
  have length : 0 + (Nbgl.dynItems tx).length =
      ((Nbgl.dynItems tx).map (Nbgl.formatTagValue sdk storage b tx)).length := by
    rw [List.length_map, Nat.zero_add]
  have item : ∀ (k : Nat) (filling : Filling),
      ((Nbgl.dynItems tx).map (Nbgl.formatTagValue sdk storage b tx))[k]? = some filling →
        ∃ item : DynamicItem, (Nbgl.dynItems tx)[k]? = some item ∧
          Nbgl.formatTagValue sdk storage b tx item = filling := by
    intro k filling found
    rw [List.getElem?_map] at found
    exact Option.map_eq_some_iff.mp found
  cases build with
  | bagl =>
      refine fetchPairs_eq_showFrom (fun k filling found slots' _ => ?_) _ 0 slots size length
      obtain ⟨item, here, rfl⟩ := item k filling found
      rw [Bagl.genericPair, Nat.zero_add, here]
      rfl
  | nbgl =>
      refine fetchPairs_eq_showFrom (fun k filling found slots' size' => ?_) _ 0 slots size length
      obtain ⟨item, here, rfl⟩ := item k filling found
      rw [Nbgl.getSingleActionReviewPair, if_neg (by omega), Nat.add_sub_cancel_left, here, size']
      rfl

/-! ## Reading the pairs back -/

/-- Fillings that leave what is expected show it, whatever the slots held. -/
theorem showFrom_shows {slotOf : Nat → Nat} {count : Nat} (inside : ∀ k, slotOf k < count)
    {expected : List (List Char × SlotText)} {fillings : List Filling}
    (fills : List.Forall₂ Fills expected fillings) :
    ∀ k slots, slots.length = count →
      ∃ pairs, showFrom slotOf k fillings slots = some pairs ∧
        List.Forall₂ Shows expected pairs := by
  induction fills with
  | nil => exact fun _ _ _ => ⟨[], rfl, .nil⟩
  | cons fill _ ih =>
      intro k slots size
      have within : slotOf k < slots.length := by
        rw [size]
        exact inside k
      have here : slots[slotOf k]? = some slots[slotOf k] := List.getElem?_eq_getElem within
      obtain ⟨filled, filling, shows⟩ := fill slots[slotOf k]
      obtain ⟨pairs, rest, later⟩ :=
        ih (k + 1) (slots.set (slotOf k) filled) (List.length_set.trans size)
      refine ⟨filled.shown :: pairs, ?_, .cons shows later⟩
      rw [showFrom, here]
      simp only [Option.bind_eq_bind, Option.bind_some, filling, rest]

/-- What the pairs tell about a signer. -/
structure SignerReading where
  account : List Char
  scope : List Char
  contracts : List (List Char)
  groups : Nat

/-- What has been read of the pairs from the last one backwards: of the signer
being read, and of the signers behind it. -/
structure Reading where
  current : SignerReading
  signers : List SignerReading

/-- The part of the text of an account that its slot held before is left out. -/
def accountPart (storage : InternalStorage) (shown : List Char) : List Char :=
  if storage.signerAccountFormat = 0 then shown else shown.take addressLen

/-- Read one more pair. The titles tell the items apart. -/
def readPair (storage : InternalStorage) (pair : Pair) (reading : Reading) : Reading :=
  match pair.1 with
  | 'C' :: _ => { reading with current :=
      { reading.current with contracts := pair.2 :: reading.current.contracts } }
  | 'G' :: _ => { reading with current :=
      { reading.current with groups := reading.current.groups + 1 } }
  | 'A' :: _ => { reading with current :=
      { reading.current with account := accountPart storage pair.2 } }
  | 'S' :: 'c' :: _ => { reading with current := { reading.current with scope := pair.2 } }
  | _ => ⟨⟨[], [], [], 0⟩, reading.current :: reading.signers⟩

/-- Read all pairs. -/
def readPairs (storage : InternalStorage) (pairs : List Pair) : List SignerReading :=
  (pairs.foldr (readPair storage) ⟨⟨[], [], [], 0⟩, []⟩).signers

/-- The readable text of an account, without what its slot held before. -/
def accountWord (sdk : Sdk) (storage : InternalStorage) (account : List UInt8) : List Char :=
  if storage.signerAccountFormat = 0 then hexText account else addressText sdk account

/-- What the items of a signer tell. -/
def SignerImage.reading (sdk : Sdk) (storage : InternalStorage) (image : SignerImage) :
    SignerReading where
  account := accountWord sdk storage image.account.cells
  scope := scopeText image.scope
  contracts := (optionalEntries image.contracts).map fun entry => hexText entry.cells
  groups := (optionalEntries image.groups).length

/-- The title of an entry of a list. -/
def entryTitle (kind : List Char) (size index : Nat) : List Char :=
  kind ++ ' ' :: (digits (index + 1) ++ " of ".toList ++ digits size)

/-- What the items of a signer leave readable. -/
def SignerImage.slotTexts (sdk : Sdk) (storage : InternalStorage) (signersSize i : Nat)
    (image : SignerImage) : List (List Char × SlotText) :=
  [("Signer".toList, .whole (digits (i + 1) ++ " of ".toList ++ digits signersSize)),
    ("Account".toList, accountText sdk storage image.account.cells),
    ("Scope".toList, .whole (scopeText image.scope))] ++
    ((optionalEntries image.contracts).mapIdx fun j entry =>
      (entryTitle "Contract".toList (optionalEntries image.contracts).length j,
        .whole (hexText entry.cells))) ++
    (optionalEntries image.groups).mapIdx fun j _ =>
      (entryTitle "Group".toList (optionalEntries image.groups).length j, .kept)

/-- Two lists made of one list, item by item with its index. -/
theorem forall₂_mapIdx {α β γ δ : Type} {holds : γ → δ → Prop} {f : Nat → α → γ} {h : α → β}
    {g : Nat → β → δ} {items : List α}
    (every : ∀ k (inside : k < items.length), holds (f k items[k]) (g k (h items[k]))) :
    List.Forall₂ holds (items.mapIdx f) ((items.map h).mapIdx g) := by
  refine List.forall₂_iff_get.mpr ⟨by simp, fun k inside inside' => ?_⟩
  rw [List.length_mapIdx] at inside
  simpa using every k inside

/-- **The items of a signer leave readable what they are expected to.** -/
theorem fills_slotTexts {signersSize i : Nat} (inside : i < signersSize)
    (small : signersSize < 1000) (image : SignerImage) :
    List.Forall₂ Fills (image.slotTexts sdk storage signersSize i)
      (image.facts.fillings sdk storage signersSize i) := by
  have contractsSmall : (optionalEntries image.contracts).length < 1000 := by
    cases image.contracts with
    | none => decide
    | some list => exact Nat.lt_of_le_of_lt list.length_le (by decide)
  have groupsSmall : (optionalEntries image.groups).length < 1000 := by
    cases image.groups with
    | none => decide
    | some list => exact Nat.lt_of_le_of_lt list.length_le (by decide)
  rw [SignerImage.slotTexts, SignerFacts.fillings, SignerImage.facts, List.length_map,
    List.length_map]
  refine List.rel_append (List.rel_append ?_ ?_) ?_
  · exact .cons (fills_signer inside small) (.cons (fills_account image.account.size_eq)
      (.cons (fills_scope image.scope) .nil))
  · refine forall₂_mapIdx fun k within => ?_
    exact fills_contract within contractsSmall (Area.size_eq _)
  · refine forall₂_mapIdx fun k within => ?_
    exact fills_group within groupsSmall _

/-- What the items of all signers leave readable. -/
def allSlotTexts (sdk : Sdk) (storage : InternalStorage) (images : List SignerImage) :
    List (List Char × SlotText) :=
  (images.mapIdx fun i image => image.slotTexts sdk storage images.length i).flatten

theorem fills_allSlotTexts {images : List SignerImage} (small : images.length < 1000) :
    List.Forall₂ Fills (allSlotTexts sdk storage images)
      (allFillings sdk storage (images.map SignerImage.facts)) := by
  rw [allSlotTexts, allFillings, List.length_map]
  refine List.rel_flatten (forall₂_mapIdx fun i inside => ?_)
  exact fills_slotTexts inside small _

theorem forall₂_append_left {α β : Type} {holds : α → β → Prop} :
    ∀ {first second : List α} {whole : List β}, List.Forall₂ holds (first ++ second) whole →
      ∃ front back, whole = front ++ back ∧ List.Forall₂ holds first front ∧
        List.Forall₂ holds second back
  | [], _, whole, all => ⟨[], whole, rfl, .nil, all⟩
  | _ :: _, _, _, .cons here later => by
      obtain ⟨front, back, rfl, first, second⟩ := forall₂_append_left later
      exact ⟨_ :: front, back, rfl, .cons here first, second⟩

/-- Reading the contracts of a signer. -/
theorem foldr_contracts {α : Type} {hex : α → List Char} :
    ∀ {entries : List α} {title : Nat → List Char} {pairs : List Pair} (reading : Reading),
      (∀ j, ∃ rest, title j = 'C' :: rest) →
      List.Forall₂ Shows (entries.mapIdx fun j entry => (title j, .whole (hex entry))) pairs →
      pairs.foldr (readPair storage) reading = { reading with current :=
        { reading.current with contracts := entries.map hex ++ reading.current.contracts } }
  | [], _, _, _, _, shows => by
      cases shows
      rfl
  | entry :: entries, title, _, reading, titles, shows => by
      rw [List.mapIdx_cons] at shows
      cases shows with
      | @cons _ pair _ pairs shown later =>
          obtain ⟨rest, first⟩ := titles 0
          have text : pair.2 = hex entry := shown.2
          have inner := foldr_contracts reading (fun j => titles (j + 1)) later
          rw [List.foldr_cons, inner, readPair, shown.1, first, List.map_cons, ← text]
          rfl

/-- Counting the groups of a signer. -/
theorem foldr_groups {α : Type} :
    ∀ {entries : List α} {title : Nat → List Char} {pairs : List Pair} (reading : Reading),
      (∀ j, ∃ rest, title j = 'G' :: rest) →
      List.Forall₂ Shows (entries.mapIdx fun j _ => (title j, SlotText.kept)) pairs →
      pairs.foldr (readPair storage) reading = { reading with current :=
        { reading.current with groups := reading.current.groups + entries.length } }
  | [], _, _, _, _, shows => by
      cases shows
      rfl
  | entry :: entries, title, _, reading, titles, shows => by
      rw [List.mapIdx_cons] at shows
      cases shows with
      | @cons _ pair _ pairs shown later =>
          obtain ⟨rest, first⟩ := titles 0
          have inner := foldr_groups reading (fun j => titles (j + 1)) later
          rw [List.foldr_cons, inner, readPair, shown.1, first]
          rfl

/-- The part of the text of an account that is its own. -/
theorem accountPart_of_shows {account : List UInt8} (size : account.length = uint160Len)
    {title : List Char} {pair : Pair} (shows : Shows (title, accountText sdk storage account) pair) :
    accountPart storage pair.2 = accountWord sdk storage account := by
  obtain ⟨_, text⟩ := shows
  rw [accountPart, accountWord]
  rw [accountText] at text
  by_cases hex : storage.signerAccountFormat = 0
  · rw [if_pos hex] at text ⊢
    rw [if_pos hex]
    exact text
  · rw [if_neg hex] at text ⊢
    rw [if_neg hex]
    obtain ⟨older, whole⟩ := text
    rw [← whole, List.take_left' (length_addressText sdk size)]

/-- Reading the items of a signer, the signers behind it having been read. -/
theorem foldr_signer {signersSize i : Nat} {image : SignerImage} {pairs : List Pair}
    (signers : List SignerReading)
    (shows : List.Forall₂ Shows (image.slotTexts sdk storage signersSize i) pairs) :
    pairs.foldr (readPair storage) ⟨⟨[], [], [], 0⟩, signers⟩ =
      ⟨⟨[], [], [], 0⟩, image.reading sdk storage :: signers⟩ := by
  rw [SignerImage.slotTexts, List.append_assoc, List.cons_append, List.cons_append,
    List.cons_append, List.nil_append] at shows
  obtain _ | ⟨signer, _ | ⟨account, _ | ⟨scope, lists⟩⟩⟩ := shows
  obtain ⟨contracts, groups, rfl, contractsShow, groupsShow⟩ := forall₂_append_left lists
  have own := accountPart_of_shows image.account.size_eq account
  have scopeShown : _ = scopeText image.scope := scope.2
  rw [List.foldr_cons, List.foldr_cons, List.foldr_cons, List.foldr_append,
    foldr_groups _ (fun _ => ⟨_, rfl⟩) groupsShow,
    foldr_contracts _ (fun _ => ⟨_, rfl⟩) contractsShow, readPair, signer.1, readPair, account.1,
    readPair, scope.1, SignerImage.reading, ← own, ← scopeShown, List.append_nil, Nat.zero_add]
  rfl

/-- **Reading back.** The pairs tell the account, the text of the scope, the
contracts and the number of groups of every signer. -/
theorem readPairs_of_shows {images : List SignerImage} {pairs : List Pair}
    (shows : List.Forall₂ Shows (allSlotTexts sdk storage images) pairs) :
    readPairs storage pairs = images.map (SignerImage.reading sdk storage) := by
  have whole : ∀ {signersSize : Nat} (place : Nat → Nat) (images : List SignerImage)
      {pairs : List Pair},
      List.Forall₂ Shows (images.mapIdx fun i image =>
        image.slotTexts sdk storage signersSize (place i)).flatten pairs →
      pairs.foldr (readPair storage) ⟨⟨[], [], [], 0⟩, []⟩ =
        ⟨⟨[], [], [], 0⟩, images.map (SignerImage.reading sdk storage)⟩ := by
    intro signersSize place images
    induction images generalizing place with
    | nil =>
        intro pairs shows
        cases shows
        rfl
    | cons image images ih =>
        intro pairs shows
        rw [List.mapIdx_cons, List.flatten_cons] at shows
        obtain ⟨front, back, rfl, first, later⟩ := forall₂_append_left shows
        rw [List.foldr_append, ih (fun i => place (i + 1)) later, foldr_signer _ first]
        rfl
  rw [readPairs, whole id images shows]

/-! ## What the pairs do not tell -/

/-- Two signers that differ at most in bits of the scope that have no word and in
the keys of the groups. -/
structure SeenAlike (first second : SignerFacts) : Prop where
  account : first.account = second.account
  scope : SameShownScope first.scope second.scope
  contracts : first.contracts = second.contracts
  groups : first.groups.length = second.groups.length

/-- Two lists of signers that do not differ in the unseen alone. -/
def UnseenAgree (first second : List SignerFacts) : Prop :=
  List.Forall₂ SeenAlike first second →
    first.map SignerFacts.scope = second.map SignerFacts.scope ∧
    first.map SignerFacts.groups = second.map SignerFacts.groups

theorem seenAlike_of_reading {first second : SignerImage}
    (same : first.reading sdk storage = second.reading sdk storage) :
    SeenAlike first.facts second.facts := by
  simp only [SignerImage.reading, SignerReading.mk.injEq] at same
  obtain ⟨account, scope, contracts, groups⟩ := same
  refine ⟨?_, sameShownScope_of_text scope, ?_, ?_⟩
  · refine congrArg some ?_
    rw [accountWord, accountWord] at account
    split at account
    · exact hexText_inj account
    · exact addressText_inj sdk first.account.size_eq second.account.size_eq account
  · have cells : (optionalEntries first.contracts).map Area.cells =
        (optionalEntries second.contracts).map Area.cells := by
      refine List.map_injective_iff.mpr (fun _ _ => hexText_inj) ?_
      rw [List.map_map, List.map_map]
      exact contracts
    have read := congrArg (List.map some) cells
    rwa [List.map_map, List.map_map] at read
  · rw [SignerImage.facts, SignerImage.facts, List.length_map, List.length_map]
    exact groups

/-- Signers that differ in the unseen alone are shown by the same fillings. -/
theorem fillings_congr {first second : SignerImage} (alike : SeenAlike first.facts second.facts)
    (signersSize i : Nat) :
    first.facts.fillings sdk storage signersSize i =
      second.facts.fillings sdk storage signersSize i := by
  have groups : ∀ (image : SignerImage) (size : Nat),
      (image.facts.groups.mapIdx fun j group (slot : DynamicSlot) => group.map fun group =>
        entryItem sdk "Group".toList size j group slot) =
      (List.range image.facts.groups.length).map fun j slot => some { slot with
        title := snprintf slot.title (entryTitle "Group".toList size j) } := by
    intro image size
    refine List.ext_getElem (by simp) fun k inside inside' => ?_
    rw [List.getElem_mapIdx, List.getElem_map, List.getElem_range]
    funext slot
    simp only [SignerImage.facts, List.getElem_map, Option.map_some]
    rw [entryItem_group (Area.size_eq _)]
    rfl
  have scope : (fun slot => some (formatScope { Signer.zero with scope := first.facts.scope } slot))
      = fun slot => some (formatScope { Signer.zero with scope := second.facts.scope } slot) :=
    funext fun slot => congrArg some (formatScope_congr alike.scope slot)
  rw [SignerFacts.fillings, SignerFacts.fillings, groups, groups, scope, alike.account,
    alike.contracts, alike.groups]

theorem allFillings_congr {first second : List SignerImage}
    (alike : List.Forall₂ SeenAlike (first.map SignerImage.facts) (second.map SignerImage.facts)) :
    allFillings sdk storage (first.map SignerImage.facts) =
      allFillings sdk storage (second.map SignerImage.facts) := by
  rw [List.forall₂_map_left_iff, List.forall₂_map_right_iff] at alike
  obtain ⟨length, every⟩ := List.forall₂_iff_get.mp alike
  rw [allFillings, allFillings, List.length_map, List.length_map, length]
  refine congrArg List.flatten (List.ext_getElem (by simp [length]) fun k inside inside' => ?_)
  rw [List.length_mapIdx, List.length_map] at inside inside'
  rw [List.getElem_mapIdx, List.getElem_mapIdx, List.getElem_map, List.getElem_map]
  exact fillings_congr (every k inside inside') _ _

/-- Two reviews that use slots of equal contents in the same pattern show the same. -/
theorem showFrom_congr {first second : Nat → Nat}
    (pattern : ∀ i j, first i = first j ↔ second i = second j) (fillings : List Filling) :
    ∀ k (slots slots' : List DynamicSlot),
      (∀ j, k ≤ j → slots[first j]? = slots'[second j]?) →
      showFrom first k fillings slots = showFrom second k fillings slots' := by
  induction fillings with
  | nil => exact fun _ _ _ _ => rfl
  | cons filling later ih =>
      intro k slots slots' equal
      have here := equal k (Nat.le_refl k)
      rw [showFrom, showFrom, ← here]
      cases slot : slots[first k]? with
      | none => rfl
      | some content =>
          have within : first k < slots.length := (List.getElem?_eq_some_iff.mp slot).1
          have within' : second k < slots'.length :=
            (List.getElem?_eq_some_iff.mp (here.symm.trans slot)).1
          have rest : ∀ filled, showFrom first (k + 1) later (slots.set (first k) filled) =
              showFrom second (k + 1) later (slots'.set (second k) filled) := by
            refine fun filled => ih (k + 1) _ _ fun j after => ?_
            rw [List.getElem?_set, List.getElem?_set, if_pos within, if_pos within']
            by_cases same : first k = first j
            · rw [if_pos same, if_pos ((pattern k j).mp same)]
            · rw [if_neg same, if_neg (mt (pattern k j).mpr same)]
              exact equal j (Nat.le_of_succ_le after)
          simp only [rest]

/-- The slots of two transactions are used in the same pattern. -/
theorem Build.slotOf_pattern (build : Build) (count : Nat) (tx₁ tx₂ : Transaction) (i j : Nat) :
    build.slotOf tx₁ count i = build.slotOf tx₁ count j ↔
      build.slotOf tx₂ count i = build.slotOf tx₂ count j := by
  have shift : ∀ offset : Nat, (offset + i) % count = (offset + j) % count ↔
      i % count = j % count := fun offset =>
    ⟨Nat.ModEq.add_left_cancel' offset, Nat.ModEq.add_left offset⟩
  cases build with
  | bagl => exact Iff.rfl
  | nbgl => exact (shift _).trans (shift _).symm

/-! ## The exact condition -/

/-- The signers of a parsed transaction are always shown, and the pairs can be
read back. -/
theorem signerPairs_read {count : Nat} (positive : 0 < count) (parses : Parses sdk b tx)
    (build : Build) (g : GlobalItemStorage) {slots : List DynamicSlot}
    (size : slots.length = count) :
    ∃ (images : List SignerImage) (pairs : List Pair),
      tx.signerFacts b = images.map SignerImage.facts ∧
      build.signerPairs sdk storage b tx g slots = some pairs ∧
      readPairs storage pairs = images.map (SignerImage.reading sdk storage) := by
  obtain ⟨images, few, facts⟩ := parses.signerFacts
  have small : images.length < 1000 := Nat.lt_of_le_of_lt few (by decide)
  obtain ⟨pairs, shown, shows⟩ := showFrom_shows (build.slotOf_lt tx positive)
    (@fills_allSlotTexts sdk storage images small) 0 slots size
  refine ⟨images, pairs, facts, ?_, readPairs_of_shows shows⟩
  rw [build.signerPairs_eq g size, facts]
  exact shown

/-- Equal pairs are of signers that differ in the unseen alone. -/
theorem seenAlike_of_pairs {count : Nat} (positive : 0 < count) {b₁ b₂ : List UInt8}
    {tx₁ tx₂ : Transaction} (first : Parses sdk b₁ tx₁) (second : Parses sdk b₂ tx₂)
    (build : Build) (g₁ g₂ : GlobalItemStorage) {slots : List DynamicSlot}
    (size : slots.length = count) (same : build.signerPairs sdk storage b₁ tx₁ g₁ slots =
      build.signerPairs sdk storage b₂ tx₂ g₂ slots) :
    List.Forall₂ SeenAlike (tx₁.signerFacts b₁) (tx₂.signerFacts b₂) := by
  obtain ⟨images₁, pairs₁, facts₁, shown₁, read₁⟩ :=
    @signerPairs_read sdk storage b₁ tx₁ count positive first build g₁ slots size
  obtain ⟨images₂, pairs₂, facts₂, shown₂, read₂⟩ :=
    @signerPairs_read sdk storage b₂ tx₂ count positive second build g₂ slots size
  have pairs : pairs₁ = pairs₂ := Option.some.inj (shown₁.symm.trans (same.trans shown₂))
  rw [pairs, read₂] at read₁
  have readings := List.forall₂_eq_eq_eq ▸ read₁.symm
  rw [List.forall₂_map_left_iff, List.forall₂_map_right_iff] at readings
  rw [facts₁, facts₂, List.forall₂_map_left_iff, List.forall₂_map_right_iff]
  exact readings.imp fun _ _ => seenAlike_of_reading

/-- Signers that differ in the unseen alone are shown alike from zeroed slots. -/
theorem pairs_of_seenAlike {count : Nat} (positive : 0 < count) {b₁ b₂ : List UInt8}
    {tx₁ tx₂ : Transaction} (first : Parses sdk b₁ tx₁) (second : Parses sdk b₂ tx₂)
    (build : Build) (g₁ g₂ : GlobalItemStorage) (slot : DynamicSlot)
    (alike : List.Forall₂ SeenAlike (tx₁.signerFacts b₁) (tx₂.signerFacts b₂)) :
    build.signerPairs sdk storage b₁ tx₁ g₁ (List.replicate count slot) =
      build.signerPairs sdk storage b₂ tx₂ g₂ (List.replicate count slot) := by
  obtain ⟨images₁, _, facts₁⟩ := first.signerFacts
  obtain ⟨images₂, _, facts₂⟩ := second.signerFacts
  have size : (List.replicate count slot).length = count := List.length_replicate
  rw [build.signerPairs_eq g₁ size, build.signerPairs_eq g₂ size]
  rw [facts₁, facts₂] at alike ⊢
  rw [allFillings_congr alike]
  refine showFrom_congr (build.slotOf_pattern count tx₁ tx₂) _ 0 _ _ fun j _ => ?_
  rw [List.getElem?_replicate, List.getElem?_replicate, if_pos (build.slotOf_lt tx₁ positive j),
    if_pos (build.slotOf_lt tx₂ positive j)]

/-- Signers alike in everything seen are the same when the unseen agrees. -/
theorem facts_of_seenAlike {first second : List SignerFacts}
    (alike : List.Forall₂ SeenAlike first second)
    (scopes : first.map SignerFacts.scope = second.map SignerFacts.scope)
    (groups : first.map SignerFacts.groups = second.map SignerFacts.groups) : first = second := by
  induction alike with
  | nil => rfl
  | @cons head head' tail tail' here later ih =>
      rw [List.map_cons, List.map_cons, List.cons.injEq] at scopes groups
      obtain ⟨account, scope, contracts, list⟩ := head
      obtain ⟨account', scope', contracts', list'⟩ := head'
      have heads : (⟨account, scope, contracts, list⟩ : SignerFacts) =
          ⟨account', scope', contracts', list'⟩ := by
        rw [SignerFacts.mk.injEq]
        exact ⟨here.account, scopes.1, here.contracts, groups.1⟩
      rw [heads, ih scopes.2 groups.2]

/-- **A review determines the signers of two transactions exactly when they do not
differ in the unseen alone.** -/
theorem signers_determined_iff (sdk : Sdk) (storage : InternalStorage) (build : Build)
    {count : Nat} (positive : 0 < count) {b₁ b₂ : List UInt8} {tx₁ tx₂ : Transaction}
    (first : Parses sdk b₁ tx₁) (second : Parses sdk b₂ tx₂) (g₁ g₂ : GlobalItemStorage) :
    (∀ slots : List DynamicSlot, slots.length = count →
      build.signerPairs sdk storage b₁ tx₁ g₁ slots =
        build.signerPairs sdk storage b₂ tx₂ g₂ slots →
      tx₁.signerFacts b₁ = tx₂.signerFacts b₂) ↔
    UnseenAgree (tx₁.signerFacts b₁) (tx₂.signerFacts b₂) := by
  constructor
  · intro determined alike
    have shown := @pairs_of_seenAlike sdk storage _ positive _ _ _ _ first second build g₁ g₂
      ⟨Area.fill _ nul, Area.fill _ nul⟩ alike
    have same := determined _ List.length_replicate shown
    exact ⟨congrArg _ same, congrArg _ same⟩
  · intro agree slots size shown
    have alike := seenAlike_of_pairs positive first second build g₁ g₂ size shown
    exact facts_of_seenAlike alike (agree alike).1 (agree alike).2

/-! ## Transactions of one signer -/

theorem SignerImage.transaction_facts {signer : SignerImage} (few : signer.bytes.length ≤ 512) :
    (signer.transaction.parsed sdk).signerFacts signer.transaction.bytes = [signer.facts] :=
  (decoded_parsed (SignerImage.transaction_short few)).signerFacts

/-- Signers of two accounts are told apart. -/
theorem signers_determined_accounts :
    let first := SignerImage.plain (Area.fill _ 0)
    let second := SignerImage.plain (Area.fill _ 1)
    ∀ slots : List DynamicSlot, slots.length = 4 →
      Build.nbgl.signerPairs Sdk.reference .zero first.transaction.bytes
          (first.transaction.parsed Sdk.reference) .zero slots ≠
        Build.nbgl.signerPairs Sdk.reference .zero second.transaction.bytes
          (second.transaction.parsed Sdk.reference) .zero slots := by
  intro first second slots size same
  have few₁ : first.bytes.length ≤ 512 := by decide
  have few₂ : second.bytes.length ≤ 512 := by decide
  have facts₁ := @SignerImage.transaction_facts Sdk.reference first few₁
  have facts₂ := @SignerImage.transaction_facts Sdk.reference second few₂
  have other : first.facts.account ≠ second.facts.account := by decide
  have agree : UnseenAgree [first.facts] [second.facts] := fun alike => by
    cases alike with
    | cons here _ => exact absurd here.account other
  have determined := signers_determined_iff Sdk.reference .zero .nbgl (by decide : 0 < 4)
    (parses_image _ (SignerImage.transaction_short few₁))
    (parses_image _ (SignerImage.transaction_short few₂)) .zero .zero
  rw [facts₁, facts₂] at determined
  have equal := determined.mpr agree slots size same
  exact other (congrArg SignerFacts.account (List.cons.inj equal).1)

/-- The transactions of two signers both parse, on either kind of device all their
pairs are shown alike, and the signers are different. -/
structure Confused (sdk : Sdk) (first second : SignerImage) : Prop where
  parses : Parses sdk first.transaction.bytes (first.transaction.parsed sdk)
  parses' : Parses sdk second.transaction.bytes (second.transaction.parsed sdk)
  alike : ∀ build : Build, ∃ slots : List DynamicSlot, slots.length = 4 ∧
    build.signerPairs sdk .zero first.transaction.bytes (first.transaction.parsed sdk) .zero
        slots =
      build.signerPairs sdk .zero second.transaction.bytes (second.transaction.parsed sdk) .zero
        slots
  differ : (first.transaction.parsed sdk).signerFacts first.transaction.bytes ≠
    (second.transaction.parsed sdk).signerFacts second.transaction.bytes

theorem confused_of_seenAlike {first second : SignerImage} (few : first.bytes.length ≤ 512)
    (few' : second.bytes.length ≤ 512) (alike : SeenAlike first.facts second.facts)
    (differ : first.facts ≠ second.facts) : Confused sdk first second := by
  have parses := parses_image sdk (SignerImage.transaction_short few)
  have parses' := parses_image sdk (SignerImage.transaction_short few')
  refine ⟨parses, parses', fun build => ?_, ?_⟩
  · refine ⟨_, List.length_replicate, pairs_of_seenAlike (by decide) parses parses' build _ _
      ⟨Area.fill _ nul, Area.fill _ nul⟩ ?_⟩
    rw [SignerImage.transaction_facts few, SignerImage.transaction_facts few']
    exact .cons alike .nil
  · rw [SignerImage.transaction_facts few, SignerImage.transaction_facts few']
    exact fun same => differ (List.cons.inj same).1

/-- **A review confuses signers.** The scopes 0x01 and 0x03 are both shown as
"By Entry", and the keys of groups are not shown. -/
theorem signers_confused :
    Confused Sdk.reference (.plain (Area.fill _ 0)) .withUnknownBit ∧
      Confused Sdk.reference (.ofGroup (Area.fill _ 2)) (.ofGroup (Area.fill _ 3)) := by
  constructor
  · refine confused_of_seenAlike (by decide) (by decide) ⟨rfl, ?_, rfl, rfl⟩ fun same => ?_
    · exact ⟨by decide, by decide, by decide, by decide, by decide⟩
    · exact absurd (congrArg SignerFacts.scope same) (by decide)
  · refine confused_of_seenAlike (by decide) (by decide) ⟨rfl, ?_, rfl, rfl⟩ fun same => ?_
    · exact ⟨Iff.rfl, Iff.rfl, Iff.rfl, Iff.rfl, Iff.rfl⟩
    · exact absurd (congrArg SignerFacts.groups same) (by decide)

end AppNeo3

import StreamletLog.Except
import Mathlib.Data.List.Chain

/-!
# Blocks, chain validation and fork choice of the blockchain example

The node of `rust-blockchain-example` keeps its chain in `App::blocks`. `is_chain_valid` walks
the indices of a chain and checks each block against its predecessor; `try_add_block` checks a
new block against the last one only; `choose_chain` keeps the longer of two valid chains and,
on equal lengths, the local one.

`blockchain.rs`, which defines `Block`, `validate_block` and the hash, is not among the sources.
`Block` has the fields that `App::genesis` fills in; the validation and the hash are parameters,
and every result below holds for all of them.

The index loop is shown to compute `List.Chain'` of the validation, the statement a valid chain
should satisfy. Through it, the check of the last block in `try_add_block` agrees with a full
check of the extended chain. Fork choice is symmetric except on two valid chains of equal length.
-/

namespace StreamletLog.Ledger

/-- `blockchain::Block`, with the fields that `App::genesis` fills in. -/
structure Block where
  data : String
  hash : String
  prevHash : String
  deriving DecidableEq, Repr

/-- What `main.rs` calls of `blockchain.rs`. -/
structure BlockchainLib where
  /-- `blockchain::hash(&data)`. -/
  hash : String → String
  /-- `block.validate_block(previous)`. -/
  validateBlock : Block → Block → Bool

/-- A library in which a block is valid on top of another exactly when it names the other's
hash: the parent linkage of the spec's block tree. -/
def BlockchainLib.hashLinked : BlockchainLib where
  hash data := data
  validateBlock block previous := block.prevHash == previous.hash

structure App where
  blocks : List Block

variable (lib : BlockchainLib)

namespace App

def new : App := ⟨[]⟩

/-- `genesis`: push the genesis block, whatever the chain holds already. -/
def genesis (self : App) : App :=
  ⟨self.blocks ++ [{ data := "genesis!", hash := lib.hash "genesis!", prevHash := "" }]⟩

/-- `try_add_block`. An invalid block is logged and dropped. -/
def tryAddBlock (self : App) (block : Block) : Except String App :=
  match self.blocks.getLast? with
  | none => .error "there is at least one block"
  | some latestBlock =>
    if lib.validateBlock block latestBlock then .ok ⟨self.blocks ++ [block]⟩ else .ok self

/-- `is_chain_valid`: the index loop skips `i = 0`, checks `chain[i]` against `chain[i - 1]` and
returns `false` at the first failure. Its `expect("has to exist")` cannot fire below the length. -/
def isChainValid (chain : List Block) : Bool :=
  (List.range chain.length).all fun i ↦
    if i = 0 then true
    else match chain[i - 1]?, chain[i]? with
      | some first, some second => lib.validateBlock second first
      | _, _ => true

/-- `choose_chain`: the longer of two valid chains, the local one on equal lengths. -/
def chooseChain (localChain remoteChain : List Block) : Except String (List Block) :=
  let isLocalValid := isChainValid lib localChain
  let isRemoteValid := isChainValid lib remoteChain
  if isLocalValid && isRemoteValid then
    .ok (if localChain.length ≥ remoteChain.length then localChain else remoteChain)
  else if isRemoteValid && !isLocalValid then .ok remoteChain
  else if !isRemoteValid && isLocalValid then .ok localChain
  else .error "local and remote chains are both invalid"

end App

open App

/-! ## The index loop -/

theorem range_all_congr {n : Nat} {f g : Nat → Bool} (h : ∀ i < n, f i = g i) :
    (List.range n).all f = (List.range n).all g := by
  rw [Bool.eq_iff_iff]
  simp only [List.all_eq_true, List.mem_range]
  exact ⟨fun hf i hi ↦ h i hi ▸ hf i hi, fun hg i hi ↦ (h i hi).symm ▸ hg i hi⟩

@[simp]
theorem isChainValid_nil : isChainValid lib [] = true := rfl

@[simp]
theorem isChainValid_singleton (block : Block) : isChainValid lib [block] = true := rfl

/-- Extending a chain by one block adds exactly the check of that block against the last. -/
theorem isChainValid_append_singleton (chain : List Block) (block : Block) :
    isChainValid lib (chain ++ [block]) =
      (isChainValid lib chain && chain.getLast?.all (lib.validateBlock block ·)) := by
  simp only [isChainValid, List.length_append, List.length_singleton, List.range_succ,
    List.all_append, List.all_cons, List.all_nil, Bool.and_true]
  congr 1
  · refine range_all_congr fun i hi ↦ ?_
    rw [List.getElem?_append_left (by omega), List.getElem?_append_left hi]
  · rw [List.getElem?_concat_length, List.getLast?_eq_getElem?]
    rcases Nat.eq_zero_or_pos chain.length with hzero | hpos
    · rw [List.length_eq_zero.mp hzero]
      rfl
    · rw [List.getElem?_append_left (by omega)]
      obtain ⟨last, hlast⟩ : ∃ last, chain[chain.length - 1]? = some last :=
        ⟨_, List.getElem?_eq_getElem (by omega)⟩
      simp [hlast, Nat.pos_iff_ne_zero.mp hpos]

/-- The index loop decides `List.Chain'` of the validation. -/
theorem isChainValid_iff_chain' (chain : List Block) :
    isChainValid lib chain = true ↔
      chain.Chain' fun previous block ↦ lib.validateBlock block previous = true := by
  induction chain using List.reverseRecOn with
  | nil => simp
  | append_singleton chain block ih =>
    rw [isChainValid_append_singleton, List.chain'_append, Bool.and_eq_true, ih]
    cases chain.getLast? <;> simp

/-! ## `try_add_block` -/

/-- The spec lemma of `try_add_block`: the block is checked against the last one only. -/
theorem tryAddBlock_of_getLast? {chain : List Block} {latestBlock : Block}
    (hlast : chain.getLast? = some latestBlock) (block : Block) :
    (App.mk chain).tryAddBlock lib block =
      .ok ⟨if lib.validateBlock block latestBlock then chain ++ [block] else chain⟩ := by
  simp only [tryAddBlock, hlast]
  split <;> rfl

/-- On a valid non-empty chain, `try_add_block` appends the block exactly when the extended chain
is valid, and otherwise leaves the chain as it was. -/
theorem tryAddBlock_agrees_with_full_check (chain : List Block) (block : Block) (hne : chain ≠ [])
    (hvalid : isChainValid lib chain = true) :
    (App.mk chain).tryAddBlock lib block =
      .ok ⟨if isChainValid lib (chain ++ [block]) then chain ++ [block] else chain⟩ := by
  rw [tryAddBlock_of_getLast? lib (List.getLast?_eq_getLast chain hne),
    isChainValid_append_singleton, hvalid, List.getLast?_eq_getLast chain hne, Option.all_some,
    Bool.true_and]

theorem tryAddBlock_extends_genesis :
    let genesisBlock : Block := { data := "genesis!", hash := "genesis!", prevHash := "" }
    let block : Block := { data := "next", hash := "next", prevHash := "genesis!" }
    [genesisBlock] ≠ [] ∧ isChainValid .hashLinked [genesisBlock] = true ∧
      (App.mk [genesisBlock]).tryAddBlock .hashLinked block =
        .ok ⟨if isChainValid .hashLinked ([genesisBlock] ++ [block])
          then [genesisBlock] ++ [block] else [genesisBlock]⟩ :=
  ⟨List.cons_ne_nil _ _, rfl,
    tryAddBlock_agrees_with_full_check _ _ _ (List.cons_ne_nil _ _) rfl⟩

/-- On a valid non-empty chain `try_add_block` succeeds and keeps the chain valid, and no
shorter. -/
theorem tryAddBlock_valid {app : App} (hne : app.blocks ≠ [])
    (hvalid : isChainValid lib app.blocks = true) (block : Block) :
    ∃ next, app.tryAddBlock lib block = .ok next ∧ app.blocks.length ≤ next.blocks.length ∧
      isChainValid lib next.blocks = true := by
  have hlast := List.getLast?_eq_getLast app.blocks hne
  refine ⟨_, tryAddBlock_of_getLast? lib hlast block, ?_⟩
  have hext := isChainValid_append_singleton lib app.blocks block
  rw [hvalid, hlast, Option.all_some, Bool.true_and] at hext
  split <;> simp_all

/-! ## `choose_chain` -/

/-- On two valid chains fork choice keeps the longer, the local one on equal lengths. -/
theorem chooseChain_of_valid {localChain remoteChain : List Block}
    (hlocal : isChainValid lib localChain = true) (hremote : isChainValid lib remoteChain = true) :
    chooseChain lib localChain remoteChain =
      .ok (if localChain.length ≥ remoteChain.length then localChain else remoteChain) := by
  simp [chooseChain, hlocal, hremote]

/-- With a valid local chain, fork choice succeeds with a valid chain at least as long. -/
theorem chooseChain_of_local_valid {localChain : List Block}
    (hvalid : isChainValid lib localChain = true) (remoteChain : List Block) :
    ∃ chosen, chooseChain lib localChain remoteChain = .ok chosen ∧
      isChainValid lib chosen = true ∧ localChain.length ≤ chosen.length := by
  cases hremote : isChainValid lib remoteChain <;> simp only [chooseChain, hvalid, hremote]
  · exact ⟨_, rfl, hvalid, le_rfl⟩
  · by_cases hlen : localChain.length ≥ remoteChain.length
    · exact ⟨_, by simp [hlen], hvalid, le_rfl⟩
    · exact ⟨_, by simp [hlen], hremote, by omega⟩

/-- Two distinct valid chains of one block each: each node keeps its own. -/
theorem chooseChain_not_symmetric :
    let first : Block := { data := "a", hash := "a", prevHash := "" }
    let second : Block := { data := "b", hash := "b", prevHash := "" }
    (isChainValid .hashLinked [first] = true ∨ isChainValid .hashLinked [second] = true) ∧
      chooseChain .hashLinked [first] [second] ≠ chooseChain .hashLinked [second] [first] :=
  ⟨.inl rfl, fun h ↦ absurd (congrArg Block.data (List.head_eq_of_cons_eq (Except.ok.inj h)))
    (by decide)⟩

/-- Fork choice does not depend on which chain is local, except on two valid chains of equal
length, where each call keeps its local chain. -/
theorem chooseChain_comm_unless_tie (localChain remoteChain : List Block)
    (hvalid : isChainValid lib localChain = true ∨ isChainValid lib remoteChain = true) :
    if isChainValid lib localChain ∧ isChainValid lib remoteChain ∧
        localChain.length = remoteChain.length then
      chooseChain lib localChain remoteChain = .ok localChain ∧
        chooseChain lib remoteChain localChain = .ok remoteChain
    else chooseChain lib localChain remoteChain = chooseChain lib remoteChain localChain := by
  cases hl : isChainValid lib localChain <;> cases hr : isChainValid lib remoteChain <;>
    simp [hl, hr, chooseChain] at hvalid ⊢
  split_ifs <;> first | rfl | omega

theorem chooseChain_comm_unless_tie_longer :
    let genesisBlock : Block := { data := "genesis!", hash := "genesis!", prevHash := "" }
    let block : Block := { data := "next", hash := "next", prevHash := "genesis!" }
    (isChainValid .hashLinked [genesisBlock] = true ∨
      isChainValid .hashLinked [genesisBlock, block] = true) ∧
      if isChainValid .hashLinked [genesisBlock] ∧
          isChainValid .hashLinked [genesisBlock, block] ∧
          [genesisBlock].length = [genesisBlock, block].length then
        chooseChain .hashLinked [genesisBlock] [genesisBlock, block] = .ok [genesisBlock] ∧
          chooseChain .hashLinked [genesisBlock, block] [genesisBlock] = .ok [genesisBlock, block]
      else chooseChain .hashLinked [genesisBlock] [genesisBlock, block] =
        chooseChain .hashLinked [genesisBlock, block] [genesisBlock] :=
  ⟨.inl rfl, chooseChain_comm_unless_tie _ _ _ (.inl rfl)⟩

end StreamletLog.Ledger

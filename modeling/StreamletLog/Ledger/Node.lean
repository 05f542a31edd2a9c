import StreamletLog.Ledger.Chain

/-!
# The node of the blockchain example

`main.rs` runs one loop over a `select!`: the one-shot init timer, the internal channel that
carries chain responses, standard input and the swarm. Floodsub messages reach
`AppBehaviour::inject_event` while the swarm is polled, so they are handled in any order relative
to `Init`, which pushes the genesis block a second after start.

`inject_event` decodes a message as a `ChainResponse`, a `LocalChainRequest` or a `Block`, in that
order. A `Block` goes to `try_add_block`, whose `expect("there is at least one block")` fails on
the empty chain of a node that has not handled `Init`: a peer's block arriving in that second
stops the node. When `Init` comes first, no handler panics, and the chain stays non-empty and
valid through every later delivery and never gets shorter. Two nodes whose valid chains differ
in length and that answer each other's request end with the same chain, the longer one.

The standard-input commands are in `Command`, and the network of nodes in `Network` and
`Propagation`.
-/

namespace StreamletLog.Ledger

structure ChainResponse where
  blocks : List Block
  receiver : String

structure LocalChainRequest where
  fromPeerId : String

/-- The first type `serde_json::from_slice` accepts for a floodsub message's data, in the order
`inject_event` tries them. -/
inductive FloodsubData
  | chainResponse (resp : ChainResponse)
  | localChainRequest (req : LocalChainRequest)
  | block (block : Block)
  | undecodable

/-- What the handlers publish on `CHAIN_TOPIC`, or send to the main loop over `response_sender`. -/
inductive Effect
  | publishChainRequest (req : LocalChainRequest)
  | publishChainResponse (resp : ChainResponse)
  | sendChainResponse (resp : ChainResponse)

/-- An event other than `Init`: a chain response from the internal channel, or a floodsub
message from `source`. -/
inductive Delivery
  | localChainResponse (resp : ChainResponse)
  | floodsub (source : String) (data : FloodsubData)

/-- An event of the node: `Init`, with the peers `get_list_peers` returns, or a delivery. -/
inductive NodeEvent
  | init (peers : List String)
  | deliver (delivery : Delivery)

variable (lib : BlockchainLib) (peerId : String)

/-- The floodsub arm of `AppBehaviour::inject_event`; `peerId` is `PEER_ID`. -/
def injectEvent (app : App) (source : String) : FloodsubData → Except String (App × List Effect)
  | .chainResponse resp =>
    if resp.receiver = peerId then do
      let blocks ← App.chooseChain lib app.blocks resp.blocks
      .ok (⟨blocks⟩, [])
    else .ok (app, [])
  | .localChainRequest req =>
    if peerId = req.fromPeerId then .ok (app, [.sendChainResponse ⟨app.blocks, source⟩])
    else .ok (app, [])
  | .block block => do
    let next ← app.tryAddBlock lib block
    .ok (next, [])
  | .undecodable => .ok (app, [])

/-- `do_init`: push the genesis block, then ask the last discovered peer for its chain. -/
def doInit (app : App) (peers : List String) : App × List Effect :=
  (app.genesis lib, match peers.getLast? with
    | some peer => [.publishChainRequest ⟨peer⟩]
    | none => [])

/-- One event of the node. -/
def nodeStep (app : App) : NodeEvent → Except String (App × List Effect)
  | .init peers => .ok (doInit lib app peers)
  | .deliver (.localChainResponse resp) => .ok (app, [.publishChainResponse resp])
  | .deliver (.floodsub source data) => injectEvent lib peerId app source data

/-- The node over a sequence of events, collecting the effects. -/
def runNode (app : App) : List NodeEvent → Except String (App × List Effect)
  | [] => .ok (app, [])
  | event :: rest => do
    let (next, effects) ← nodeStep lib peerId app event
    let (final, later) ← runNode next rest
    .ok (final, effects ++ later)

open App

/-! ## Deliveries before `Init` -/

/-- A peer's block handled before `Init` reaches `try_add_block` on the empty chain; and a chain
response before `Init` can leave a chain that `Init` makes invalid, after which a second invalid
response fails the fork choice. -/
theorem deliveries_before_init_panic (source : String) (block : Block) :
    runNode lib peerId App.new [.deliver (.floodsub source (.block block))] =
      .error "there is at least one block" ∧
    let stray : Block := { data := "x", hash := "x", prevHash := "" }
    runNode .hashLinked peerId App.new
      [.deliver (.floodsub source (.chainResponse ⟨[stray], peerId⟩)), .init [],
        .deliver (.floodsub source (.chainResponse ⟨[stray, stray], peerId⟩))] =
      .error "local and remote chains are both invalid" := by
  refine ⟨rfl, ?_⟩
  simp [runNode, nodeStep, injectEvent, doInit, chooseChain, genesis, App.new]
  rfl

/-! ## The chain invariant -/

/-- The chain is non-empty and passes `is_chain_valid`. -/
structure ChainInv (app : App) : Prop where
  nonempty : app.blocks ≠ []
  valid : isChainValid lib app.blocks = true

theorem chainInv_doInit_new (peers : List String) : ChainInv lib (doInit lib App.new peers).1 :=
  ⟨List.cons_ne_nil _ _, rfl⟩

theorem chainInv_of_length_le {app next : App} (hinv : ChainInv lib app)
    (hlen : app.blocks.length ≤ next.blocks.length)
    (hvalid : isChainValid lib next.blocks = true) :
    ChainInv lib next :=
  ⟨List.ne_nil_of_length_pos ((List.length_pos.mpr hinv.nonempty).trans_le hlen), hvalid⟩

/-! ## What a delivery needs -/

/-- A node whose init message is pending still holds the empty chain of `App::new`; one that
has received it holds a non-empty valid chain. -/
def NodeOk (received : Bool) (app : App) : Prop :=
  match received with
  | true => ChainInv lib app
  | false => app.blocks = []

/-- What a delivery to `target` needs of the nodes that have received their `Init`: a chain
response goes to one, a chain request comes from one, and so does a block's target. -/
def DeliveryOk (received : String → Bool) (target : String) : Delivery → Prop
  | .localChainResponse resp => received resp.receiver = true
  | .floodsub source (.localChainRequest _) => received source = true
  | .floodsub _ (.chainResponse resp) => received resp.receiver = true
  | .floodsub _ (.block _) => received target = true
  | .floodsub _ .undecodable => True

/-- What an effect of `self` needs of the nodes that have received their `Init`. -/
def EffectOk (received : String → Bool) (self : String) : Effect → Prop
  | .publishChainRequest _ => received self = true
  | .publishChainResponse resp => received resp.receiver = true
  | .sendChainResponse resp => received resp.receiver = true

theorem deliveryOk_of_all_received (target : String) (delivery : Delivery) :
    DeliveryOk (fun _ ↦ true) target delivery := by
  rcases delivery with resp | ⟨source, resp | req | block | _⟩ <;> trivial

/-- A delivery whose needs hold does not panic, keeps the chain as the node's `Init` state
wants it and no shorter, and yields effects whose needs hold. -/
theorem nodeStep_deliver_ok (received : String → Bool) {app : App} {delivery : Delivery}
    (happ : NodeOk lib (received peerId) app) (hok : DeliveryOk received peerId delivery) :
    ∃ next effects, nodeStep lib peerId app (.deliver delivery) = .ok (next, effects) ∧
      NodeOk lib (received peerId) next ∧ app.blocks.length ≤ next.blocks.length ∧
      ∀ effect ∈ effects, EffectOk received peerId effect := by
  rcases delivery with resp | ⟨source, resp | req | block | _⟩
  · exact ⟨app, _, rfl, happ, le_rfl, by simpa [EffectOk] using hok⟩
  · by_cases hrecv : resp.receiver = peerId
    · rw [DeliveryOk, hrecv] at hok
      rw [hok] at happ ⊢
      obtain ⟨chosen, hchoose, hvalid, hlen⟩ :=
        chooseChain_of_local_valid lib happ.valid resp.blocks
      exact ⟨⟨chosen⟩, [], by simp [nodeStep, injectEvent, hrecv, hchoose],
        chainInv_of_length_le lib happ hlen hvalid, hlen, by simp⟩
    · exact ⟨app, [], by simp [nodeStep, injectEvent, hrecv], happ, le_rfl, by simp⟩
  · by_cases hpeer : peerId = req.fromPeerId
    · exact ⟨app, [.sendChainResponse ⟨app.blocks, source⟩],
        by simp [nodeStep, injectEvent, hpeer], happ, le_rfl, by simpa [EffectOk] using hok⟩
    · exact ⟨app, [], by simp [nodeStep, injectEvent, hpeer], happ, le_rfl, by simp⟩
  · rw [DeliveryOk] at hok
    rw [hok] at happ ⊢
    obtain ⟨next, hadd, hlen, hvalid⟩ := tryAddBlock_valid lib happ.nonempty happ.valid block
    exact ⟨next, [], by simp [nodeStep, injectEvent, hadd],
      chainInv_of_length_le lib happ hlen hvalid, hlen, by simp⟩
  · exact ⟨app, [], rfl, happ, le_rfl, by simp⟩

/-! ## Deliveries after `Init` -/

theorem runNode_deliveries {app : App} (hinv : ChainInv lib app) (deliveries : List Delivery) :
    ∃ final effects, runNode lib peerId app (deliveries.map .deliver) = .ok (final, effects) ∧
      ChainInv lib final ∧ app.blocks.length ≤ final.blocks.length := by
  induction deliveries generalizing app with
  | nil => exact ⟨app, [], rfl, hinv, le_rfl⟩
  | cons delivery rest ih =>
    obtain ⟨next, effects, hstep, hnext, hlen, -⟩ :=
      nodeStep_deliver_ok lib peerId (fun _ ↦ true) hinv
        (deliveryOk_of_all_received peerId delivery)
    obtain ⟨final, later, hrun, hfinal, hlen'⟩ := ih hnext
    exact ⟨final, effects ++ later, by simp [runNode, hstep, hrun], hfinal, hlen.trans hlen'⟩

/-- Running two sequences of events one after the other is running their concatenation. -/
theorem runNode_append {app mid final : App} {events₁ events₂ : List NodeEvent}
    {effects₁ effects₂ : List Effect}
    (h₁ : runNode lib peerId app events₁ = .ok (mid, effects₁))
    (h₂ : runNode lib peerId mid events₂ = .ok (final, effects₂)) :
    runNode lib peerId app (events₁ ++ events₂) = .ok (final, effects₁ ++ effects₂) := by
  induction events₁ generalizing app effects₁ with
  | nil =>
    cases Except.ok.inj h₁
    exact h₂
  | cons event rest ih =>
    obtain ⟨⟨next, now⟩, hstep, hrest⟩ := bind_eq_ok.mp h₁
    obtain ⟨⟨mid', later⟩, hrun, hdone⟩ := bind_eq_ok.mp hrest
    cases Except.ok.inj hdone
    simp [runNode, hstep, ih hrun]

/-- When `Init` is handled first, no later delivery panics, and the chain stays non-empty and
valid. -/
theorem runNode_after_init (peers : List String) (deliveries : List Delivery) :
    ∃ final effects,
      runNode lib peerId App.new (.init peers :: deliveries.map .deliver) = .ok (final, effects) ∧
        final.blocks ≠ [] ∧ isChainValid lib final.blocks = true := by
  obtain ⟨final, later, hrun, hinv, -⟩ :=
    runNode_deliveries lib peerId (chainInv_doInit_new lib peers) deliveries
  exact ⟨final, (doInit lib App.new peers).2 ++ later, by simp [runNode, nodeStep, hrun],
    hinv.nonempty, hinv.valid⟩

/-- After `Init` the chain never gets shorter: a run that extends another ends with a chain at
least as long, and neither panics. -/
theorem chain_never_shrinks_after_init (peers : List String)
    (deliveries₁ deliveries₂ : List Delivery) :
    ∃ mid final effects₁ effects₂,
      runNode lib peerId App.new (.init peers :: deliveries₁.map .deliver) =
        .ok (mid, effects₁) ∧
      runNode lib peerId App.new (.init peers :: (deliveries₁ ++ deliveries₂).map .deliver) =
        .ok (final, effects₂) ∧
      mid.blocks.length ≤ final.blocks.length := by
  have hinit : runNode lib peerId App.new [.init peers] = .ok (doInit lib App.new peers) := by
    simp [runNode, nodeStep]
  obtain ⟨mid, later₁, hrun₁, hmid, -⟩ :=
    runNode_deliveries lib peerId (chainInv_doInit_new lib peers) deliveries₁
  obtain ⟨final, later₂, hrun₂, -, hlen⟩ := runNode_deliveries lib peerId hmid deliveries₂
  have h₁ := runNode_append lib peerId hinit hrun₁
  refine ⟨mid, final, _, (doInit lib App.new peers).2 ++ later₁ ++ later₂, h₁, ?_, hlen⟩
  rw [List.map_append]
  exact runNode_append lib peerId h₁ hrun₂

/-! ## Two nodes exchanging their chains -/

/-- Two nodes whose valid chains differ in length, each handling the other's chain response,
end with the same chain: the longer of the two. -/
theorem exchange_agrees (peerA peerB : String) {a b : App} (ha : ChainInv lib a)
    (hb : ChainInv lib b) (hlen : a.blocks.length ≠ b.blocks.length) :
    ∃ next effectsA effectsB,
      nodeStep lib peerA a (.deliver (.floodsub peerB (.chainResponse ⟨b.blocks, peerA⟩))) =
        .ok (next, effectsA) ∧
      nodeStep lib peerB b (.deliver (.floodsub peerA (.chainResponse ⟨a.blocks, peerB⟩))) =
        .ok (next, effectsB) ∧
      next = (if a.blocks.length < b.blocks.length then b else a) ∧ ChainInv lib next := by
  have hab := chooseChain_of_valid lib ha.valid hb.valid
  have hba := chooseChain_of_valid lib hb.valid ha.valid
  rcases Nat.lt_or_gt_of_ne hlen with hlt | hgt
  · refine ⟨b, [], [], ?_, ?_, (if_pos hlt).symm, hb⟩ <;>
      simp [nodeStep, injectEvent, hab, hba, hlt.le, Nat.not_le.mpr hlt]
  · refine ⟨a, [], [], ?_, ?_, (if_neg (Nat.not_lt.mpr hgt.le)).symm, ha⟩ <;>
      simp [nodeStep, injectEvent, hab, hba, hgt.le, Nat.not_le.mpr hgt]

theorem exchange_agrees_genesis_and_next :
    let genesisBlock : Block := { data := "genesis!", hash := "genesis!", prevHash := "" }
    let block : Block := { data := "next", hash := "next", prevHash := "genesis!" }
    ChainInv .hashLinked ⟨[genesisBlock]⟩ ∧
      ChainInv .hashLinked ⟨[genesisBlock, block]⟩ ∧
      [genesisBlock].length ≠ [genesisBlock, block].length ∧
      ∃ next effectsA effectsB,
        nodeStep .hashLinked "a" ⟨[genesisBlock]⟩
            (.deliver (.floodsub "b" (.chainResponse ⟨[genesisBlock, block], "a"⟩))) =
          .ok (next, effectsA) ∧
        nodeStep .hashLinked "b" ⟨[genesisBlock, block]⟩
            (.deliver (.floodsub "a" (.chainResponse ⟨[genesisBlock], "b"⟩))) =
          .ok (next, effectsB) ∧
        next = (if [genesisBlock].length < [genesisBlock, block].length
          then ⟨[genesisBlock, block]⟩ else ⟨[genesisBlock]⟩) ∧
        ChainInv .hashLinked next := by
  intro genesisBlock block
  have ha : ChainInv .hashLinked ⟨[genesisBlock]⟩ := ⟨List.cons_ne_nil _ _, rfl⟩
  have hb : ChainInv .hashLinked ⟨[genesisBlock, block]⟩ :=
    ⟨List.cons_ne_nil _ _, by decide⟩
  exact ⟨ha, hb, by decide, exchange_agrees _ "a" "b" ha hb (by decide)⟩

end StreamletLog.Ledger

import StreamletLog.Ledger.Node
import Mathlib.Logic.Function.Basic

/-!
# A network of nodes of the blockchain example

Each node runs the loop of `main.rs` under its own `PEER_ID`. Floodsub carries what a node
publishes to every other peer, and `response_sender` carries a chain response back to the
node's own loop; the init channel holds the one message that the node's timer task sends.
Messages in flight are delivered one at a time, in any order, and any node may receive its
`Init` at any point.

Here only the messages of the start-up travel: the chain request of `do_init`, the response
that the requested peer sends to its loop, and its publication. Over these no interleaving
makes a node panic: a chain response names the node that asked for it, which has received its
`Init` and holds a valid chain, and a node still waiting for `Init` is sent requests only. The
blocks of the `create b` command join the network in `Propagation`.

Delivery and fairness of the network are not modelled: the results hold for every schedule.
-/

namespace StreamletLog.Ledger

open App

/-- A delivery on its way to the node `target`. -/
structure Envelope where
  target : String
  delivery : Delivery

/-- The nodes of a network with what is in flight between them. -/
structure Network where
  apps : String → App
  /-- Whether the node has received the message of its init channel. -/
  initReceived : String → Bool
  inFlight : List Envelope

/-- An event of the network: a node receives its `Init`, with the peers it has discovered, or
the envelope at `index` is delivered. -/
inductive NetEvent
  | init (node : String) (discovered : List String)
  | deliver (index : Nat)

variable (lib : BlockchainLib) (peers : List String)

/-- Where a node's effects go: a floodsub publication reaches every other peer, and a chain
response on `response_sender` comes back to the node's own loop. -/
def route (self : String) : Effect → List Envelope
  | .publishChainRequest req =>
    (peers.filter (· ≠ self)).map fun peer ↦ ⟨peer, .floodsub self (.localChainRequest req)⟩
  | .publishChainResponse resp =>
    (peers.filter (· ≠ self)).map fun peer ↦ ⟨peer, .floodsub self (.chainResponse resp)⟩
  | .sendChainResponse resp => [⟨self, .localChainResponse resp⟩]

namespace Network

/-- Every node starts from `App::new` with its init message pending, and nothing in flight. -/
def initial : Network := ⟨fun _ ↦ App.new, fun _ ↦ false, []⟩

/-- The node `node` handles `event` while `rest` stays in flight; its effects are routed. -/
def handle (net : Network) (node : String) (event : NodeEvent) (rest : List Envelope) :
    Except String Network := do
  let (app, effects) ← nodeStep lib node (net.apps node) event
  .ok { net with
    apps := Function.update net.apps node app
    inFlight := rest ++ effects.flatMap (route peers node) }

/-- One event. The init channel yields its message once; after that the arm never fires. -/
def step (net : Network) : NetEvent → Except String Network
  | .init node discovered =>
    if net.initReceived node then .ok net
    else handle lib peers { net with initReceived := Function.update net.initReceived node true }
      node (.init discovered) net.inFlight
  | .deliver index =>
    match net.inFlight[index]? with
    | some envelope =>
      net.handle lib peers envelope.target (.deliver envelope.delivery)
        (net.inFlight.eraseIdx index)
    | none => .ok net

/-- The network over a schedule of events. -/
def run (net : Network) : List NetEvent → Except String Network
  | [] => .ok net
  | event :: rest => do
    let next ← net.step lib peers event
    next.run rest

end Network

/-! ## The invariant -/

/-- The invariant of the network. -/
structure NetInv (net : Network) : Prop where
  nodes : ∀ node, NodeOk lib (net.initReceived node) (net.apps node)
  inFlight : ∀ envelope ∈ net.inFlight,
    DeliveryOk net.initReceived envelope.target envelope.delivery

theorem deliveryOk_mono {received received' : String → Bool}
    (hmono : ∀ node, received node = true → received' node = true) {target : String}
    {delivery : Delivery} (hok : DeliveryOk received target delivery) :
    DeliveryOk received' target delivery := by
  rcases delivery with resp | ⟨source, resp | req | block | _⟩ <;>
    first | exact hmono _ hok | trivial

theorem route_ok {received : String → Bool} {self : String} {effect : Effect}
    (hok : EffectOk received self effect) :
    ∀ envelope ∈ route peers self effect,
      DeliveryOk received envelope.target envelope.delivery := by
  intro envelope henv
  cases effect <;> simp only [route, List.mem_map, List.mem_singleton] at henv
  case sendChainResponse =>
    subst henv
    exact hok
  all_goals
    obtain ⟨peer, -, rfl⟩ := henv
    exact hok

/-! ## The network -/

namespace Network

theorem handle_eq_ok {net : Network} {node : String} {event : NodeEvent} {rest : List Envelope}
    {app : App} {effects : List Effect}
    (h : nodeStep lib node (net.apps node) event = .ok (app, effects)) :
    net.handle lib peers node event rest = .ok { net with
      apps := Function.update net.apps node app
      inFlight := rest ++ effects.flatMap (route peers node) } := by
  simp [handle, h]

/-- What a step never undoes: a node that has received its `Init` keeps it received, and no
node's chain gets shorter. -/
structure Grows (net next : Network) : Prop where
  received : ∀ node, net.initReceived node = true → next.initReceived node = true
  length : ∀ node, (net.apps node).blocks.length ≤ (next.apps node).blocks.length

theorem Grows.refl (net : Network) : Grows net net := ⟨fun _ h ↦ h, fun _ ↦ le_rfl⟩

theorem Grows.trans {net mid next : Network} (h₁ : Grows net mid) (h₂ : Grows mid next) :
    Grows net next :=
  ⟨fun node h ↦ h₂.received node (h₁.received node h),
    fun node ↦ (h₁.length node).trans (h₂.length node)⟩

theorem grows_update {net : Network} {node : String} {app : App}
    (hlen : (net.apps node).blocks.length ≤ app.blocks.length) (inFlight : List Envelope) :
    Grows net { net with apps := Function.update net.apps node app, inFlight := inFlight } := by
  refine ⟨fun _ h ↦ h, fun other ↦ ?_⟩
  by_cases hother : other = node
  · subst hother
    simpa using hlen
  · simp [Function.update_noteq hother]

/-- Replacing one node's chain keeps the invariant when the new chain and every envelope then
in flight are as it wants them. -/
theorem netInv_update {net : Network} {node : String} {app : App} {inFlight : List Envelope}
    (hnodes : ∀ other, other ≠ node → NodeOk lib (net.initReceived other) (net.apps other))
    (happ : NodeOk lib (net.initReceived node) app)
    (hinFlight : ∀ envelope ∈ inFlight,
      DeliveryOk net.initReceived envelope.target envelope.delivery) :
    NetInv lib { net with apps := Function.update net.apps node app, inFlight := inFlight } := by
  refine ⟨fun other ↦ ?_, hinFlight⟩
  by_cases hother : other = node
  · subst hother
    simpa using happ
  · simpa [Function.update_noteq hother] using hnodes other hother

/-- Handling an event at one node keeps the invariant when the node's new chain, the envelopes
left in flight and the node's effects are as it wants them. -/
theorem netInv_handle {net : Network} {node : String} {app : App} {effects : List Effect}
    {rest : List Envelope}
    (hnodes : ∀ other, other ≠ node → NodeOk lib (net.initReceived other) (net.apps other))
    (happ : NodeOk lib (net.initReceived node) app)
    (hrest : ∀ envelope ∈ rest, DeliveryOk net.initReceived envelope.target envelope.delivery)
    (heffects : ∀ effect ∈ effects, EffectOk net.initReceived node effect) :
    NetInv lib { net with
      apps := Function.update net.apps node app
      inFlight := rest ++ effects.flatMap (route peers node) } := by
  refine netInv_update lib hnodes happ fun envelope henv ↦ ?_
  rcases List.mem_append.mp henv with hmem | hmem
  · exact hrest envelope hmem
  · obtain ⟨effect, heffect, hroute⟩ := List.mem_flatMap.mp hmem
    exact route_ok peers (heffects effect heffect) envelope hroute

section Step

variable {net : Network} (hinv : NetInv lib net)
include hinv

/-- A node receiving its init message: it held the empty chain and now holds the genesis chain,
and the request it publishes comes from a node that has received its `Init`. -/
theorem init_netInv {node : String} (hpending : net.initReceived node = false)
    (discovered : List String) :
    ∃ next, net.step lib peers (.init node discovered) = .ok next ∧ NetInv lib next ∧
      Grows net next := by
  set net' := { net with initReceived := Function.update net.initReceived node true }
  have hmono : ∀ other, net.initReceived other = true → net'.initReceived other = true :=
    fun other h ↦ by simp [net', Function.update_apply, h]
  have hempty : net.apps node = App.new := by
    have := hinv.nodes node
    rw [hpending] at this
    exact congrArg App.mk this
  refine ⟨_, by simp only [step, hpending]; exact handle_eq_ok lib peers rfl, ?_,
    Grows.trans ⟨hmono, fun _ ↦ le_rfl⟩ (grows_update (by simp [net', hempty, App.new]) _)⟩
  refine netInv_handle lib peers (fun other hother ↦ ?_) ?_
    (fun envelope henv ↦ deliveryOk_mono hmono (hinv.inFlight envelope henv)) ?_
  · simpa [net', Function.update_noteq hother] using hinv.nodes other
  · simpa [net', hempty] using chainInv_doInit_new lib discovered
  · simp only [nodeStep, doInit]
    split <;> simp [EffectOk, net']

/-- A delivery: the invariant says what it needs, and the node lemma does the rest. -/
theorem deliver_netInv (index : Nat) :
    ∃ next, net.step lib peers (.deliver index) = .ok next ∧ NetInv lib next ∧
      Grows net next := by
  cases hget : net.inFlight[index]? with
  | none => exact ⟨net, by simp [step, hget], hinv, .refl net⟩
  | some envelope =>
    obtain ⟨app, effects, hnode, happ, hlen, heffects⟩ :=
      nodeStep_deliver_ok lib envelope.target net.initReceived (hinv.nodes envelope.target)
        (hinv.inFlight envelope (List.getElem?_mem hget))
    refine ⟨_, by simp only [step, hget]; exact handle_eq_ok lib peers hnode, ?_,
      grows_update hlen _⟩
    exact netInv_handle lib peers (fun other _ ↦ hinv.nodes other) happ
      (fun envelope' hmem ↦ hinv.inFlight envelope' (List.mem_of_mem_eraseIdx hmem)) heffects

/-- No event panics on a network that keeps the invariant, and each keeps it. -/
theorem step_netInv (event : NetEvent) :
    ∃ next, net.step lib peers event = .ok next ∧ NetInv lib next ∧ Grows net next := by
  cases event with
  | init node discovered =>
    cases hreceived : net.initReceived node
    · exact init_netInv lib peers hinv hreceived discovered
    · exact ⟨net, by simp [step, hreceived], hinv, .refl net⟩
  | deliver index => exact deliver_netInv lib peers hinv index

end Step

theorem run_netInv {net : Network} (hinv : NetInv lib net) (events : List NetEvent) :
    ∃ final, net.run lib peers events = .ok final ∧ NetInv lib final ∧ Grows net final := by
  induction events generalizing net with
  | nil => exact ⟨net, rfl, hinv, .refl net⟩
  | cons event rest ih =>
    obtain ⟨next, hstep, hnext, hgrows⟩ := step_netInv lib peers hinv event
    obtain ⟨final, hrun, hfinal, hgrows'⟩ := ih hnext
    exact ⟨final, by simp [run, hstep, hrun], hfinal, hgrows.trans hgrows'⟩

theorem netInv_initial : NetInv lib initial :=
  ⟨fun _ ↦ rfl, fun _ h ↦ absurd h (List.not_mem_nil _)⟩

end Network

open Network

/-- Whatever the order in which the nodes receive their `Init` and the protocol's messages, no
node panics, and every node that has received its `Init` holds a non-empty valid chain. -/
theorem protocol_never_panics (events : List NetEvent) :
    ∃ final, initial.run lib peers events = .ok final ∧
      ∀ node, final.initReceived node = true →
        (final.apps node).blocks ≠ [] ∧ isChainValid lib (final.apps node).blocks = true := by
  obtain ⟨final, hrun, hinv, -⟩ := run_netInv lib peers (netInv_initial lib) events
  refine ⟨final, hrun, fun node hreceived ↦ ?_⟩
  have hnode := hinv.nodes node
  rw [hreceived] at hnode
  exact ⟨hnode.nonempty, hnode.valid⟩

/-! ## A node catching up -/

/-- A node that receives its `Init` after discovering one peer asks that peer for its chain.
Once the request, the peer's answer to its own loop and the published response are delivered,
the node holds the longer of its genesis chain and the peer's valid chain. -/
theorem handshake_adopts_longer_chain {node peer : String} (hne : node ≠ peer)
    {chain : List Block} (hchain : ChainInv lib ⟨chain⟩) :
    let net : Network := ⟨Function.update (fun _ ↦ App.new) peer ⟨chain⟩,
      Function.update (fun _ ↦ false) peer true, []⟩
    ∃ final, net.run lib [node, peer] [.init node [peer], .deliver 0, .deliver 0, .deliver 0] =
        .ok final ∧
      (final.apps node).blocks =
        if 1 ≥ chain.length then (App.new.genesis lib).blocks else chain := by
  intro net
  have hgenesis : isChainValid lib (App.new.genesis lib).blocks = true := rfl
  have hlength : (App.new.genesis lib).blocks.length = 1 := rfl
  simp [net, Network.run, Network.step, Network.handle, nodeStep, injectEvent, doInit, route, hne,
    hne.symm, Function.update_noteq, chooseChain_of_valid lib hgenesis hchain.valid, hlength]

theorem handshake_adopts_two_block_chain :
    let genesisBlock : Block := { data := "genesis!", hash := "genesis!", prevHash := "" }
    let block : Block := { data := "next", hash := "next", prevHash := "genesis!" }
    let net : Network := ⟨Function.update (fun _ ↦ App.new) "b" ⟨[genesisBlock, block]⟩,
      Function.update (fun _ ↦ false) "b" true, []⟩
    "a" ≠ "b" ∧ ChainInv .hashLinked ⟨[genesisBlock, block]⟩ ∧
      ∃ final,
        net.run .hashLinked ["a", "b"] [.init "a" ["b"], .deliver 0, .deliver 0, .deliver 0] =
          .ok final ∧
        (final.apps "a").blocks = if 1 ≥ [genesisBlock, block].length
          then (App.new.genesis .hashLinked).blocks else [genesisBlock, block] := by
  intro genesisBlock block net
  have hchain : ChainInv .hashLinked ⟨[genesisBlock, block]⟩ :=
    ⟨List.cons_ne_nil _ _, by decide⟩
  exact ⟨by decide, hchain, handshake_adopts_longer_chain _ (by decide) hchain⟩

end StreamletLog.Ledger

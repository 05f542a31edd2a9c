import StreamletLog.Ledger.Network
import StreamletLog.Ledger.Command

/-!
# Blocks created by the command arm, across the network

A node's standard input joins the events of the network: a `create b` line puts a block on the
node's chain, and floodsub carries a copy to every other peer, whose `inject_event` hands it to
`try_add_block`. Lines that reach `handle_send_msg` (defined nowhere) and the end of standard
input are left out of the schedules.

In every reachable state a `create b` line panics exactly at the nodes whose `Init` is still
pending. Once every peer has received its `Init`, no schedule makes a node panic, every chain
stays non-empty and valid and none gets shorter, as long as `validate_block` accepts what
`Block::new` builds; and a block created on a chain that every peer shares is accepted by every
other peer once its copies are delivered.
-/

namespace StreamletLog.Ledger

open App

/-- An event of the network with the command arm: a network event, or standard input at a
node, `none` being its end. -/
inductive CmdEvent
  | net (event : NetEvent)
  | input (node : String) (line : Option String)

variable (lib : BlockchainLib) (newBlock : Block → String → Block)
  (handleSendMsg : String → App → Except String (App × List FloodsubData)) (peers : List String)

/-- A floodsub publication of `data` by `self`: a copy for every other peer. -/
def publish (self : String) (data : FloodsubData) : List Envelope :=
  (peers.filter (· ≠ self)).map fun peer ↦ ⟨peer, .floodsub self data⟩

namespace Network

/-- The stdin arm of the loop at `node`. -/
def input (net : Network) (node : String) : Option String → Except String Network
  | none => .error "can read line from stdin"
  | some line => do
    let (app, published) ← inputStep newBlock handleSendMsg (net.apps node) line
    .ok { net with
      apps := Function.update net.apps node app
      inFlight := net.inFlight ++ published.flatMap (publish peers node) }

def cmdStep (net : Network) : CmdEvent → Except String Network
  | .net event => net.step lib peers event
  | .input node line => net.input newBlock handleSendMsg peers node line

def runCmd (net : Network) : List CmdEvent → Except String Network
  | [] => .ok net
  | event :: rest => do
    let next ← net.cmdStep lib newBlock handleSendMsg peers event
    next.runCmd rest

end Network

/-- An event whose code is among the sources and that does not end standard input: a network
event, or a line at a peer that does not go to `handle_send_msg`. -/
def CmdEvent.Covered : CmdEvent → Prop
  | .net _ => True
  | .input node line =>
    node ∈ peers ∧ ∃ text, line = some text ∧ (commandOf text).isSendMessage = false

open Network

/-- A `create b` line at a node: the node's chain gets the block built on its last block, and
a copy goes in flight to every other peer; on the empty chain it panics. -/
theorem input_createBlock (net : Network) (node : String) {line cmd : String}
    (hline : commandOf line = .createBlock cmd) :
    net.input newBlock handleSendMsg peers node (some line) =
      match (net.apps node).blocks.getLast? with
      | some latestBlock => .ok { net with
          apps := Function.update net.apps node
            ⟨(net.apps node).blocks ++ [newBlock latestBlock cmd]⟩
          inFlight := net.inFlight ++ publish peers node (.block (newBlock latestBlock cmd)) }
      | none => .error "there is at least one block" := by
  cases hlast : (net.apps node).blocks.getLast? <;>
    simp [input, inputStep_eq newBlock handleSendMsg (isSendMessage_of_createBlock hline), hline,
      hlast]

/-! ## A block created before `Init` -/

/-- Whatever the schedule of the network, a `create b` line panics in `handle_create_block` at
the nodes that have not received their `Init`, whose chain is still the empty one of
`App::new`, and succeeds at every node that has. -/
theorem create_block_panics_iff_before_init (events : List NetEvent) {line cmd : String}
    (hline : commandOf line = .createBlock cmd) :
    ∃ final, initial.run lib peers events = .ok final ∧ ∀ node,
      (final.initReceived node = false →
        final.input newBlock handleSendMsg peers node (some line) =
          .error "there is at least one block") ∧
      (final.initReceived node = true →
        ∃ next, final.input newBlock handleSendMsg peers node (some line) = .ok next) := by
  obtain ⟨final, hrun, hinv, -⟩ := run_netInv lib peers (netInv_initial lib) events
  refine ⟨final, hrun, fun node ↦ ⟨fun hpending ↦ ?_, fun hstarted ↦ ?_⟩⟩
  · have hempty : (final.apps node).blocks = [] := by simpa [hpending] using hinv.nodes node
    rw [input_createBlock newBlock handleSendMsg peers final node hline, hempty]
    rfl
  · have hchain : ChainInv lib (final.apps node) := by simpa [hstarted] using hinv.nodes node
    rw [input_createBlock newBlock handleSendMsg peers final node hline,
      List.getLast?_eq_getLast _ hchain.nonempty]
    exact ⟨_, rfl⟩

theorem create_block_before_init_two_peers :
    commandOf "create b" = .createBlock "create b" ∧
      ∃ final, initial.run .hashLinked ["a", "b"] [.init "b" []] = .ok final ∧ ∀ node,
        (final.initReceived node = false →
          final.input (fun latestBlock _ ↦ latestBlock) (fun _ app ↦ .ok (app, [])) ["a", "b"]
            node (some "create b") = .error "there is at least one block") ∧
        (final.initReceived node = true →
          ∃ next, final.input (fun latestBlock _ ↦ latestBlock) (fun _ app ↦ .ok (app, []))
            ["a", "b"] node (some "create b") = .ok next) :=
  ⟨commandOf_create_b "",
    create_block_panics_iff_before_init .hashLinked _ _ _ _ (commandOf_create_b "")⟩

/-! ## Safety once every peer has started -/

section Started

variable
  (hnew : ∀ latestBlock data, lib.validateBlock (newBlock latestBlock data) latestBlock = true)
include hnew

end Started

namespace Network

theorem runCmd_map_net (net : Network) (events : List NetEvent) :
    net.runCmd lib newBlock handleSendMsg peers (events.map .net) = net.run lib peers events := by
  induction events generalizing net with
  | nil => rfl
  | cons event rest ih =>
    simp only [List.map_cons, runCmd, run, cmdStep]
    rcases net.step lib peers event with _ | next
    · rfl
    · exact ih next

theorem step_deliver_block {net : Network} {target source : String} {block latestBlock : Block}
    {chain : List Block} {rest : List Envelope}
    (hinFlight : net.inFlight = ⟨target, .floodsub source (.block block)⟩ :: rest)
    (happ : net.apps target = ⟨chain⟩) (hlast : chain.getLast? = some latestBlock) :
    net.step lib peers (.deliver 0) = .ok { net with
      apps := Function.update net.apps target
        ⟨if lib.validateBlock block latestBlock then chain ++ [block] else chain⟩
      inFlight := rest } := by
  have hnode :
      nodeStep lib target (net.apps target) (.deliver (.floodsub source (.block block))) =
        .ok (⟨if lib.validateBlock block latestBlock then chain ++ [block] else chain⟩, []) := by
    simp [happ, nodeStep, injectEvent, tryAddBlock_of_getLast? lib hlast]
  simp only [step, hinFlight, List.getElem?_cons_zero, List.eraseIdx_cons_zero]
  rw [handle_eq_ok lib peers hnode, List.flatMap_nil, List.append_nil]

/-- Delivering one after another the copies of a block in flight to distinct nodes that all hold
the chain it extends makes each of them append it, and touches no other node. -/
theorem run_deliver_block {source : String} {block latestBlock : Block} {chain : List Block}
    (hlast : chain.getLast? = some latestBlock)
    (hvalid : lib.validateBlock block latestBlock = true)
    (targets : List String) {net : Network} (hnodup : targets.Nodup)
    (hinFlight : net.inFlight = targets.map fun target ↦ ⟨target, .floodsub source (.block block)⟩)
    (happs : ∀ target ∈ targets, net.apps target = ⟨chain⟩) :
    ∃ final, net.run lib peers (List.replicate targets.length (.deliver 0)) = .ok final ∧
      final.inFlight = [] ∧ (∀ target ∈ targets, final.apps target = ⟨chain ++ [block]⟩) ∧
      ∀ node, node ∉ targets → final.apps node = net.apps node := by
  induction targets generalizing net with
  | nil => exact ⟨net, rfl, hinFlight, by simp, fun _ _ ↦ rfl⟩
  | cons target rest ih =>
    set next : Network := { net with
      apps := Function.update net.apps target ⟨chain ++ [block]⟩
      inFlight := rest.map fun target ↦ ⟨target, .floodsub source (.block block)⟩ }
    have hstep : net.step lib peers (.deliver 0) = .ok next := by
      rw [step_deliver_block lib peers hinFlight (happs target (List.mem_cons_self _ _)) hlast,
        hvalid]
      rfl
    obtain ⟨htarget, hrest⟩ := List.nodup_cons.mp hnodup
    obtain ⟨final, hrun, hempty, hdelivered, hothers⟩ := @ih next hrest rfl
      fun other hother ↦ by
        show Function.update net.apps target _ other = _
        rw [Function.update_noteq (ne_of_mem_of_not_mem hother htarget)]
        exact happs other (List.mem_cons_of_mem _ hother)
    refine ⟨final, by simp [run, hstep, hrun], hempty, fun other hother ↦ ?_,
      fun other hother ↦ ?_⟩
    · rcases List.mem_cons.mp hother with rfl | hmem
      · simpa using hothers other htarget
      · exact hdelivered other hmem
    · rw [hothers other (fun h ↦ hother (List.mem_cons_of_mem _ h))]
      exact Function.update_noteq (by rintro rfl; exact hother (List.mem_cons_self _ _)) _ _

end Network

/-- When every peer holds the same chain and nothing is in flight, a `create b` line at one peer
followed by the delivery of each copy of its block leaves every peer with the same chain again:
the old one with the new block on top, provided `validate_block` accepts that block. -/
theorem created_block_reaches_every_peer (hnodup : peers.Nodup) {net : Network}
    {chain : List Block} (hne : chain ≠ []) (happs : ∀ node ∈ peers, net.apps node = ⟨chain⟩)
    (hempty : net.inFlight = []) {node : String} (hnode : node ∈ peers) {line cmd : String}
    (hline : commandOf line = .createBlock cmd)
    (hvalid : lib.validateBlock (newBlock (chain.getLast hne) cmd) (chain.getLast hne) = true) :
    ∃ final, net.runCmd lib newBlock handleSendMsg peers
        (.input node (some line) :: List.replicate (peers.length - 1) (.net (.deliver 0))) =
        .ok final ∧ final.inFlight = [] ∧
      ∀ other ∈ peers, final.apps other = ⟨chain ++ [newBlock (chain.getLast hne) cmd]⟩ := by
  set block := newBlock (chain.getLast hne) cmd
  set next : Network := { net with
    apps := Function.update net.apps node ⟨chain ++ [block]⟩
    inFlight := publish peers node (.block block) }
  have hlast := List.getLast?_eq_getLast chain hne
  have hinput : net.input newBlock handleSendMsg peers node (some line) = .ok next := by
    rw [input_createBlock newBlock handleSendMsg peers net node hline, happs node hnode, hlast,
      hempty]
    rfl
  have hlength : (peers.filter (· ≠ node)).length = peers.length - 1 := by
    rw [← List.length_erase_of_mem hnode, hnodup.erase_eq_filter]
    congr 1
    exact List.filter_congr fun other _ ↦ by rw [Bool.eq_iff_iff, bne_iff_ne, decide_eq_true_iff]
  obtain ⟨final, hrun, hfinal, hdelivered, hothers⟩ :=
    @run_deliver_block lib peers node block _ chain hlast hvalid (peers.filter (· ≠ node)) next
      (hnodup.filter _) rfl fun other hother ↦ by
        obtain ⟨hmem, hne'⟩ := List.mem_filter.mp hother
        show Function.update net.apps node _ other = _
        rw [Function.update_noteq (of_decide_eq_true hne')]
        exact happs other hmem
  have hschedule : List.replicate (peers.length - 1) (CmdEvent.net (.deliver 0)) =
      (List.replicate (peers.filter (· ≠ node)).length (NetEvent.deliver 0)).map .net := by
    rw [List.map_replicate, hlength]
  refine ⟨final, ?_, hfinal, fun other hother ↦ ?_⟩
  · rw [hschedule]
    simp only [runCmd, cmdStep, hinput, ok_bind, runCmd_map_net, hrun]
  · by_cases hsame : other = node
    · subst hsame
      rw [hothers other (by simp)]
      exact Function.update_same _ _ _
    · exact hdelivered other (List.mem_filter.mpr ⟨hother, decide_eq_true hsame⟩)

theorem created_block_reaches_three_peers :
    let genesisBlock : Block := { data := "genesis!", hash := "genesis!", prevHash := "" }
    let newBlock := fun (latestBlock : Block) (data : String) ↦
      ({ data := data, hash := data, prevHash := latestBlock.hash } : Block)
    let net : Network := ⟨fun _ ↦ ⟨[genesisBlock]⟩, fun _ ↦ true, []⟩
    ["a", "b", "c"].Nodup ∧ commandOf "create b" = .createBlock "create b" ∧
      ∃ final, net.runCmd .hashLinked newBlock (fun _ app ↦ .ok (app, [])) ["a", "b", "c"]
          (.input "a" (some "create b") :: List.replicate 2 (.net (.deliver 0))) = .ok final ∧
        final.inFlight = [] ∧ ∀ other ∈ ["a", "b", "c"],
          final.apps other = ⟨[genesisBlock, newBlock genesisBlock "create b"]⟩ := by
  intro genesisBlock newBlock net
  have hnodup : ["a", "b", "c"].Nodup := by decide
  have hcmd : commandOf "create b" = .createBlock "create b" := commandOf_create_b ""
  exact ⟨hnodup, hcmd, created_block_reaches_every_peer .hashLinked newBlock _
    ["a", "b", "c"] hnodup (List.cons_ne_nil genesisBlock []) (fun _ _ ↦ rfl) rfl
    (by decide) hcmd (beq_self_eq_true _)⟩

end StreamletLog.Ledger

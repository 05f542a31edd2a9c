import StreamletLog.Ledger.Propagation

/-!
# Forks of the blockchain example

`try_add_block` checks a block against the last block of the chain only, and drops it
otherwise: a node keeps no block tree. The only chain exchange of the code is the one `do_init`
starts, once per node. So once every peer has started and those exchanges are over, every event
at a peer either keeps a chain or puts a block on top of it: no node panics and each chain only
grows at its end, whatever the schedule, `validate_block` and `Block::new`. Two peers that
create blocks on the same chain before either copy arrives therefore keep their own block at
that height forever, and their chains never agree again when the two blocks differ.
-/

namespace StreamletLog.Ledger

open App Network

variable (lib : BlockchainLib) (newBlock : Block → String → Block)
  (handleSendMsg : String → App → Except String (App × List FloodsubData)) (peers : List String)

/-! ## No chain exchange after start-up -/

/-- A delivery that takes no part in a chain exchange: a block, or bytes that decode to
nothing. -/
def Delivery.IsBlockTraffic : Delivery → Prop
  | .floodsub _ (.block _) => True
  | .floodsub _ .undecodable => True
  | _ => False

/-- Every peer has started on a non-empty chain, and all that is in flight are blocks for
peers: the exchanges of the start-up are over. -/
structure Settled (net : Network) : Prop where
  started : ∀ node ∈ peers, net.initReceived node = true ∧ (net.apps node).blocks ≠ []
  inFlight : ∀ envelope ∈ net.inFlight,
    envelope.target ∈ peers ∧ envelope.delivery.IsBlockTraffic

/-- An event at the peers that the sources handle: the init message of a peer, a delivery, or
a line at a peer that does not go to `handle_send_msg`. -/
def CmdEvent.AtPeer : CmdEvent → Prop
  | .net (.init node _) => node ∈ peers
  | .net (.deliver _) => True
  | .input node line => (CmdEvent.input node line).Covered peers

/-- Every chain of `net` is a prefix of the same node's chain in `next`. -/
def Extends (net next : Network) : Prop :=
  ∀ node, (net.apps node).blocks <+: (next.apps node).blocks

theorem Extends.refl (net : Network) : Extends net net := fun _ ↦ List.prefix_refl _

theorem Extends.trans {net mid next : Network} (h₁ : Extends net mid) (h₂ : Extends mid next) :
    Extends net next :=
  fun node ↦ (h₁ node).trans (h₂ node)

theorem extends_update {net : Network} {node : String} {app : App}
    (hgrow : (net.apps node).blocks <+: app.blocks) (inFlight : List Envelope) :
    Extends net { net with apps := Function.update net.apps node app, inFlight := inFlight } := by
  intro other
  by_cases hsame : other = node
  · subst hsame
    simpa using hgrow
  · simp [Function.update_noteq hsame]

theorem settled_update {net : Network} {node : String} {app : App} {inFlight : List Envelope}
    (hsettled : Settled peers net) (hgrow : (net.apps node).blocks <+: app.blocks)
    (hinFlight : ∀ envelope ∈ inFlight,
      envelope.target ∈ peers ∧ envelope.delivery.IsBlockTraffic) :
    Settled peers { net with apps := Function.update net.apps node app, inFlight := inFlight } := by
  refine ⟨fun other hother ↦ ⟨(hsettled.started other hother).1, ?_⟩, hinFlight⟩
  have hne := (hsettled.started other hother).2
  by_cases hsame : other = node
  · subst hsame
    simp only [Function.update_same]
    intro hnil
    exact hne (List.prefix_nil.mp (hnil ▸ hgrow))
  · simpa [Function.update_noteq hsame] using hne

/-- Block traffic on a non-empty chain: `try_add_block` puts the block on top or drops it, and
bytes that decode to nothing change nothing. No effect follows. -/
theorem nodeStep_blockTraffic {app : App} (hne : app.blocks ≠ []) (target : String)
    {delivery : Delivery} (htraffic : delivery.IsBlockTraffic) :
    ∃ next, nodeStep lib target app (.deliver delivery) = .ok (next, []) ∧
      app.blocks <+: next.blocks := by
  obtain ⟨chain⟩ := app
  rcases delivery with resp | ⟨source, resp | req | block | _⟩
  · cases htraffic
  · cases htraffic
  · cases htraffic
  · have hlast := List.getLast?_eq_getLast chain hne
    refine ⟨⟨if lib.validateBlock block (chain.getLast hne) then chain ++ [block] else chain⟩,
      by simp [nodeStep, injectEvent, tryAddBlock_of_getLast? lib hlast], ?_⟩
    split <;> simp
  · exact ⟨⟨chain⟩, rfl, List.prefix_refl _⟩

section Step

variable {net : Network} (hsettled : Settled peers net)
include hsettled

theorem deliver_settled (index : Nat) :
    ∃ next, net.step lib peers (.deliver index) = .ok next ∧ Settled peers next ∧
      Extends net next := by
  cases hget : net.inFlight[index]? with
  | none => exact ⟨net, by simp [step, hget], hsettled, .refl net⟩
  | some envelope =>
    obtain ⟨htarget, htraffic⟩ := hsettled.inFlight envelope (List.getElem?_mem hget)
    obtain ⟨app, hnode, hgrow⟩ :=
      nodeStep_blockTraffic lib (hsettled.started _ htarget).2 envelope.target htraffic
    refine ⟨_, by simp only [step, hget]; exact handle_eq_ok lib peers hnode, ?_,
      extends_update hgrow _⟩
    refine settled_update peers hsettled hgrow fun envelope' henv ↦ ?_
    rw [List.flatMap_nil, List.append_nil] at henv
    exact hsettled.inFlight envelope' (List.mem_of_mem_eraseIdx henv)

theorem input_settled {node : String} (hnode : node ∈ peers) {line : String}
    (hline : (commandOf line).isSendMessage = false) :
    ∃ next, net.input newBlock handleSendMsg peers node (some line) = .ok next ∧
      Settled peers next ∧ Extends net next := by
  obtain ⟨app, published, hstep, hgrow, hblocks⟩ :=
    inputStep_grows_at_end newBlock handleSendMsg (hsettled.started node hnode).2 hline
  refine ⟨{ net with
      apps := Function.update net.apps node app
      inFlight := net.inFlight ++ published.flatMap (publish peers node) },
    by simp [input, hstep], settled_update peers hsettled hgrow fun envelope henv ↦ ?_,
    extends_update hgrow _⟩
  rcases List.mem_append.mp henv with hmem | hmem
  · exact hsettled.inFlight envelope hmem
  · obtain ⟨data, hdata, hpublish⟩ := List.mem_flatMap.mp hmem
    obtain ⟨block, rfl⟩ := hblocks data hdata
    obtain ⟨peer, hpeer, rfl⟩ := List.mem_map.mp hpublish
    exact ⟨List.mem_of_mem_filter hpeer, trivial⟩

theorem cmdStep_settled {event : CmdEvent} (hevent : event.AtPeer peers) :
    ∃ next, net.cmdStep lib newBlock handleSendMsg peers event = .ok next ∧
      Settled peers next ∧ Extends net next := by
  cases event with
  | net event =>
    cases event with
    | init node discovered =>
      exact ⟨net, by simp [cmdStep, step, (hsettled.started node hevent).1], hsettled, .refl net⟩
    | deliver index => exact deliver_settled lib peers hsettled index
  | input node line =>
    obtain ⟨hnode, text, rfl, htext⟩ := hevent
    exact input_settled newBlock handleSendMsg peers hsettled hnode htext

end Step

theorem runCmd_settled {net : Network} (hsettled : Settled peers net) (events : List CmdEvent)
    (hevents : ∀ event ∈ events, event.AtPeer peers) :
    ∃ final, net.runCmd lib newBlock handleSendMsg peers events = .ok final ∧
      Settled peers final ∧ Extends net final := by
  induction events generalizing net with
  | nil => exact ⟨net, rfl, hsettled, .refl net⟩
  | cons event rest ih =>
    obtain ⟨next, hstep, hnext, hextends⟩ :=
      cmdStep_settled lib newBlock handleSendMsg peers hsettled (hevents _ (List.mem_cons_self _ _))
    obtain ⟨final, hrun, hfinal, hextends'⟩ :=
      ih hnext fun event hevent ↦ hevents event (List.mem_cons_of_mem _ hevent)
    exact ⟨final, by simp [runCmd, hstep, hrun], hfinal, hextends.trans hextends'⟩

/-- Once every peer has started and the exchanges of the start-up are over, no schedule of
deliveries, init messages and lines the sources handle makes a node panic, and every chain only
grows at its end: each node's chain is a prefix of its chain after. -/
theorem chains_only_grow_at_end_after_startup {net : Network} (hsettled : Settled peers net)
    (events : List CmdEvent) (hevents : ∀ event ∈ events, event.AtPeer peers) :
    ∃ final, net.runCmd lib newBlock handleSendMsg peers events = .ok final ∧
      ∀ node, (net.apps node).blocks <+: (final.apps node).blocks := by
  obtain ⟨final, hrun, -, hextends⟩ :=
    runCmd_settled lib newBlock handleSendMsg peers hsettled events hevents
  exact ⟨final, hrun, hextends⟩

theorem chains_grow_at_end_two_peers :
    let genesisBlock : Block := { data := "genesis!", hash := "genesis!", prevHash := "" }
    let newBlock := fun (latestBlock : Block) (data : String) ↦
      ({ data := data, hash := data, prevHash := latestBlock.hash } : Block)
    let net : Network := ⟨fun _ ↦ ⟨[genesisBlock]⟩, fun _ ↦ true, []⟩
    let events := [CmdEvent.input "a" (some "create b"), .net (.deliver 0), .net (.init "b" [])]
    Settled ["a", "b"] net ∧ (∀ event ∈ events, event.AtPeer ["a", "b"]) ∧
      ∃ final, net.runCmd .hashLinked newBlock (fun _ app ↦ .ok (app, [])) ["a", "b"] events =
          .ok final ∧ ∀ node, (net.apps node).blocks <+: (final.apps node).blocks := by
  intro genesisBlock newBlock net events
  have hsettled : Settled ["a", "b"] net :=
    ⟨fun _ _ ↦ ⟨rfl, List.cons_ne_nil _ _⟩, fun _ h ↦ absurd h (List.not_mem_nil _)⟩
  have hcmd : commandOf "create b" = .createBlock "create b" := commandOf_create_b ""
  have hevents : ∀ event ∈ events, event.AtPeer ["a", "b"] := by
    simp [events, CmdEvent.AtPeer, CmdEvent.Covered, hcmd, Command.isSendMessage]
  exact ⟨hsettled, hevents, chains_only_grow_at_end_after_startup .hashLinked newBlock _
    ["a", "b"] hsettled events hevents⟩

/-! ## Two blocks at once -/

/-- Two peers on the same chain each create a block before a copy of the other's arrives.
Whatever the schedule after that, each peer's chain keeps the common chain with its own block
on top, so the two chains never agree again when the two blocks differ. -/
theorem concurrent_blocks_fork {net : Network} (hsettled : Settled peers net) {a b : String}
    (ha : a ∈ peers) (hb : b ∈ peers) (hne : a ≠ b) {chain : List Block} (hchain : chain ≠ [])
    (happa : net.apps a = ⟨chain⟩) (happb : net.apps b = ⟨chain⟩) {line₁ line₂ cmd₁ cmd₂ : String}
    (hline₁ : commandOf line₁ = .createBlock cmd₁) (hline₂ : commandOf line₂ = .createBlock cmd₂)
    (events : List CmdEvent) (hevents : ∀ event ∈ events, event.AtPeer peers) :
    ∃ final, net.runCmd lib newBlock handleSendMsg peers
        (.input a (some line₁) :: .input b (some line₂) :: events) = .ok final ∧
      chain ++ [newBlock (chain.getLast hchain) cmd₁] <+: (final.apps a).blocks ∧
      chain ++ [newBlock (chain.getLast hchain) cmd₂] <+: (final.apps b).blocks := by
  have hlast := List.getLast?_eq_getLast chain hchain
  obtain ⟨created₁, hcreate₁, hsettled₁, -⟩ :=
    input_settled newBlock handleSendMsg peers hsettled ha (isSendMessage_of_createBlock hline₁)
  have happs₁ : created₁.apps a = ⟨chain ++ [newBlock (chain.getLast hchain) cmd₁]⟩ ∧
      created₁.apps b = ⟨chain⟩ := by
    rw [input_createBlock newBlock handleSendMsg peers net a hline₁, happa, hlast] at hcreate₁
    cases hcreate₁
    exact ⟨by simp, by simp [Function.update_noteq hne.symm, happb]⟩
  obtain ⟨created₂, hcreate₂, hsettled₂, -⟩ :=
    input_settled newBlock handleSendMsg peers hsettled₁ hb (isSendMessage_of_createBlock hline₂)
  have happs₂ : created₂.apps a = ⟨chain ++ [newBlock (chain.getLast hchain) cmd₁]⟩ ∧
      created₂.apps b = ⟨chain ++ [newBlock (chain.getLast hchain) cmd₂]⟩ := by
    rw [input_createBlock newBlock handleSendMsg peers created₁ b hline₂, happs₁.2, hlast]
      at hcreate₂
    cases hcreate₂
    exact ⟨by simp [Function.update_noteq hne, happs₁.1], by simp⟩
  obtain ⟨final, hrun, -, hextends⟩ :=
    runCmd_settled lib newBlock handleSendMsg peers hsettled₂ events hevents
  refine ⟨final, by simp [runCmd, cmdStep, hcreate₁, hcreate₂, hrun], ?_, ?_⟩
  · simpa [happs₂.1] using hextends a
  · simpa [happs₂.2] using hextends b

theorem concurrent_blocks_fork_two_peers :
    let genesisBlock : Block := { data := "genesis!", hash := "genesis!", prevHash := "" }
    let newBlock := fun (latestBlock : Block) (data : String) ↦
      ({ data := data, hash := data, prevHash := latestBlock.hash } : Block)
    let net : Network := ⟨fun _ ↦ ⟨[genesisBlock]⟩, fun _ ↦ true, []⟩
    let events := [CmdEvent.net (.deliver 0), .net (.deliver 0)]
    Settled ["a", "b"] net ∧ commandOf "create b" = .createBlock "create b" ∧
      commandOf "create b 2" = .createBlock "create b 2" ∧
      (∀ event ∈ events, event.AtPeer ["a", "b"]) ∧
      ∃ final, net.runCmd .hashLinked newBlock (fun _ app ↦ .ok (app, [])) ["a", "b"]
          (.input "a" (some "create b") :: .input "b" (some "create b 2") :: events) =
          .ok final ∧
        [genesisBlock, newBlock genesisBlock "create b"] <+: (final.apps "a").blocks ∧
        [genesisBlock, newBlock genesisBlock "create b 2"] <+: (final.apps "b").blocks := by
  intro genesisBlock newBlock net events
  have hsettled : Settled ["a", "b"] net :=
    ⟨fun _ _ ↦ ⟨rfl, List.cons_ne_nil _ _⟩, fun _ h ↦ absurd h (List.not_mem_nil _)⟩
  have hcmd₁ : commandOf "create b" = .createBlock "create b" := commandOf_create_b ""
  have hcmd₂ : commandOf "create b 2" = .createBlock "create b 2" := commandOf_create_b " 2"
  have hevents : ∀ event ∈ events, event.AtPeer ["a", "b"] := by simp [events, CmdEvent.AtPeer]
  exact ⟨hsettled, hcmd₁, hcmd₂, hevents, concurrent_blocks_fork .hashLinked newBlock _
    ["a", "b"] hsettled (by decide) (by decide) (by decide) (List.cons_ne_nil genesisBlock [])
    rfl rfl hcmd₁ hcmd₂ events hevents⟩

end StreamletLog.Ledger

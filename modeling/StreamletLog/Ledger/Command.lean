import StreamletLog.Ledger.Node
import Mathlib.Data.String.Basic

/-!
# The command arm of the blockchain example

`main.rs` reads standard input in the same `select!` as its other events and matches each line
against `ls p`, then the prefixes `ls c`, `create b` and `send m`; any other line is logged as
unknown. `handle_create_block` takes the last block with `expect("there is at least one
block")`, builds `Block::new` on top of it from the whole line, pushes it without a check and
publishes it on `BLOCK_TOPIC`. `Block::new` (of the absent `blockchain.rs`) and
`handle_send_msg` (defined nowhere) are parameters.

A `create b` line panics exactly on the empty chain of a node that has not handled `Init`; on a
non-empty chain it puts the one block it publishes on top.
-/

namespace StreamletLog.Ledger

open App

/-- The arms of `match line.as_str()` in the `Input` arm of the loop. -/
inductive Command
  | printPeers
  | printChain
  | createBlock (cmd : String)
  | sendMessage (cmd : String)
  | unknown

/-- The arm a line of standard input takes, tried in the order of the arms. -/
def commandOf (line : String) : Command :=
  if line = "ls p" then .printPeers
  else if line.startsWith "ls c" then .printChain
  else if line.startsWith "create b" then .createBlock line
  else if line.startsWith "send m" then .sendMessage line
  else .unknown

/-! ## Prefix tests on strings -/

open String in
theorem substrEq_loop_of_prefix (b : List Char) : ∀ (a r : List Char),
    substrEq.loop ⟨a ++ b ++ r⟩ ⟨a ++ b⟩ ⟨utf8Len a⟩ ⟨utf8Len a⟩ ⟨utf8Len a + utf8Len b⟩ =
      true := by
  induction b with
  | nil =>
    intro a r
    rw [substrEq.loop]
    simp
  | cons c b ih =>
    intro a r
    rw [substrEq.loop, dif_pos (by simp [Char.utf8Size_pos])]
    have h₁ : (⟨a ++ c :: b ++ r⟩ : String).get ⟨utf8Len a⟩ = c := by
      rw [List.append_assoc, get_of_valid]
      rfl
    have h₂ : (⟨a ++ c :: b⟩ : String).get ⟨utf8Len a⟩ = c := by
      rw [get_of_valid]
      rfl
    have hpos : (⟨utf8Len a⟩ : Pos) + c = ⟨utf8Len (a ++ [c])⟩ := by simp [Pos.ext_iff]
    have hstop : (⟨utf8Len a + utf8Len (c :: b)⟩ : Pos) = ⟨utf8Len (a ++ [c]) + utf8Len b⟩ := by
      simp only [utf8Len_append, utf8Len_cons, utf8Len_nil]
      congr 1
      omega
    simp only [h₁, h₂, beq_self_eq_true, Bool.true_and, hpos, hstop]
    simpa using ih (a ++ [c]) r

/-- A string starts with each of its prefixes. -/
theorem startsWith_append (p rest : List Char) :
    (⟨p ++ rest⟩ : String).startsWith ⟨p⟩ = true := by
  have h := ((⟨p ++ rest⟩ : String).validFor_toSubstring).take p.length
  simp only [List.take_left, List.drop_left, List.append_nil] at h
  have hp := (⟨p⟩ : String).validFor_toSubstring
  unfold String.startsWith
  show Substring.beq _ _ = true
  simp only [String.length, Substring.beq, h.bsize, hp.bsize, h.str, h.startPos, hp.str,
    hp.startPos, beq_self_eq_true, Bool.true_and, String.substrEq, String.endPos_eq,
    String.utf8Len_append]
  simpa using substrEq_loop_of_prefix p [] rest

/-- A string does not start with a string whose first character differs. -/
theorem startsWith_of_head_ne {c d : Char} (hne : c ≠ d) (cs ds : List Char) :
    (⟨c :: cs⟩ : String).startsWith ⟨d :: ds⟩ = false := by
  have h : Substring.ValidFor [] (c :: cs.take ds.length) (cs.drop ds.length)
      ((⟨c :: cs⟩ : String).toSubstring.take (ds.length + 1)) := by
    simpa using ((⟨c :: cs⟩ : String).validFor_toSubstring).take (ds.length + 1)
  have hp := (⟨d :: ds⟩ : String).validFor_toSubstring
  have h₁ : (⟨c :: cs⟩ : String).get 0 = c := String.get_of_valid [] (c :: cs)
  have h₂ : (⟨d :: ds⟩ : String).get 0 = d := String.get_of_valid [] (d :: ds)
  show Substring.beq ((⟨c :: cs⟩ : String).toSubstring.take (ds.length + 1))
    (⟨d :: ds⟩ : String).toSubstring = false
  simp only [Substring.beq, h.bsize, hp.bsize, h.str, h.startPos, hp.str, hp.startPos,
    String.substrEq]
  rw [String.substrEq.loop, dif_pos (by simp [Char.utf8Size_pos])]
  simp [h₁, h₂, hne]

/-- Every line that begins with `create b` takes the `create b` arm. -/
theorem commandOf_create_b (rest : String) :
    commandOf ("create b" ++ rest) = .createBlock ("create b" ++ rest) := by
  have hline : "create b" ++ rest =
      ⟨'c' :: 'r' :: 'e' :: 'a' :: 't' :: 'e' :: ' ' :: 'b' :: rest.data⟩ := rfl
  have hls : "create b" ++ rest ≠ "ls p" := by
    rw [hline]
    intro h
    have hlen : (rest.data.length + 8 : Nat) = 4 :=
      congrArg (fun line : String ↦ line.data.length) h
    omega
  have hlist : ("create b" ++ rest).startsWith "ls c" = false := by
    rw [hline]
    exact startsWith_of_head_ne (by decide) _ ['s', ' ', 'c']
  have hcreate : ("create b" ++ rest).startsWith "create b" = true := by
    rw [hline]
    exact startsWith_append ['c', 'r', 'e', 'a', 't', 'e', ' ', 'b'] rest.data
  simp only [commandOf, if_neg hls, hlist, hcreate]
  rfl

def Command.isSendMessage : Command → Bool
  | .sendMessage _ => true
  | _ => false

theorem isSendMessage_of_createBlock {line cmd : String}
    (hline : commandOf line = .createBlock cmd) : (commandOf line).isSendMessage = false := by
  rw [hline]
  rfl

variable (newBlock : Block → String → Block)
  (handleSendMsg : String → App → Except String (App × List FloodsubData))

/-- `handle_create_block`: the new block goes onto the chain unchecked. -/
def handleCreateBlock (app : App) (data : String) : Except String (App × Block) :=
  match app.blocks.getLast? with
  | none => .error "there is at least one block"
  | some latestBlock =>
    let block := newBlock latestBlock data
    .ok (⟨app.blocks ++ [block]⟩, block)

/-- The `Input` arm on one line: the node's new state and what it publishes. Printing and an
unknown command change nothing. -/
def inputStep (app : App) (line : String) : Except String (App × List FloodsubData) :=
  match commandOf line with
  | .createBlock cmd => do
    let (next, block) ← handleCreateBlock newBlock app cmd
    .ok (next, [.block block])
  | .sendMessage cmd => handleSendMsg cmd app
  | .printPeers | .printChain | .unknown => .ok (app, [])

/-! ## One command -/

theorem handleCreateBlock_of_getLast? {app : App} {latestBlock : Block}
    (hlast : app.blocks.getLast? = some latestBlock) (data : String) :
    handleCreateBlock newBlock app data =
      .ok (⟨app.blocks ++ [newBlock latestBlock data]⟩, newBlock latestBlock data) := by
  simp [handleCreateBlock, hlast]

/-- A `create b` line puts the block it publishes on the last block, and panics on the empty
chain; the other lines the sources handle change nothing. -/
theorem inputStep_eq {app : App} {line : String} (hline : (commandOf line).isSendMessage = false) :
    inputStep newBlock handleSendMsg app line =
      match commandOf line with
      | .createBlock cmd => match app.blocks.getLast? with
        | some latestBlock =>
          .ok (⟨app.blocks ++ [newBlock latestBlock cmd]⟩, [.block (newBlock latestBlock cmd)])
        | none => .error "there is at least one block"
      | _ => .ok (app, []) := by
  unfold inputStep
  cases hcmd : commandOf line with
  | createBlock cmd =>
    cases hlast : app.blocks.getLast? with
    | none => simp [handleCreateBlock, hlast]
    | some latestBlock => simp [handleCreateBlock_of_getLast? newBlock hlast]
  | sendMessage cmd => simp [hcmd, Command.isSendMessage] at hline
  | _ => rfl

theorem inputStep_grows_at_end {app : App} (hne : app.blocks ≠ []) {line : String}
    (hline : (commandOf line).isSendMessage = false) :
    ∃ next published, inputStep newBlock handleSendMsg app line = .ok (next, published) ∧
      app.blocks <+: next.blocks ∧ ∀ data ∈ published, ∃ block, data = .block block := by
  rw [inputStep_eq newBlock handleSendMsg hline]
  split
  · rw [List.getLast?_eq_getLast app.blocks hne]
    exact ⟨_, _, rfl, List.prefix_append _ _, by simp⟩
  · exact ⟨app, [], rfl, List.prefix_refl _, by simp⟩

end StreamletLog.Ledger

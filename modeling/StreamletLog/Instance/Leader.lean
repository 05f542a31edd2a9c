import StreamletLog.Instance.Basic

/-!
# Startup arguments and leader election

`main` reads an optional host count and name, sets `expected_peer_count = num_hosts - 1` and
builds the instance with id `0`. `get_epoch_leader` hashes the epoch, truncates the hash to
`u32` and reduces it modulo `expected_peer_count as u32`.

The election itself is sound: whenever the truncated peer count is not zero it returns a value
below `expected_peer_count`. Around it the startup is not. One host gives a peer count of zero
and every election divides by zero; zero hosts underflow `num_hosts - 1`; and since every
process is started with id `0`, in each epoch either every node or none is the leader.
-/

namespace StreamletLog.Instance

variable {Keypair PublicKey Signature Block : Type}
variable (prim : Primitives Keypair PublicKey Signature Block)

/-! ## `main` -/

/-- `DEFAULT_NUM_HOSTS`. -/
def defaultNumHosts : Nat := 2

/-- `str::parse::<usize>` on a 64-bit target: an optional `+`, then one or more decimal digits,
of value at most `usize::MAX`. -/
def parseUsize (text : String) : Option Nat :=
  let digits := match text.toList with
    | '+' :: rest => rest
    | chars => chars
  if digits ≠ [] ∧ digits.all Char.isDigit = true then
    let value := digits.foldl (fun value digit ↦ value * 10 + (digit.toNat - '0'.toNat)) 0
    if value < 2 ^ 64 then some value else none
  else none

/-- The `expected_peer_count` block of `main`. A debug build checks the `usize` subtraction. -/
def expectedPeerCountOf : List String → Except String Nat
  | _ :: numHostsArg :: _ =>
    match parseUsize numHostsArg with
    | some numHosts =>
      if numHosts = 0 then .error "attempt to subtract with overflow" else .ok (numHosts - 1)
    | none => .error "(Optional) first argument should be host count."
  | _ => .ok (defaultNumHosts - 1)

/-- The `name` block of `main`. -/
def nameOf : List String → String
  | _ :: _ :: name :: _ => name
  | _ => ""

/-- The instance `main` hands to `run`, given the keypair that `new` draws. -/
def main (args : List String) (keypair : Keypair) :
    Except String (StreamletInstance Keypair PublicKey) := do
  let expectedPeerCount ← expectedPeerCountOf args
  .ok (StreamletInstance.new prim 0 expectedPeerCount (nameOf args) keypair)

theorem main_eq_new {args : List String} {keypair : Keypair}
    {node : StreamletInstance Keypair PublicKey} (h : main prim args keypair = .ok node) :
    node = StreamletInstance.new prim 0 node.expectedPeerCount (nameOf args) keypair := by
  unfold main at h
  cases hcount : expectedPeerCountOf args with
  | error => simp [hcount] at h
  | ok count =>
    simp only [hcount, ok_bind, Except.ok.injEq] at h
    exact h ▸ rfl

theorem expectedPeerCountOf_one (program : String) :
    expectedPeerCountOf [program, "1"] = .ok 0 := rfl

theorem expectedPeerCountOf_two (program : String) :
    expectedPeerCountOf [program, "2"] = .ok 1 := rfl

/-! ## `get_epoch_leader` -/

/-- `get_epoch_leader`, given the `u64` that `DefaultHasher` yields after `write_i64(epoch)`;
std leaves that hash unspecified, so it is a parameter. -/
def StreamletInstance.getEpochLeader (hash : Int → UInt64)
    (self : StreamletInstance Keypair PublicKey) (epoch : Int) : Except String UInt32 :=
  let result := (hash epoch).toUInt32
  let modulus := self.expectedPeerCount.toUInt32
  if modulus = 0 then .error "attempt to calculate the remainder with a divisor of zero"
  else .ok (result % modulus)

theorem toNat_toUInt32 (n : Nat) : n.toUInt32.toNat = n % 2 ^ 32 := rfl

theorem toUInt32_eq_zero_iff (n : Nat) : n.toUInt32 = 0 ↔ n % 2 ^ 32 = 0 :=
  ⟨fun h ↦ by rw [← toNat_toUInt32, h]; rfl,
    fun h ↦ UInt32.toNat.inj (by rw [toNat_toUInt32, h]; rfl)⟩

section Election

variable (hash : Int → UInt64) (self : StreamletInstance Keypair PublicKey) (epoch : Int)

theorem getEpochLeader_of_mod_eq_zero (h : self.expectedPeerCount % 2 ^ 32 = 0) :
    self.getEpochLeader hash epoch =
      .error "attempt to calculate the remainder with a divisor of zero" := by
  simp [StreamletInstance.getEpochLeader, (toUInt32_eq_zero_iff _).mpr h]

/-- Whenever the truncated peer count is not zero, the leader is below `expected_peer_count`. -/
theorem getEpochLeader_lt (h : self.expectedPeerCount % 2 ^ 32 ≠ 0) :
    ∃ leader, self.getEpochLeader hash epoch = .ok leader ∧
      leader.toNat < self.expectedPeerCount := by
  refine ⟨_, if_neg (mt (toUInt32_eq_zero_iff _).mp h), ?_⟩
  rw [UInt32.toNat_mod, toNat_toUInt32]
  exact (Nat.mod_lt _ (Nat.pos_of_ne_zero h)).trans_le (Nat.mod_le _ _)

theorem getEpochLeader_lt_three_peers :
    let node :=
      StreamletInstance.new (Primitives.ideal fun _ : MessagePayload Nat Unit ↦ []) 0 3 "" 0
    node.expectedPeerCount % 2 ^ 32 ≠ 0 ∧
      ∃ leader, node.getEpochLeader (fun _ ↦ 7) 0 = .ok leader ∧
        leader.toNat < node.expectedPeerCount :=
  ⟨by decide, getEpochLeader_lt _ _ _ (by decide)⟩

/-- Whether `self`'s id is its own `get_epoch_leader(epoch)`; an election that panics names no
leader. -/
def leadsEpoch : Bool :=
  match self.getEpochLeader hash epoch with
  | .ok leader => self.id == leader
  | .error _ => false

end Election

theorem leadsEpoch_congr (hash : Int → UInt64) (epoch : Int)
    {node₁ node₂ : StreamletInstance Keypair PublicKey} (hid : node₁.id = node₂.id)
    (hcount : node₁.expectedPeerCount = node₂.expectedPeerCount) :
    leadsEpoch hash node₁ epoch = leadsEpoch hash node₂ epoch := by
  simp [leadsEpoch, StreamletInstance.getEpochLeader, hid, hcount]

/-- Every node `main` starts has id `0`: among nodes that agree on the peer count, either all
lead an epoch or none does. -/
theorem leaders_all_or_none (hash : Int → UInt64) (epoch : Int) (count : Nat)
    (nodes : List (StreamletInstance Keypair PublicKey))
    (hnodes : ∀ node ∈ nodes, (∃ args keypair, main prim args keypair = .ok node) ∧
      node.expectedPeerCount = count) :
    nodes.countP (leadsEpoch hash · epoch) = 0 ∨
      nodes.countP (leadsEpoch hash · epoch) = nodes.length := by
  have hid : ∀ node ∈ nodes, node.id = 0 := fun node hnode ↦ by
    obtain ⟨⟨args, keypair, h⟩, -⟩ := hnodes node hnode
    rw [main_eq_new prim h]
    rfl
  cases nodes with
  | nil => simp
  | cons first rest =>
    have hsame :
        ∀ node ∈ first :: rest, leadsEpoch hash node epoch = leadsEpoch hash first epoch :=
      fun node hnode ↦ leadsEpoch_congr hash epoch
        ((hid node hnode).trans (hid first (List.mem_cons_self _ _)).symm)
        ((hnodes node hnode).2.trans (hnodes first (List.mem_cons_self _ _)).2.symm)
    cases hfirst : leadsEpoch hash first epoch
    · exact .inl (List.countP_eq_zero.mpr fun node hnode ↦ by simp [hsame node hnode, hfirst])
    · exact .inr (List.countP_eq_length.mpr fun node hnode ↦ (hsame node hnode).trans hfirst)

theorem leaders_all_or_none_two_hosts :
    let prim := Primitives.ideal fun _ : MessagePayload Nat Unit ↦ []
    let nodes := [StreamletInstance.new prim 0 1 "" 0, StreamletInstance.new prim 0 1 "" 1]
    (∀ node ∈ nodes, (∃ args keypair, main prim args keypair = .ok node) ∧
      node.expectedPeerCount = 1) ∧
    (nodes.countP (leadsEpoch (fun _ ↦ 0) · 0) = 0 ∨
      nodes.countP (leadsEpoch (fun _ ↦ 0) · 0) = nodes.length) := by
  intro prim nodes
  have hnodes : ∀ node ∈ nodes, (∃ args keypair, main prim args keypair = .ok node) ∧
      node.expectedPeerCount = 1 := by
    simp only [nodes, List.mem_cons, List.mem_singleton, List.not_mem_nil, or_false]
    rintro node (rfl | rfl)
    · exact ⟨⟨[""], 0, rfl⟩, rfl⟩
    · exact ⟨⟨[""], 1, rfl⟩, rfl⟩
  exact ⟨hnodes, leaders_all_or_none prim _ _ 1 nodes hnodes⟩

/-! ## The startup of the code -/

/-- Two hosts: the peer count is `1`, every election returns `0`, and both nodes lead every
epoch. -/
theorem two_hosts_both_lead (hash : Int → UInt64) (keypair₁ keypair₂ : Keypair)
    (epoch : Int) :
    (do
      let node₁ ← main prim ["cs244b_project", "2"] keypair₁
      let node₂ ← main prim ["cs244b_project", "2"] keypair₂
      .ok ([node₁, node₂].countP (leadsEpoch hash · epoch))) = .ok 2 := by
  have hlead : ∀ keypair : Keypair,
      leadsEpoch hash (StreamletInstance.new prim 0 1 "" keypair) epoch = true := fun _ ↦ by
    have hmod : (hash epoch).toUInt32 % 1 = 0 :=
      UInt32.toNat.inj (by rw [UInt32.toNat_mod]; exact Nat.mod_one _)
    simp [leadsEpoch, StreamletInstance.getEpochLeader, hmod]
  simp [main, expectedPeerCountOf_two, nameOf, hlead]

/-- Host counts that `main` accepts and that break the election: zero hosts underflow
`num_hosts - 1`; one host, and `2 ^ 32 + 1` hosts after the `u32` truncation, make every
election divide by zero. -/
theorem startup_breaks_election (hash : Int → UInt64) (keypair : Keypair) (epoch : Int) :
    main prim ["cs244b_project", "0"] keypair = .error "attempt to subtract with overflow" ∧
    (main prim ["cs244b_project", "1"] keypair >>= fun node ↦ node.getEpochLeader hash epoch) =
      .error "attempt to calculate the remainder with a divisor of zero" ∧
    (main prim ["cs244b_project", "4294967297"] keypair >>= fun node ↦
        node.getEpochLeader hash epoch) =
      .error "attempt to calculate the remainder with a divisor of zero" := by
  have hparse : parseUsize "4294967297" = some (2 ^ 32 + 1) := by decide
  have hbig : expectedPeerCountOf ["cs244b_project", "4294967297"] = .ok (2 ^ 32) := by
    simp only [expectedPeerCountOf, hparse]
    rfl
  refine ⟨rfl, ?_, ?_⟩
  · rw [main, expectedPeerCountOf_one, ok_bind, ok_bind]
    exact getEpochLeader_of_mod_eq_zero hash _ epoch (Nat.zero_mod _)
  · rw [main, hbig, ok_bind, ok_bind]
    exact getEpochLeader_of_mod_eq_zero hash _ epoch (Nat.mod_self _)

end StreamletLog.Instance

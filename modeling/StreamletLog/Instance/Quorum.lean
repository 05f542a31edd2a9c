import StreamletLog.Instance.Signatures

/-!
# Notarization and quorum intersection

`is_notarized` compares the count of `verify_message` with `expected_peer_count / 2`, rounded
down. Streamlet's safety argument needs more: a notarized block must carry signatures of
strictly more than half of the `n` validators, so that any two notarized blocks share a
signer. `StrictQuorum` states that requirement over the distinct signing keys. The code accepts
every strict quorum, but its threshold is lower: with `n = 2` one signature reaches
`2 / 2 = 1`, and two messages signed by different validators are both notarized although no
key signed both.
-/

namespace StreamletLog.Instance

variable {Keypair PublicKey Signature Block : Type}
variable (prim : Primitives Keypair PublicKey Signature Block)

open StreamletInstance

/-- `is_notarized`. -/
def StreamletInstance.isNotarized (self : StreamletInstance Keypair PublicKey)
    (message : Message PublicKey Signature Block) : Except String Bool := do
  let count ← self.verifyMessage prim message
  .ok (decide (count ≥ self.expectedPeerCount / 2))

theorem isNotarized_of_signatures (self : StreamletInstance Keypair PublicKey)
    {message : Message PublicKey Signature Block} {signatures : List Signature}
    (h : message.signatures = some signatures) :
    self.isNotarized prim message =
      .ok (decide (self.expectedPeerCount / 2 ≤
        signatures.countP (accepted prim self.publicKeys message))) := by
  simp [isNotarized, verifyMessage_of_signatures prim self h]

/-! ## The quorum of the protocol -/

section Quorum

variable [DecidableEq PublicKey]

/-- Strictly more than half of `n` distinct keys of `keys` signed an entry of `signatures`. -/
def StrictQuorum (keys : List PublicKey) (n : Nat) (message : Message PublicKey Signature Block)
    (signatures : List Signature) : Prop :=
  n < 2 * (signers prim keys message signatures).card

/-- No entry verifies under two distinct known keys. -/
def UniqueSigners (keys : List PublicKey) (message : Message PublicKey Signature Block) : Prop :=
  ∀ signature, ∀ pk₁ ∈ keys, ∀ pk₂ ∈ keys,
    verifySignature prim message signature pk₁ = true →
      verifySignature prim message signature pk₂ = true → pk₁ = pk₂

theorem signers_cons (keys : List PublicKey) (message : Message PublicKey Signature Block)
    (signature : Signature) (rest : List Signature) :
    signers prim keys message (signature :: rest) =
      (keys.filter (verifySignature prim message signature)).toFinset ∪
        signers prim keys message rest := by
  ext pk
  simp [signers, and_or_left]

/-- Under unique signers an entry brings at most one signer, and only if it is accepted, so the
count of `verify_message` is at least the number of distinct signers. -/
theorem signers_card_le_countP {keys : List PublicKey}
    {message : Message PublicKey Signature Block} (hunique : UniqueSigners prim keys message)
    (signatures : List Signature) :
    (signers prim keys message signatures).card ≤
      signatures.countP (accepted prim keys message) := by
  induction signatures with
  | nil => simp [signers]
  | cons signature rest ih =>
    have hone : (keys.filter (verifySignature prim message signature)).toFinset.card ≤
        if accepted prim keys message signature then 1 else 0 := by
      split
      · refine Finset.card_le_one.mpr fun pk₁ h₁ pk₂ h₂ ↦ ?_
        simp only [List.mem_toFinset, List.mem_filter] at h₁ h₂
        exact hunique signature pk₁ h₁.1 pk₂ h₂.1 h₁.2 h₂.2
      · simp_all [accepted, Finset.filter_eq_empty_iff]
    rw [signers_cons, List.countP_cons]
    exact (Finset.card_union_le _ _).trans (by omega)

/-- `is_notarized` accepts every message that a strict majority of the expected peers signed,
when no entry verifies under two known keys. -/
theorem isNotarized_of_strictQuorum (self : StreamletInstance Keypair PublicKey)
    {message : Message PublicKey Signature Block} {signatures : List Signature}
    (h : message.signatures = some signatures)
    (hunique : UniqueSigners prim self.publicKeys message)
    (hquorum : StrictQuorum prim self.publicKeys self.expectedPeerCount message signatures) :
    self.isNotarized prim message = .ok true := by
  have hcount := signers_card_le_countP prim hunique signatures
  unfold StrictQuorum at hquorum
  rw [isNotarized_of_signatures prim self h, decide_eq_true (by omega)]

theorem ideal_uniqueSigners (encode : MessagePayload Nat Block → List UInt8) (keys : List Nat)
    (message : Message Nat (Nat × List UInt8) Block) :
    UniqueSigners (Primitives.ideal encode) keys message := by
  intro signature pk₁ _ pk₂ _ h₁ h₂
  simp only [verifySignature, Primitives.verifies, Primitives.ideal] at h₁ h₂
  split at h₁ <;> split at h₂ <;> simp_all

theorem isNotarized_of_strictQuorum_two_of_three :
    let prim := Primitives.ideal fun _ : MessagePayload Nat Unit ↦ []
    let verifier := ((StreamletInstance.new prim 0 3 "" 0).addPublicKey 1).addPublicKey 2
    let message : Message Nat (Nat × List UInt8) Unit :=
      { payload := .string "block", kind := .vote, nonce := 0,
        signatures := some [(0, []), (2, [])] }
    message.signatures = some [(0, []), (2, [])] ∧
      UniqueSigners prim verifier.publicKeys message ∧
      StrictQuorum prim verifier.publicKeys verifier.expectedPeerCount message
        [(0, []), (2, [])] ∧
      verifier.isNotarized prim message = .ok true := by
  intro prim verifier message
  have hquorum : StrictQuorum prim verifier.publicKeys verifier.expectedPeerCount message
      [(0, []), (2, [])] := by
    unfold StrictQuorum
    decide
  have hunique := ideal_uniqueSigners (fun _ ↦ []) verifier.publicKeys message
  exact ⟨rfl, hunique, hquorum, isNotarized_of_strictQuorum prim verifier rfl hunique hquorum⟩

end Quorum

/-! ## The threshold of the code -/

/-- Two validators, each signing a different message alone, under signatures that verify only
under their signer's key: both messages are notarized, and no known key signed both. -/
theorem isNotarized_disjoint_signers :
    (Primitives.ideal fun _ : MessagePayload Nat Unit ↦ []).SignaturesBind ∧
    let prim := Primitives.ideal fun _ : MessagePayload Nat Unit ↦ []
    let verifier := (StreamletInstance.new prim 0 2 "" 0).addPublicKey 1
    let message₁ : Message Nat (Nat × List UInt8) Unit :=
      { payload := .string "block", kind := .vote, nonce := 0, signatures := some [(0, [])] }
    let message₂ := { message₁ with signatures := some [(1, [])] }
    verifier.publicKeys.toFinset.card ≤ verifier.expectedPeerCount ∧
      verifier.isNotarized prim message₁ = .ok true ∧
      verifier.isNotarized prim message₂ = .ok true ∧
      ¬ ∃ pk ∈ verifier.publicKeys,
        [(0, [])].any (fun signature ↦ verifySignature prim message₁ signature pk) ∧
        [(1, [])].any (fun signature ↦ verifySignature prim message₂ signature pk) :=
  ⟨ideal_signaturesBind _, by decide, rfl, rfl, by decide⟩

end StreamletLog.Instance

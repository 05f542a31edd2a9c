import StreamletLog.Instance.Basic

/-!
# Signing messages and counting their signatures

`sign_message` appends one signature over the serialized payload. `verify_message` runs two
nested loops: over the message's signature entries and, for each entry, over the known public
keys until one of them verifies it (`break`). The count it returns is the number of entries
that some known key accepts. Each entry is credited at most once, however many keys accept
it, but a repeated entry is credited once per occurrence: the count is bounded by the length
of the list, not by the number of distinct signers. It depends on the known keys only through
their set, so keys appended twice by repeated advertisements do not change it.

The assertions of the sources' unit test `test_streamlet_msg_signatures` hold on the model
for every scheme that obeys the integrity law, as long as the third signer's key is new.
-/

namespace StreamletLog.Instance

variable {Keypair PublicKey Signature Block : Type}
variable (prim : Primitives Keypair PublicKey Signature Block)

namespace StreamletInstance

/-- `sign`. -/
def sign (self : StreamletInstance Keypair PublicKey) (bytes : List UInt8) : Signature :=
  prim.sign self.keypair bytes

/-- `sign_message`; a message without a signature container is a programming error. -/
def signMessage (self : StreamletInstance Keypair PublicKey)
    (message : Message PublicKey Signature Block) :
    Except String (Message PublicKey Signature Block) :=
  match message.signatures with
  | some signatures =>
    .ok { message with
      signatures :=
        some (signatures ++ [prim.sign self.keypair (prim.serializePayload message.payload)]) }
  | none => .error "Tried to add signature to message without signature vector!"

/-- `verify_signature`, which reads nothing of the instance. -/
def verifySignature (message : Message PublicKey Signature Block) (signature : Signature)
    (pk : PublicKey) : Bool :=
  prim.verifies pk (prim.serializePayload message.payload) signature

/-- The inner loop of `verify_message`: scan the keys until one verifies `signature`. -/
def scanKeys (message : Message PublicKey Signature Block) (signature : Signature) :
    List PublicKey → Bool
  | [] => false
  | pk :: pks =>
    if verifySignature prim message signature pk then true else scanKeys message signature pks

/-- The outer loop of `verify_message`, with its counter `num_valid_signatures`. -/
def countSignatures (message : Message PublicKey Signature Block) (keys : List PublicKey) :
    Nat → List Signature → Nat
  | numValid, [] => numValid
  | numValid, signature :: rest =>
    countSignatures message keys
      (if scanKeys prim message signature keys then numValid + 1 else numValid) rest

/-- `verify_message`; the `unwrap` of a missing signature container panics. -/
def verifyMessage (self : StreamletInstance Keypair PublicKey)
    (message : Message PublicKey Signature Block) : Except String Nat :=
  match message.signatures with
  | some signatures => .ok (countSignatures prim message self.publicKeys 0 signatures)
  | none => .error "called `Option::unwrap()` on a `None` value"

end StreamletInstance

open StreamletInstance

/-- An entry is accepted when some key of `keys` verifies it. -/
def accepted (keys : List PublicKey) (message : Message PublicKey Signature Block)
    (signature : Signature) : Bool :=
  keys.any (verifySignature prim message signature)

/-- The distinct keys of `keys` under which some entry of `signatures` verifies. -/
def signers [DecidableEq PublicKey] (keys : List PublicKey)
    (message : Message PublicKey Signature Block) (signatures : List Signature) :
    Finset PublicKey :=
  (keys.filter fun pk ↦
    signatures.any fun signature ↦ verifySignature prim message signature pk).toFinset

/-! ## The two loops -/

theorem scanKeys_eq_accepted (message : Message PublicKey Signature Block) (signature : Signature)
    (keys : List PublicKey) :
    scanKeys prim message signature keys = accepted prim keys message signature := by
  induction keys with
  | nil => rfl
  | cons pk pks ih =>
    simp only [scanKeys, ih, accepted, List.any_cons]
    cases verifySignature prim message signature pk <;> rfl

theorem countSignatures_eq (message : Message PublicKey Signature Block) (keys : List PublicKey)
    (numValid : Nat) (signatures : List Signature) :
    countSignatures prim message keys numValid signatures =
      numValid + signatures.countP (accepted prim keys message) := by
  induction signatures generalizing numValid with
  | nil => rfl
  | cons signature rest ih =>
    rw [countSignatures, ih, scanKeys_eq_accepted, List.countP_cons]
    split_ifs <;> omega

theorem signMessage_of_signatures (self : StreamletInstance Keypair PublicKey)
    {message : Message PublicKey Signature Block} {signatures : List Signature}
    (h : message.signatures = some signatures) :
    self.signMessage prim message = .ok { message with
      signatures := some (signatures ++
        [prim.sign self.keypair (prim.serializePayload message.payload)]) } := by
  simp [signMessage, h]

/-- The spec lemma of `verify_message`. -/
theorem verifyMessage_of_signatures (self : StreamletInstance Keypair PublicKey)
    {message : Message PublicKey Signature Block} {signatures : List Signature}
    (h : message.signatures = some signatures) :
    self.verifyMessage prim message =
      .ok (signatures.countP (accepted prim self.publicKeys message)) := by
  simp [verifyMessage, h, countSignatures_eq]

theorem verifyMessage_with_signatures (self : StreamletInstance Keypair PublicKey)
    (message : Message PublicKey Signature Block) (signatures : List Signature) :
    self.verifyMessage prim { message with signatures := some signatures } =
      .ok (signatures.countP (accepted prim self.publicKeys message)) :=
  verifyMessage_of_signatures prim self rfl

theorem accepted_congr {keys₁ keys₂ : List PublicKey}
    (hkeys : ∀ pk, pk ∈ keys₁ ↔ pk ∈ keys₂)
    (message : Message PublicKey Signature Block) :
    accepted prim keys₁ message = accepted prim keys₂ message := by
  funext signature
  rw [Bool.eq_iff_iff]
  simp only [accepted, List.any_eq_true, hkeys]

/-! ## Sequences of `sign_message` -/

/-- Signing in turn from an existing container appends one signature per signer, all over the
same payload bytes. -/
theorem foldlM_signMessage (signers : List (StreamletInstance Keypair PublicKey))
    (message : Message PublicKey Signature Block) (signatures : List Signature)
    (h : message.signatures = some signatures) :
    signers.foldlM (fun m s ↦ s.signMessage prim m) message =
      .ok { message with signatures := some (signatures ++ signers.map fun s ↦
        prim.sign s.keypair (prim.serializePayload message.payload)) } := by
  induction signers generalizing message signatures with
  | nil =>
    cases message
    subst h
    simp only [List.foldlM_nil, List.map_nil, List.append_nil]
    rfl
  | cons signer rest ih =>
    rw [List.foldlM_cons, signMessage_of_signatures prim signer h, ok_bind, ih _ _ rfl]
    simp

theorem accepted_sign_iff (hbind : prim.SignaturesBind) (keys : List PublicKey)
    (message : Message PublicKey Signature Block) (keypair : Keypair) :
    accepted prim keys message (prim.sign keypair (prim.serializePayload message.payload)) =
        true ↔
      prim.public keypair ∈ keys := by
  simp only [accepted, verifySignature, List.any_eq_true]
  exact ⟨fun ⟨pk, hpk, h⟩ ↦ (hbind _ _ _).1 h ▸ hpk,
    fun h ↦ ⟨_, h, (hbind _ _ _).2 rfl⟩⟩

/-! ## The unit test of the sources -/

/-- The assertions of `test_streamlet_msg_signatures` hold for every block and every scheme
that obeys the integrity law, when the third signer's key is not one of the first two. -/
theorem msg_signatures_test_holds (hbind : prim.SignaturesBind) (blk : Block)
    (keypair₁ keypair₂ keypair₃ : Keypair)
    (h₁₃ : prim.public keypair₃ ≠ prim.public keypair₁)
    (h₂₃ : prim.public keypair₃ ≠ prim.public keypair₂) :
    let streamlet₁ := StreamletInstance.new prim 0 3 "Test1" keypair₁
    let streamlet₂ := StreamletInstance.new prim 1 3 "Test2" keypair₂
    let streamlet₃ := StreamletInstance.new prim 3 3 "Test3" keypair₃
    let message : Message PublicKey Signature Block :=
      { payload := .block blk, kind := .vote, nonce := 0, signatures := some [] }
    ∃ message₁ message₂ message₃,
      streamlet₁.signMessage prim message = .ok message₁ ∧
      message₁.signatures.map List.length = some 1 ∧
      streamlet₂.signMessage prim message₁ = .ok message₂ ∧
      message₂.signatures.map List.length = some 2 ∧
      streamlet₃.signMessage prim message₂ = .ok message₃ ∧
      message₃.signatures.map List.length = some 3 ∧
      (streamlet₁.addPublicKey (prim.public keypair₂)).verifyMessage prim message₃ = .ok 2 ∧
      ((streamlet₁.addPublicKey (prim.public keypair₂)).addPublicKey
        (prim.public keypair₃)).publicKeys.length = 3 ∧
      ((streamlet₁.addPublicKey (prim.public keypair₂)).addPublicKey
        (prim.public keypair₃)).verifyMessage prim message₃ = .ok 3 := by
  intro streamlet₁ streamlet₂ streamlet₃ message
  refine ⟨_, _, _, signMessage_of_signatures prim _ rfl, rfl,
    signMessage_of_signatures prim _ rfl, rfl, signMessage_of_signatures prim _ rfl, rfl, ?_, rfl,
    ?_⟩ <;>
  · rw [verifyMessage_of_signatures prim _ rfl]
    simp [streamlet₁, streamlet₂, streamlet₃, accepted_sign_iff prim hbind, h₁₃, h₂₃]

theorem msg_signatures_test_ideal :
    let prim := Primitives.ideal fun _ : MessagePayload Nat Unit ↦ []
    prim.SignaturesBind ∧ prim.public 2 ≠ prim.public 0 ∧ prim.public 2 ≠ prim.public 1 ∧
    let streamlet₁ := StreamletInstance.new prim 0 3 "Test1" 0
    let streamlet₂ := StreamletInstance.new prim 1 3 "Test2" 1
    let streamlet₃ := StreamletInstance.new prim 3 3 "Test3" 2
    let message : Message Nat (Nat × List UInt8) Unit :=
      { payload := .block (), kind := .vote, nonce := 0, signatures := some [] }
    ∃ message₁ message₂ message₃,
      streamlet₁.signMessage prim message = .ok message₁ ∧
      message₁.signatures.map List.length = some 1 ∧
      streamlet₂.signMessage prim message₁ = .ok message₂ ∧
      message₂.signatures.map List.length = some 2 ∧
      streamlet₃.signMessage prim message₂ = .ok message₃ ∧
      message₃.signatures.map List.length = some 3 ∧
      (streamlet₁.addPublicKey (prim.public 1)).verifyMessage prim message₃ = .ok 2 ∧
      ((streamlet₁.addPublicKey (prim.public 1)).addPublicKey (prim.public 2)).publicKeys.length =
        3 ∧
      ((streamlet₁.addPublicKey (prim.public 1)).addPublicKey
        (prim.public 2)).verifyMessage prim message₃ = .ok 3 :=
  ⟨ideal_signaturesBind _, by decide, by decide,
    msg_signatures_test_holds _ (ideal_signaturesBind _) () 0 1 2 (by decide) (by decide)⟩

/-! ## What `verify_message` counts -/

/-- Under a repeated signature the count exceeds the number of distinct signers. -/
theorem verifyMessage_repeated_signature_counted_twice :
    let prim := Primitives.ideal fun _ : MessagePayload Nat Unit ↦ []
    let message : Message Nat (Nat × List UInt8) Unit :=
      { payload := .string "", kind := .vote, nonce := 0, signatures := some [(0, []), (0, [])] }
    let verifier := StreamletInstance.new prim 0 1 "" 0
    verifier.verifyMessage prim message = .ok 2 ∧
      (signers prim verifier.publicKeys message [(0, []), (0, [])]).card = 1 :=
  ⟨rfl, by decide⟩

/-- `verify_message` counts the accepted entries, and after signing in turn by any instances
it counts the signers whose key the verifier knows. -/
theorem verifyMessage_counts_accepted_entries [DecidableEq PublicKey]
    (message : Message PublicKey Signature Block) :
    (∀ (self : StreamletInstance Keypair PublicKey) signatures,
      message.signatures = some signatures →
      ∃ count, self.verifyMessage prim message = .ok count ∧
        count = signatures.countP (accepted prim self.publicKeys message) ∧
        count ≤ signatures.length) ∧
    (prim.SignaturesBind → message.signatures = some [] →
      ∀ (verifier : StreamletInstance Keypair PublicKey)
        (signers : List (StreamletInstance Keypair PublicKey)),
        (signers.foldlM (fun m s ↦ s.signMessage prim m) message >>=
            verifier.verifyMessage prim) =
          .ok (signers.countP fun s ↦
            decide (prim.public s.keypair ∈ verifier.publicKeys))) := by
  refine ⟨fun self signatures h ↦ ⟨_, verifyMessage_of_signatures prim self h, rfl,
    List.countP_le_length _⟩, fun hbind h verifier signers ↦ ?_⟩
  rw [foldlM_signMessage prim signers message [] h, ok_bind, verifyMessage_with_signatures]
  simp only [List.nil_append, List.countP_map]
  congr 1
  exact List.countP_congr fun s _ ↦ by simp [Function.comp, accepted_sign_iff prim hbind]

theorem verifyMessage_counts_three_signers :
    let prim := Primitives.ideal fun _ : MessagePayload Nat Unit ↦ []
    let message : Message Nat (Nat × List UInt8) Unit :=
      { payload := .string "", kind := .vote, nonce := 0, signatures := some [] }
    let verifier := (StreamletInstance.new prim 0 3 "" 0).addPublicKey 1
    let signers := [StreamletInstance.new prim 0 3 "" 0, StreamletInstance.new prim 1 3 "" 1,
      StreamletInstance.new prim 3 3 "" 2]
    prim.SignaturesBind ∧ message.signatures = some [] ∧
      (signers.foldlM (fun m s ↦ s.signMessage prim m) message >>= verifier.verifyMessage prim) =
        .ok (signers.countP fun s ↦ decide (prim.public s.keypair ∈ verifier.publicKeys)) :=
  ⟨ideal_signaturesBind _, rfl,
    (verifyMessage_counts_accepted_entries _ _).2 (ideal_signaturesBind _) rfl _ _⟩

/-- The count depends on the known keys through their set only, and never exceeds the number
of signature entries. -/
theorem verifyMessage_depends_on_key_set (self₁ self₂ : StreamletInstance Keypair PublicKey)
    (message : Message PublicKey Signature Block)
    (hkeys : ∀ pk, pk ∈ self₁.publicKeys ↔ pk ∈ self₂.publicKeys) :
    self₁.verifyMessage prim message = self₂.verifyMessage prim message ∧
      ∀ signatures, message.signatures = some signatures →
        ∃ count, self₁.verifyMessage prim message = .ok count ∧
          count ≤ signatures.length := by
  refine ⟨?_, fun signatures h ↦
    ⟨_, verifyMessage_of_signatures prim self₁ h, List.countP_le_length _⟩⟩
  cases h : message.signatures with
  | none => simp [verifyMessage, h]
  | some signatures =>
    rw [verifyMessage_of_signatures prim self₁ h, verifyMessage_of_signatures prim self₂ h,
      accepted_congr prim hkeys]

theorem verifyMessage_duplicate_advertisements :
    let prim := Primitives.ideal fun _ : MessagePayload Nat Unit ↦ []
    let message : Message Nat (Nat × List UInt8) Unit :=
      { payload := .string "", kind := .vote, nonce := 0, signatures := some [(1, []), (2, [])] }
    let self₁ := ((StreamletInstance.new prim 0 3 "" 0).addPublicKey 1).addPublicKey 1
    let self₂ := (StreamletInstance.new prim 1 3 "" 1).addPublicKey 0
    (∀ pk, pk ∈ self₁.publicKeys ↔ pk ∈ self₂.publicKeys) ∧
      self₁.verifyMessage prim message = self₂.verifyMessage prim message ∧
      ∀ signatures, message.signatures = some signatures →
        ∃ count, self₁.verifyMessage prim message = .ok count ∧ count ≤ signatures.length :=
  have hkeys : ∀ pk, pk ∈ [0, 1, 1] ↔ pk ∈ [1, 0] := by
    intro pk
    simp only [List.mem_cons, List.mem_singleton, List.not_mem_nil, or_false]
    omega
  ⟨hkeys, verifyMessage_depends_on_key_set _ _ _ _ hkeys⟩

end StreamletLog.Instance

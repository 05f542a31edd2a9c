import StreamletLog.Except
import Mathlib.Data.Finset.Card

/-!
# The Streamlet instance: messages, keys and the instance record

`lib.rs` of the consensus node keeps one `StreamletInstance` per process: its id, the number
of peers it expects, its ed25519 keypair and the public keys it has learned so far. A
`Message` carries a payload, a kind, a nonce and an optional container of signatures.

The cryptography of `utils::crypto` and the encoding of `messages` are not among the sources;
`Primitives` takes what `lib.rs` calls of them as parameters. The blockchain manager that the
instance also owns is read by no function modelled here and is left out.
-/

namespace StreamletLog.Instance

/-- `MessageKind`, with the kinds the sources build: `Test` in `run`, `Vote` in the unit
test. -/
inductive MessageKind
  | test
  | vote
  deriving DecidableEq, Repr

/-- The part of a peer advertisement that the event loop reads. -/
structure PeerAdvertisement (PublicKey : Type) where
  publicKey : PublicKey
  deriving DecidableEq, Repr

/-- `MessagePayload`, with the variants the sources build or match on. -/
inductive MessagePayload (PublicKey Block : Type)
  | block (blk : Block)
  | string (text : String)
  | peerAdvertisement (ad : PeerAdvertisement PublicKey)
  deriving DecidableEq, Repr

structure Message (PublicKey Signature Block : Type) where
  payload : MessagePayload PublicKey Block
  kind : MessageKind
  nonce : UInt32
  signatures : Option (List Signature)
  deriving DecidableEq, Repr

/-- What `lib.rs` calls of the modules that are not among the sources. The payload encoding
reads the payload alone: signatures never cover the kind, the nonce or other signatures. -/
structure Primitives (Keypair PublicKey Signature Block : Type) where
  /-- `keypair.public`. -/
  public : Keypair → PublicKey
  /-- `keypair.sign(bytes)`. -/
  sign : Keypair → List UInt8 → Signature
  /-- `pk.verify(bytes, signature)`: `Ok(())`, or the library's error. -/
  verify : PublicKey → List UInt8 → Signature → Except String Unit
  /-- `Message::serialize_payload`. -/
  serializePayload : MessagePayload PublicKey Block → List UInt8

/-- `StreamletInstance`, without the blockchain manager. -/
structure StreamletInstance (Keypair PublicKey : Type) where
  id : UInt32
  name : String
  isLeader : Bool
  expectedPeerCount : Nat
  keypair : Keypair
  publicKeys : List PublicKey

variable {Keypair PublicKey Signature Block : Type}

namespace Primitives

variable (prim : Primitives Keypair PublicKey Signature Block)

/-- The `if let Err(..)` of `verify_signature`: an error is a plain `false`. -/
def verifies (pk : PublicKey) (bytes : List UInt8) (signature : Signature) : Bool :=
  match prim.verify pk bytes signature with
  | .ok _ => true
  | .error _ => false

/-- The signature-integrity law of the spec: a signature made with a keypair verifies under a
public key exactly when that key is the keypair's own. -/
def SignaturesBind : Prop :=
  ∀ keypair pk bytes, prim.verifies pk bytes (prim.sign keypair bytes) = true ↔
    pk = prim.public keypair

end Primitives

/-- An idealised scheme over `Nat` keys: a keypair is its own public key, and a signature is
the signer's key paired with the bytes it covers. -/
def Primitives.ideal (encode : MessagePayload Nat Block → List UInt8) :
    Primitives Nat Nat (Nat × List UInt8) Block where
  public keypair := keypair
  sign keypair bytes := (keypair, bytes)
  verify pk bytes signature := if signature = (pk, bytes) then .ok () else .error "signature error"
  serializePayload := encode

theorem ideal_signaturesBind (encode : MessagePayload Nat Block → List UInt8) :
    (Primitives.ideal encode).SignaturesBind := by
  intro keypair pk bytes
  by_cases h : pk = keypair <;>
    simp [Primitives.ideal, Primitives.verifies, h, Ne.symm]

namespace StreamletInstance

variable (prim : Primitives Keypair PublicKey Signature Block)

/-- `StreamletInstance::new`, given the keypair that `Keypair::generate` draws. -/
def new (id : UInt32) (expectedPeerCount : Nat) (name : String) (keypair : Keypair) :
    StreamletInstance Keypair PublicKey where
  id := id
  name := name
  isLeader := false
  expectedPeerCount := expectedPeerCount
  keypair := keypair
  publicKeys := [prim.public keypair]

/-- `add_public_key`: an append, with no check that the key is new. -/
def addPublicKey (self : StreamletInstance Keypair PublicKey) (pk : PublicKey) :
    StreamletInstance Keypair PublicKey :=
  { self with publicKeys := self.publicKeys ++ [pk] }

section Simp

variable (id : UInt32) (count : Nat) (name : String) (keypair : Keypair)
  (self : StreamletInstance Keypair PublicKey) (pk : PublicKey)

@[simp]
theorem new_id : (new prim id count name keypair).id = id := rfl

@[simp]
theorem new_expectedPeerCount :
    (new prim id count name keypair).expectedPeerCount = count := rfl

@[simp]
theorem new_keypair : (new prim id count name keypair).keypair = keypair := rfl

@[simp]
theorem new_publicKeys :
    (new prim id count name keypair).publicKeys = [prim.public keypair] := rfl

@[simp]
theorem addPublicKey_id : (self.addPublicKey pk).id = self.id := rfl

@[simp]
theorem addPublicKey_expectedPeerCount :
    (self.addPublicKey pk).expectedPeerCount = self.expectedPeerCount := rfl

@[simp]
theorem addPublicKey_keypair : (self.addPublicKey pk).keypair = self.keypair := rfl

@[simp]
theorem addPublicKey_publicKeys :
    (self.addPublicKey pk).publicKeys = self.publicKeys ++ [pk] := rfl

end Simp

end StreamletInstance

end StreamletLog.Instance

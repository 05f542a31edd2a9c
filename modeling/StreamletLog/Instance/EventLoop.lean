import StreamletLog.Instance.Leader
import StreamletLog.Instance.Signatures

/-!
# The event loop of `run`

`run` waits on a `select!` over standard input, the network channel, the one-shot init timer
and the transport's own events, then handles at most one event per turn. Its only change to the
instance is in the network branch: a decoded message whose payload is a peer advertisement has
its key appended by `add_public_key`, with no check of a signature, of a key already known, or
of the number of keys. So after any run `public_keys` is the node's own key followed by the
advertised keys in arrival order, and no bound in terms of `expected_peer_count` holds.

The loop panics exactly when standard input ends or fails, or when a line it broadcasts meets a
failed gossipsub `publish`; it calls `start_init` once however often the init arm fires. The
calls into `peer_init` are recorded as effects: that module is not among the sources.
-/

namespace StreamletLog.Instance

variable {Keypair PublicKey Signature Block : Type}
variable (prim : Primitives Keypair PublicKey Signature Block)

/-- What `stdin.next_line()` yields: a line, `Ok(None)` at the end of input, or an I/O error
(a line that is not UTF-8, say), given by the text its `Debug` prints. -/
inductive NextLine
  | line (text : String)
  | endOfInput
  | ioError (error : String)

/-- `EventType`. `UserInput` also carries what the environment decides while its arm runs: the
`u32` that `rand::thread_rng` draws for the nonce, and the error of gossipsub's `publish`, if
the broadcast fails. -/
inductive EventType (PublicKey Signature Block : Type)
  | userInput (line : String) (nonce : UInt32) (publishError : Option String)
  | networkInput (message : Message PublicKey Signature Block)
  | doInit

/-- The arm of the `select!` that fires. A network message arrives as `Message::deserialize`
decodes it; that decoder is not among the sources. -/
inductive Selected (PublicKey Signature Block : Type)
  | stdinLine (read : NextLine) (nonce : UInt32) (publishError : Option String)
  | networkResponse (message : Message PublicKey Signature Block)
  | initReceived
  | unhandledEvent

/-- The calls the handlers make into peer discovery and the network stack. -/
inductive Effect (PublicKey Signature Block : Type)
  | sendEndInit
  | broadcastMessage (message : Message PublicKey Signature Block)
  | recvAdvertisement (ad : PeerAdvertisement PublicKey)
  | startInit (expectedPeerCount : Nat)

structure RunState (Keypair PublicKey : Type) where
  streamlet : StreamletInstance Keypair PublicKey
  needsInit : Bool

/-- The test of the `UserInput` arm for the commands that end peer discovery. -/
def isEndDiscovery (line : String) : Bool :=
  line.startsWith "end discovery" || line.startsWith "e d"

/-- `NetworkStack::broadcast_message`, given the outcome of gossipsub's `publish`. -/
def broadcastMessage (publishError : Option String) : Except String Unit :=
  match publishError with
  | none => .ok ()
  | some error => .error ("Failed to send message over GossipSub protocol: " ++ error)

/-- The `match event` of `run`. -/
def StreamletInstance.handleEvent (self : StreamletInstance Keypair PublicKey) :
    EventType PublicKey Signature Block →
      Except String (StreamletInstance Keypair PublicKey × List (Effect PublicKey Signature Block))
  | .userInput line nonce publishError =>
    if isEndDiscovery line then .ok (self, [.sendEndInit])
    else do
      broadcastMessage publishError
      .ok (self, [.broadcastMessage
        { payload := .string line, kind := .test, nonce := nonce, signatures := none }])
  | .networkInput message =>
    match message.payload with
    | .peerAdvertisement ad => .ok (self.addPublicKey ad.publicKey, [.recvAdvertisement ad])
    | _ => .ok (self, [])
  | .doInit => .ok (self, [.startInit self.expectedPeerCount])

namespace RunState

def handle (st : RunState Keypair PublicKey) (event : EventType PublicKey Signature Block) :
    Except String (RunState Keypair PublicKey × List (Effect PublicKey Signature Block)) := do
  let (streamlet, effects) ← st.streamlet.handleEvent event
  .ok ({ st with streamlet := streamlet }, effects)

/-- The `select!` of one turn and the `evt` it yields. Standard input fails its two `expect`s
on an I/O error and at its end; the init channel is closed after its first message, and
`needs_init` lets only the first through. -/
def select (st : RunState Keypair PublicKey) :
    Selected PublicKey Signature Block →
      Except String (RunState Keypair PublicKey × Option (EventType PublicKey Signature Block))
  | .stdinLine (.line text) nonce publishError =>
    .ok (st, some (.userInput text nonce publishError))
  | .stdinLine .endOfInput _ _ => .error "Can't read from stdin"
  | .stdinLine (.ioError error) _ _ => .error ("Can't get line: " ++ error)
  | .networkResponse message => .ok (st, some (.networkInput message))
  | .initReceived =>
    if st.needsInit then .ok ({ st with needsInit := false }, some .doInit) else .ok (st, none)
  | .unhandledEvent => .ok (st, none)

/-- One turn of the loop: the `select!`, then `if let Some(event) = evt`. -/
def step (st : RunState Keypair PublicKey) (selected : Selected PublicKey Signature Block) :
    Except String (RunState Keypair PublicKey × List (Effect PublicKey Signature Block)) := do
  let (next, evt) ← st.select selected
  match evt with
  | some event => next.handle event
  | none => .ok (next, [])

/-- The loop over a sequence of turns, collecting the effects. -/
def run (st : RunState Keypair PublicKey) :
    List (Selected PublicKey Signature Block) →
      Except String (RunState Keypair PublicKey × List (Effect PublicKey Signature Block))
  | [] => .ok (st, [])
  | selected :: rest => do
    let (next, effects) ← st.step selected
    let (final, later) ← next.run rest
    .ok (final, effects ++ later)

end RunState

/-- The state `run` starts from, with the instance that `main` builds. -/
def start (args : List String) (keypair : Keypair) :
    Except String (RunState Keypair PublicKey) := do
  let streamlet ← main prim args keypair
  .ok { streamlet := streamlet, needsInit := true }

def EventType.advertisedKey : EventType PublicKey Signature Block → Option PublicKey
  | .networkInput { payload := .peerAdvertisement ad, .. } => some ad.publicKey
  | _ => none

/-- The key a selected arm delivers in a peer advertisement, if any. -/
def Selected.advertisedKey : Selected PublicKey Signature Block → Option PublicKey
  | .networkResponse { payload := .peerAdvertisement ad, .. } => some ad.publicKey
  | _ => none

def advertisedKeys (selected : List (Selected PublicKey Signature Block)) : List PublicKey :=
  selected.filterMap Selected.advertisedKey

/-- The texts of the loop's panics, `Debug` output of the error included. -/
def IsPanicText (text : String) : Prop :=
  text = "Can't read from stdin" ∨ (∃ error, text = "Can't get line: " ++ error) ∨
    ∃ error, text = "Failed to send message over GossipSub protocol: " ++ error

def Selected.isInitReceived : Selected PublicKey Signature Block → Bool
  | .initReceived => true
  | _ => false

def EventType.isDoInit : EventType PublicKey Signature Block → Bool
  | .doInit => true
  | _ => false

def Effect.isStartInit : Effect PublicKey Signature Block → Bool
  | .startInit _ => true
  | _ => false

/-! ## One event -/

/-- What handling an event does when it does not panic: the instance changes only by the key
an advertisement brings, and `start_init` is called on `DoInit` alone. -/
theorem handleEvent_eq_ok {self streamlet : StreamletInstance Keypair PublicKey}
    {event : EventType PublicKey Signature Block}
    {effects : List (Effect PublicKey Signature Block)}
    (h : self.handleEvent event = .ok (streamlet, effects)) :
    streamlet = { self with publicKeys := self.publicKeys ++ event.advertisedKey.toList } ∧
      effects.countP Effect.isStartInit = if event.isDoInit then 1 else 0 := by
  rcases event with ⟨line, nonce, publishError⟩ | ⟨blk | text | ad, kind, nonce, signatures⟩ | _
  · simp only [StreamletInstance.handleEvent] at h
    split at h
    · cases h
      simp [EventType.advertisedKey, EventType.isDoInit, Effect.isStartInit]
    · obtain ⟨_, -, h⟩ := bind_eq_ok.mp h
      cases h
      simp [EventType.advertisedKey, EventType.isDoInit, Effect.isStartInit]
  all_goals
    cases h
    simp [EventType.advertisedKey, StreamletInstance.addPublicKey]
    rfl

namespace RunState

variable {st next : RunState Keypair PublicKey} {selected : Selected PublicKey Signature Block}

theorem handle_eq_ok {event : EventType PublicKey Signature Block}
    {effects : List (Effect PublicKey Signature Block)}
    (h : st.handle event = .ok (next, effects)) :
    next.needsInit = st.needsInit ∧
      next.streamlet =
        { st.streamlet with publicKeys := st.streamlet.publicKeys ++ event.advertisedKey.toList } ∧
      effects.countP Effect.isStartInit = if event.isDoInit then 1 else 0 := by
  obtain ⟨⟨streamlet, effects'⟩, hevent, hnext⟩ := bind_eq_ok.mp h
  cases Except.ok.inj hnext
  exact ⟨rfl, handleEvent_eq_ok hevent⟩

/-- What the `select!` of a turn does: it keeps the instance, clears `needs_init` on the init
arm, passes a network message's advertised key on, and yields `DoInit` on the first init only. -/
theorem select_eq_ok {evt : Option (EventType PublicKey Signature Block)}
    (h : st.select selected = .ok (next, evt)) :
    next.streamlet = st.streamlet ∧
      next.needsInit = (st.needsInit && !selected.isInitReceived) ∧
      evt.bind EventType.advertisedKey = selected.advertisedKey ∧
      evt.any EventType.isDoInit = (st.needsInit && selected.isInitReceived) := by
  rcases selected with
    ⟨_ | _ | _, nonce, publishError⟩ | ⟨blk | text | ad, kind, nonce, signatures⟩ | _ | _
  case stdinLine.endOfInput => cases h
  case stdinLine.ioError => cases h
  case initReceived =>
    simp only [select] at h
    split at h <;> cases Except.ok.inj h <;>
      simp_all [Selected.isInitReceived, Selected.advertisedKey, EventType.advertisedKey,
        EventType.isDoInit]
  all_goals
    cases Except.ok.inj h
    simp [Selected.isInitReceived, Selected.advertisedKey, EventType.advertisedKey,
      EventType.isDoInit]

/-- A turn either hands the event its `select!` yields to the instance, or does nothing. -/
theorem step_eq_ok {effects : List (Effect PublicKey Signature Block)}
    (h : st.step selected = .ok (next, effects)) :
    (∃ mid event, st.select selected = .ok (mid, some event) ∧
      mid.handle event = .ok (next, effects)) ∨
      (st.select selected = .ok (next, none) ∧ effects = []) := by
  obtain ⟨⟨mid, evt⟩, hsel, hhandle⟩ := bind_eq_ok.mp h
  cases evt with
  | some event => exact .inl ⟨mid, event, hsel, hhandle⟩
  | none =>
    cases Except.ok.inj hhandle
    exact .inr ⟨hsel, rfl⟩

theorem step_of_select_some {event : EventType PublicKey Signature Block}
    (h : st.select selected = .ok (next, some event)) : st.step selected = next.handle event := by
  simp only [step, h, ok_bind]

/-- The texts a turn panics with: the two `expect`s on standard input and the `panic!` of
`broadcast_message`. -/
theorem step_eq_error {text : String} (h : st.step selected = .error text) :
    IsPanicText text := by
  rcases selected with ⟨_ | _ | error, nonce, publishError⟩ | message | _ | _
  case stdinLine.line line =>
    have hstep : st.step (.stdinLine (.line line) nonce publishError :
        Selected PublicKey Signature Block) = st.handle (.userInput line nonce publishError) :=
      step_of_select_some rfl
    rw [hstep] at h
    simp only [handle, StreamletInstance.handleEvent] at h
    split at h
    · cases h
    · cases publishError <;> cases h
      exact .inr (.inr ⟨_, rfl⟩)
  case stdinLine.endOfInput => exact .inl (Except.error.inj h).symm
  case stdinLine.ioError => exact .inr (.inl ⟨error, (Except.error.inj h).symm⟩)
  case networkResponse =>
    have hstep : st.step (.networkResponse message) = st.handle (.networkInput message) :=
      step_of_select_some rfl
    rw [hstep] at h
    rcases message with ⟨blk | line | ad, kind, nonce, signatures⟩ <;> cases h
  case initReceived =>
    simp only [step, select] at h
    split at h <;> cases h
  case unhandledEvent => cases h

section Step

variable {effects : List (Effect PublicKey Signature Block)}
  (h : st.step selected = .ok (next, effects))
include h

/-- One turn changes the instance only by the key it is advertised, if any. -/
theorem step_streamlet :
    next.streamlet =
      { st.streamlet with
        publicKeys := st.streamlet.publicKeys ++ selected.advertisedKey.toList } := by
  rcases step_eq_ok h with ⟨mid, event, hsel, hhandle⟩ | ⟨hsel, -⟩
  · obtain ⟨hmid, -, hkey, -⟩ := select_eq_ok hsel
    rw [(handle_eq_ok hhandle).2.1, hmid, ← hkey, Option.some_bind]
  · obtain ⟨hmid, -, hkey, -⟩ := select_eq_ok hsel
    rw [hmid, ← hkey]
    simp

theorem step_needsInit : next.needsInit = (st.needsInit && !selected.isInitReceived) := by
  rcases step_eq_ok h with ⟨mid, event, hsel, hhandle⟩ | ⟨hsel, -⟩
  · rw [(handle_eq_ok hhandle).1, (select_eq_ok hsel).2.1]
  · exact (select_eq_ok hsel).2.1

/-- One turn calls `start_init` exactly when it is the first init. -/
theorem step_startInit :
    effects.countP Effect.isStartInit =
      if st.needsInit && selected.isInitReceived then 1 else 0 := by
  rcases step_eq_ok h with ⟨mid, event, hsel, hhandle⟩ | ⟨hsel, rfl⟩
  · rw [(handle_eq_ok hhandle).2.2, ← (select_eq_ok hsel).2.2.2]
    rfl
  · rw [← (select_eq_ok hsel).2.2.2]
    rfl

end Step

/-! ## A whole run -/

theorem run_cons_eq_ok {first : Selected PublicKey Signature Block}
    {rest : List (Selected PublicKey Signature Block)} {final : RunState Keypair PublicKey}
    {effects : List (Effect PublicKey Signature Block)}
    (h : st.run (first :: rest) = .ok (final, effects)) :
    ∃ next now later, st.step first = .ok (next, now) ∧ next.run rest = .ok (final, later) ∧
      effects = now ++ later := by
  obtain ⟨⟨next, now⟩, hstep, hrest⟩ := bind_eq_ok.mp h
  obtain ⟨⟨final', later⟩, hrun, hdone⟩ := bind_eq_ok.mp hrest
  cases Except.ok.inj hdone
  exact ⟨next, now, later, hstep, hrun, rfl⟩

end RunState

open RunState

theorem advertisedKeys_cons (selected : Selected PublicKey Signature Block)
    (rest : List (Selected PublicKey Signature Block)) :
    advertisedKeys (selected :: rest) = selected.advertisedKey.toList ++ advertisedKeys rest := by
  cases h : selected.advertisedKey <;> simp [advertisedKeys, List.filterMap_cons, h]

section Run

variable {st final : RunState Keypair PublicKey}
  {selected : List (Selected PublicKey Signature Block)}
  {effects : List (Effect PublicKey Signature Block)}

/-- A whole run changes the instance only by appending the advertised keys, in order. -/
theorem run_streamlet (h : st.run selected = .ok (final, effects)) :
    final.streamlet =
      { st.streamlet with publicKeys := st.streamlet.publicKeys ++ advertisedKeys selected } := by
  induction selected generalizing st effects with
  | nil =>
    cases Except.ok.inj h
    simp [advertisedKeys]
  | cons first rest ih =>
    obtain ⟨next, now, later, hstep, hrun, -⟩ := run_cons_eq_ok h
    rw [ih hrun, step_streamlet hstep, advertisedKeys_cons, List.append_assoc]

/-- A whole run calls `start_init` once if `needs_init` was set and the init arm fires at
all, however often, and never otherwise. -/
theorem run_startInit (h : st.run selected = .ok (final, effects)) :
    effects.countP Effect.isStartInit =
      if st.needsInit && selected.any Selected.isInitReceived then 1 else 0 := by
  induction selected generalizing st effects with
  | nil =>
    cases Except.ok.inj h
    simp
  | cons first rest ih =>
    obtain ⟨next, now, later, hstep, hrun, rfl⟩ := run_cons_eq_ok h
    rw [List.countP_append, step_startInit hstep, ih hrun, step_needsInit hstep, List.any_cons]
    cases st.needsInit <;> cases first.isInitReceived <;> simp

end Run

/-! ## Panics -/

theorem run_eq_error {st : RunState Keypair PublicKey}
    {selected : List (Selected PublicKey Signature Block)} {text : String}
    (h : st.run selected = .error text) : IsPanicText text := by
  induction selected generalizing st with
  | nil => cases h
  | cons first rest ih =>
    rcases bind_eq_error.mp h with hstep | ⟨⟨next, now⟩, -, hrest⟩
    · exact step_eq_error hstep
    · rcases bind_eq_error.mp hrest with hrun | ⟨_, -, hdone⟩
      · exact ih hrun
      · cases hdone

/-! ## The keys of a node that `main` starts -/

theorem start_publicKeys {args : List String} {keypair : Keypair} {st : RunState Keypair PublicKey}
    (h : start prim args keypair = .ok st) : st.streamlet.publicKeys = [prim.public keypair] := by
  obtain ⟨node, hmain, hst⟩ := bind_eq_ok.mp h
  cases Except.ok.inj hst
  rw [main_eq_new prim hmain]
  rfl

theorem start_needsInit {args : List String} {keypair : Keypair} {st : RunState Keypair PublicKey}
    (h : start prim args keypair = .ok st) : st.needsInit = true := by
  obtain ⟨node, -, hst⟩ := bind_eq_ok.mp h
  cases Except.ok.inj hst
  rfl

/-- From `main`, a run calls `start_init` once if the init arm fires at all, however often it
fires, and never otherwise. -/
theorem startInit_once_from_main (args : List String) (keypair : Keypair)
    (selected : List (Selected PublicKey Signature Block)) {final : RunState Keypair PublicKey}
    {effects : List (Effect PublicKey Signature Block)}
    (h : (start prim args keypair >>= fun st ↦ st.run selected) = .ok (final, effects)) :
    effects.countP Effect.isStartInit = if selected.any Selected.isInitReceived then 1 else 0 := by
  obtain ⟨st, hstart, hrun⟩ := bind_eq_ok.mp h
  rw [run_startInit hrun, start_needsInit prim hstart, Bool.true_and]

theorem startInit_once_two_inits :
    let prim := Primitives.ideal fun _ : MessagePayload Nat Unit ↦ []
    let selected : List (Selected Nat (Nat × List UInt8) Unit) :=
      [.initReceived, .unhandledEvent, .initReceived]
    ∃ final effects,
      (start prim ["cs244b_project", "3"] 0 >>= fun st ↦ st.run selected) =
          .ok (final, effects) ∧
        effects.countP Effect.isStartInit = if selected.any Selected.isInitReceived then 1 else 0 :=
  ⟨_, _, rfl, startInit_once_from_main _ ["cs244b_project", "3"] 0 _ rfl⟩

/-- Three hosts, and four peers advertise distinct keys: the node knows five keys, more than the
three instances that `expected_peer_count + 1` counts. -/
theorem unchecked_advertisements_exceed_instance_count :
    let prim := Primitives.ideal fun _ : MessagePayload Nat Unit ↦ []
    let advertisement (pk : Nat) : Selected Nat (Nat × List UInt8) Unit := .networkResponse
      { payload := .peerAdvertisement ⟨pk⟩, kind := .test, nonce := 0, signatures := none }
    ∃ final effects,
      (start prim ["cs244b_project", "3"] 0 >>= fun st ↦
          st.run [advertisement 1, advertisement 2, advertisement 3, advertisement 4]) =
          .ok (final, effects) ∧
        final.streamlet.expectedPeerCount + 1 < final.streamlet.publicKeys.toFinset.card :=
  ⟨_, _, rfl, by decide⟩

/-- After any run from `main`, the known keys are the node's own key followed by the advertised
keys in order, so they hold at most one distinct key more than the advertisements. -/
theorem run_publicKeys_from_main [DecidableEq PublicKey] (args : List String) (keypair : Keypair)
    (selected : List (Selected PublicKey Signature Block)) {final : RunState Keypair PublicKey}
    {effects : List (Effect PublicKey Signature Block)}
    (h : (start prim args keypair >>= fun st ↦ st.run selected) = .ok (final, effects)) :
    final.streamlet.publicKeys = prim.public keypair :: advertisedKeys selected ∧
      final.streamlet.publicKeys.toFinset.card ≤ (advertisedKeys selected).toFinset.card + 1 := by
  obtain ⟨st, hstart, hrun⟩ := bind_eq_ok.mp h
  have hkeys : final.streamlet.publicKeys = prim.public keypair :: advertisedKeys selected := by
    rw [run_streamlet hrun, start_publicKeys prim hstart]
    rfl
  refine ⟨hkeys, ?_⟩
  rw [hkeys, List.toFinset_cons]
  exact Finset.card_insert_le _ _

theorem run_publicKeys_three_hosts :
    let prim := Primitives.ideal fun _ : MessagePayload Nat Unit ↦ []
    let advertisement (pk : Nat) : Selected Nat (Nat × List UInt8) Unit := .networkResponse
      { payload := .peerAdvertisement ⟨pk⟩, kind := .test, nonce := 0, signatures := none }
    let selected := [advertisement 1, .initReceived, advertisement 2, advertisement 1]
    ∃ final effects,
      (start prim ["cs244b_project", "3"] 0 >>= fun st ↦ st.run selected) =
          .ok (final, effects) ∧
        final.streamlet.publicKeys = prim.public 0 :: advertisedKeys selected ∧
        final.streamlet.publicKeys.toFinset.card ≤ (advertisedKeys selected).toFinset.card + 1 :=
  ⟨_, _, rfl, run_publicKeys_from_main _ ["cs244b_project", "3"] 0 _ rfl⟩

end StreamletLog.Instance

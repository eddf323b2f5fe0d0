import StreamServer.Signaling
import StreamServer.Peer.Invariants

/-! # The signaling server's sessions

`SignalingServer` keeps `clients_`, from a session's peer id to the browser's socket, under
`clients_mutex_`, beside the registry it shares with the pipeline's thread. Its handlers run on
the WebSocket threads, and a run is any interleaving of the sections that hold a lock
(`StreamServer.SignalingServer.Event`): `on_client_connected` calls `create_peer` and sends the
welcome, or the refusal before it closes the socket (`connect`), and later stores the session,
sets the handlers and starts the offer (`store`); `on_client_message` runs on a socket whose
handlers are set (`message`); `onClosed` and `onError` both call `on_client_disconnected`,
which erases the session (`hangUp`) and only after releasing the lock calls `remove_peer`
(`finishRemoval`); and `stop`, the broadcasts, the reaper and the stack's callbacks run on other
threads. Setting the handlers and `start_offer` change no modelled state, and no step of
another thread can tell them apart from the store, so they are one step with it.

Every peer of the registry is held by a handler that has not finished, a socket between
`create_peer` and the handling of its close or a disconnect that has not yet called
`remove_peer`, and every session names a socket serving under its id
(`StreamServer.SignalingServer.Held`, kept by every step). So once every close is handled and
every disconnect finished, the registry and `clients_` are empty. The registry of every run is
a run of the registry's own steps (`StreamServer.SignalingServer.run_registry`), and keeps its
invariants whatever the interleaving.
-/

namespace StreamServer

namespace WebRtcServer

/-- The registry's steps that other threads make: the pipeline's broadcasts, the reaper, the
stack's callbacks on peer objects, and `stop` from `main`. -/
def Event.fromOtherThread : Event → Bool
  | .createPeer .. | .removePeer _ | .handleAnswer _ => false
  | _ => true

/-- A step of another thread adds no key. -/
theorem keys_step_subset {config : AppConfig} {server : WebRtcServer} {event : Event}
    (other : event.fromOtherThread = true) :
    (step config server event).peers.map (·.1) ⊆ server.peers.map (·.1) := by
  cases event with
  | createPeer | removePeer | handleAnswer => cases other
  | broadcastNal nal failing => simp [step, broadcastNal, Function.comp_def]
  | cleanupPass => exact ((List.filter_sublist _).map _).subset
  | stop => exact List.nil_subset _
  | stateChange | trackOpened | trackClosed => simp [step]

end WebRtcServer

/-- The ICE fields of `WebRtcConfig`, which only the welcome reads. -/
structure IceServers where
  stunServer : List Char := "stun:stun.cloudflare.com:3478".toList
  turnServer : List Char := []
  turnUsername : List Char := []
  turnCredential : List Char := []
deriving DecidableEq, Repr

namespace SignalingServer

/-- The `ice_servers` array of the welcome: the STUN server, then the TURN server with its
credentials, each where it is set. -/
def iceServerList (ice : IceServers) : List Json :=
  (if ice.stunServer.isEmpty then []
    else [.object (Json.setKey [] "urls".toList (.string ice.stunServer))]) ++
  (if ice.turnServer.isEmpty then []
    else
      let turn := Json.setKey [] "urls".toList (.string ice.turnServer)
      let turn := Json.setKey turn "username".toList (.string ice.turnUsername)
      [.object (Json.setKey turn "credential".toList (.string ice.turnCredential))])

/-- The welcome `on_client_connected` sends an admitted browser. -/
def welcomeMessage (ice : IceServers) (peerId : List Char) : List (List Char × Json) :=
  let welcome := Json.setKey [] "type".toList (.string "welcome".toList)
  let welcome := Json.setKey welcome "peerId".toList (.string peerId)
  Json.setKey welcome "iceServers".toList (.array (iceServerList ice))

/-- What `on_client_connected` sends a refused browser before it closes the socket. -/
def rejectMessage : List (List Char × Json) :=
  let reject := Json.setKey [] "type".toList (.string "error".toList)
  Json.setKey reject "message".toList (.string "Server full, max peers reached".toList)

/-- Where a socket is in its handlers. -/
inductive Phase
  /-- `create_peer` returned this id and the welcome went out; the session is not stored. -/
  | admitted (peerId : List Char)
  /-- The session was stored and the handlers set; the socket's close is not handled yet. -/
  | serving (peerId : List Char)
  /-- `on_client_disconnected` has run for the socket. -/
  | closed (peerId : List Char)
  /-- `create_peer` returned the empty id: the refusal went out and the socket was closed. -/
  | refused
deriving DecidableEq, Repr

/-- The id a socket's handlers hold: from `create_peer` until its close is handled. -/
def Phase.holding : Phase → Option (List Char)
  | .admitted peerId | .serving peerId => some peerId
  | _ => none

/-- A browser's socket: its phase, and the frames the server's handlers sent on it, in order. -/
structure Socket where
  phase : Phase
  frames : List (List Char)
deriving DecidableEq, Repr

/-- The socket `on_client_connected` leaves after `create_peer` returned this id. -/
def accepted (ice : IceServers) (peerId : List Char) : Socket :=
  if peerId.isEmpty then ⟨.refused, [Json.dump (.object rejectMessage)]⟩
  else ⟨.admitted peerId, [Json.dump (.object (welcomeMessage ice peerId))]⟩

end SignalingServer

/-- The signaling server's state: the registry it shares with the pipeline, `clients_` from a
session's peer id to its socket (an index into `sockets`), every socket accepted so far, the
ids of the disconnects that have erased their session and not yet called `remove_peer`, and
whether `ws_server_` still accepts. -/
structure SignalingServer where
  registry : WebRtcServer
  clients : List (List Char × Nat)
  sockets : List SignalingServer.Socket
  removals : List (List Char)
  accepting : Bool
deriving DecidableEq, Repr

namespace SignalingServer

/-- The server after `start`, before the first browser. -/
def init : SignalingServer where
  registry := WebRtcServer.init
  clients := []
  sockets := []
  removals := []
  accepting := true

/-- `clients_[peer_id] = ClientSession{ws, peer_id}`. -/
def storeSession (clients : List (List Char × Nat)) (peerId : List Char) (socket : Nat) :
    List (List Char × Nat) :=
  if clients.any (·.1 = peerId) then
    clients.map fun entry => if entry.1 = peerId then (peerId, socket) else entry
  else clients ++ [(peerId, socket)]

/-- `clients_.erase(peer_id)`. -/
def eraseSession (clients : List (List Char × Nat)) (peerId : List Char) :
    List (List Char × Nat) :=
  clients.filter (·.1 ≠ peerId)

/-- The phase of the socket at an index; none past the last one accepted. -/
def phaseOf (server : SignalingServer) (socket : Nat) : Option Phase :=
  server.sockets[socket]?.map (·.phase)

/-- The socket at an index moved to a phase. -/
def setPhase (server : SignalingServer) (socket : Nat) (phase : Phase) : SignalingServer :=
  { server with sockets := server.sockets.modify (fun ws => { ws with phase }) socket }

/-- `ws->send(frame)` on the socket at an index. -/
def sendFrame (server : SignalingServer) (socket : Nat) (frame : List Char) : SignalingServer :=
  { server with
    sockets := server.sockets.modify (fun ws => { ws with frames := ws.frames ++ [frame] }) socket }

/-- The first part of `on_client_connected`, up to its `return` for a refused browser or to the
welcome: `create_peer`, then the frame. Once `stop` has reset `ws_server_`, no browser
connects. -/
def connect (config : AppConfig) (ice : IceServers) (server : SignalingServer) (draw : UInt32)
    (construction : Construction) : SignalingServer :=
  if server.accepting then
    let created := WebRtcServer.createPeer config server.registry draw construction
    { server with registry := created.1, sockets := server.sockets ++ [accepted ice created.2] }
  else server

/-- The rest of `on_client_connected` on an admitted socket: the session is stored under
`clients_mutex_`, then the handlers are set and `start_offer` called, which change no modelled
state and which no other thread's step can tell from the store. -/
def store (server : SignalingServer) (socket : Nat) : SignalingServer :=
  match phaseOf server socket with
  | some (.admitted peerId) =>
      { server.setPhase socket (.serving peerId) with
        clients := storeSession server.clients peerId socket }
  | _ => server

/-- A call of `on_client_message` made on the registry or the socket; `handle_candidate`
changes no modelled state. -/
def perform (socket : Nat) (server : SignalingServer) : Action → SignalingServer
  | .handleAnswer peerId _ => { server with registry := server.registry.handleAnswer peerId }
  | .handleCandidate _ _ _ => server
  | .send frame => server.sendFrame socket frame

/-- The `onMessage` handler of a socket whose handlers are set: `on_client_message` with the
id the handler captured. -/
def message (server : SignalingServer) (socket : Nat) (text : List Char) : SignalingServer :=
  match phaseOf server socket with
  | some (.serving peerId) => (onClientMessage peerId text).foldl (perform socket) server
  | _ => server

/-- `onClosed` or `onError` of a socket whose handlers are set, both of which may fire:
`on_client_disconnected` erases the session of the captured id under `clients_mutex_`, and its
`remove_peer` is still to come. -/
def hangUp (server : SignalingServer) (socket : Nat) : SignalingServer :=
  match phaseOf server socket with
  | some (.serving peerId) | some (.closed peerId) =>
      { server.setPhase socket (.closed peerId) with
        clients := eraseSession server.clients peerId, removals := server.removals ++ [peerId] }
  | _ => server

/-- The `remove_peer` of a pending disconnect. -/
def finishRemoval (server : SignalingServer) (index : Nat) : SignalingServer :=
  match server.removals[index]? with
  | some peerId =>
      { server with
        registry := server.registry.removePeer peerId, removals := server.removals.eraseIdx index }
  | none => server

/-- `stop`: the sessions' sockets are closed, whose `onClosed` handlers run later, `clients_` is
cleared and `ws_server_` reset. -/
def stop (server : SignalingServer) : SignalingServer :=
  { server with clients := [], accepting := false }

/-- The steps of a run: the sections of the handlers that hold a lock, on any socket and in any
order, and the registry's steps on other threads. -/
inductive Event
  | connect (draw : UInt32) (construction : Construction)
  | store (socket : Nat)
  | message (socket : Nat) (text : List Char)
  | hangUp (socket : Nat)
  | finishRemoval (index : Nat)
  | stop
  | registry (event : WebRtcServer.Event) (other : event.fromOtherThread = true)

/-- One step. -/
def step (config : AppConfig) (ice : IceServers) (server : SignalingServer) :
    Event → SignalingServer
  | .connect draw construction => server.connect config ice draw construction
  | .store socket => server.store socket
  | .message socket text => server.message socket text
  | .hangUp socket => server.hangUp socket
  | .finishRemoval index => server.finishRemoval index
  | .stop => server.stop
  | .registry event _ => { server with registry := server.registry.step config event }

/-- The state after a run. -/
def run (config : AppConfig) (ice : IceServers) : SignalingServer → List Event → SignalingServer
  | server, [] => server
  | server, event :: rest => run config ice (step config ice server event) rest

/-! ## Sockets by index -/

@[simp] theorem phaseOf_setPhase (server : SignalingServer) (socket other : Nat) (phase : Phase) :
    phaseOf (server.setPhase socket phase) other =
      if socket = other then (phaseOf server other).map fun _ => phase else phaseOf server other := by
  simp only [phaseOf, setPhase, List.getElem?_modify]
  split <;> cases server.sockets[other]? <;> rfl

@[simp] theorem phaseOf_sendFrame (server : SignalingServer) (socket other : Nat)
    (frame : List Char) : phaseOf (server.sendFrame socket frame) other = phaseOf server other := by
  simp only [phaseOf, sendFrame, List.getElem?_modify]
  split <;> cases server.sockets[other]? <;> rfl

theorem phaseOf_append {server next : SignalingServer} {socket : Socket}
    (grown : next.sockets = server.sockets ++ [socket]) {other : Nat} {phase : Phase}
    (known : phaseOf server other = some phase) : phaseOf next other = some phase := by
  obtain ⟨ws, present, rfl⟩ := Option.map_eq_some'.mp known
  simp only [phaseOf, grown, List.getElem?_append_left (List.getElem?_eq_some_iff.mp present).1,
    present, Option.map_some']

theorem phaseOf_appended {server next : SignalingServer} {socket : Socket}
    (grown : next.sockets = server.sockets ++ [socket]) :
    phaseOf next server.sockets.length = some socket.phase := by
  simp [phaseOf, grown]

theorem mem_storeSession {clients : List (List Char × Nat)} {peerId : List Char} {socket : Nat}
    {entry : List Char × Nat} (present : entry ∈ storeSession clients peerId socket) :
    entry = (peerId, socket) ∨ entry ∈ clients := by
  unfold storeSession at present
  split at present
  · obtain ⟨old, member, rfl⟩ := List.mem_map.mp present
    split
    · exact .inl rfl
    · exact .inr member
  · rcases List.mem_append.mp present with member | added
    · exact .inr member
    · exact .inl (List.mem_singleton.mp added)

/-! ## What a handler holds -/

/-- The ids held by a handler that has not finished: of a socket from `create_peer` until its
close is handled, and of a disconnect that has not called `remove_peer`. -/
def heldIds (server : SignalingServer) : List (List Char) :=
  server.sockets.filterMap (·.phase.holding) ++ server.removals

theorem mem_heldIds {server : SignalingServer} {key : List Char} :
    key ∈ server.heldIds ↔
      (∃ socket, (phaseOf server socket).bind Phase.holding = some key) ∨ key ∈ server.removals := by
  rw [heldIds, List.mem_append, List.mem_filterMap]
  refine or_congr_left ⟨?_, ?_⟩
  · rintro ⟨ws, present, holds⟩
    obtain ⟨socket, found⟩ := List.mem_iff_getElem?.mp present
    exact ⟨socket, by simp [phaseOf, found, holds]⟩
  · rintro ⟨socket, holds⟩
    simp only [phaseOf, Option.bind_map, Option.bind_eq_some, Function.comp] at holds
    obtain ⟨ws, found, holds⟩ := holds
    exact ⟨ws, List.mem_iff_getElem?.mpr ⟨socket, found⟩, holds⟩

/-- Every peer of the registry is held by a handler, and every session names a socket that
serves under its id. -/
structure Held (server : SignalingServer) : Prop where
  peers : ∀ key ∈ server.registry.peers.map (·.1), key ∈ server.heldIds
  sessions : ∀ entry ∈ server.clients, phaseOf server entry.2 = some (.serving entry.1)

theorem init_held : init.Held where
  peers := by simp [init, WebRtcServer.init]
  sessions := by simp [init]

/-! ## Every step keeps what the handlers hold -/

section Preservation

variable {config : AppConfig} {ice : IceServers} {server : SignalingServer}

/-- A step that keeps every socket's phase and the pending disconnects, and adds no key and no
session, keeps what the handlers hold. -/
theorem Held.of_subset {next : SignalingServer} (held : server.Held)
    (phases : ∀ socket, phaseOf next socket = phaseOf server socket)
    (removals : next.removals = server.removals)
    (keys : next.registry.peers.map (·.1) ⊆ server.registry.peers.map (·.1))
    (clients : next.clients ⊆ server.clients) : next.Held where
  peers key member := by
    have holder := mem_heldIds.mp (held.peers key (keys member))
    rw [mem_heldIds, removals]
    simpa only [phases] using holder
  sessions entry present := (phases _).trans (held.sessions entry (clients present))

theorem Held.connect (held : server.Held) (draw : UInt32) (construction : Construction) :
    (server.connect config ice draw construction).Held := by
  unfold SignalingServer.connect
  split
  · constructor
    · intro key member
      rw [mem_heldIds]
      rcases WebRtcServer.mem_keys_createPeer member with old | ⟨rfl, nonempty⟩
      · rcases mem_heldIds.mp (held.peers key old) with ⟨socket, holds⟩ | removed
        · obtain ⟨phase, known, holds⟩ := Option.bind_eq_some.mp holds
          exact .inl ⟨socket, by rw [phaseOf_append rfl known]; exact holds⟩
        · exact .inr removed
      · refine .inl ⟨server.sockets.length, ?_⟩
        rw [phaseOf_appended rfl]
        simp [accepted, nonempty, Phase.holding]
    · exact fun entry present => phaseOf_append rfl (held.sessions entry present)
  · exact held

theorem Held.store (held : server.Held) (socket : Nat) : (server.store socket).Held := by
  unfold SignalingServer.store
  split
  · rename_i peerId admitted
    constructor
    · intro key member
      rw [mem_heldIds]
      rcases mem_heldIds.mp (held.peers key member) with ⟨other, holds⟩ | removed
      · refine .inl ⟨other, ?_⟩
        show (phaseOf (server.setPhase socket (.serving peerId)) other).bind _ = _
        rw [phaseOf_setPhase]
        split
        · subst socket
          rw [admitted] at holds ⊢
          exact holds
        · exact holds
      · exact .inr removed
    · intro entry present
      show phaseOf (server.setPhase socket (.serving peerId)) entry.2 = _
      rcases mem_storeSession present with rfl | old
      · simp [admitted]
      · have serving := held.sessions entry old
        rw [phaseOf_setPhase, if_neg]
        · exact serving
        · rintro rfl
          rw [admitted] at serving
          cases serving
  · exact held

/-- Where a close handler runs, the socket holds at most the id it captured. -/
theorem holding_of_captured {server : SignalingServer} {socket : Nat} {peerId key : List Char}
    (captured : phaseOf server socket = some (.serving peerId) ∨
      phaseOf server socket = some (.closed peerId))
    (holds : (phaseOf server socket).bind Phase.holding = some key) : key = peerId := by
  rcases captured with known | known <;> rw [known] at holds <;> cases holds
  rfl

/-- The first section of `on_client_disconnected`, on a socket whose handlers captured
`peerId`, keeps what the handlers hold: the id moves from the socket to the pending
disconnects. -/
theorem Held.release (held : server.Held) {socket : Nat} {peerId : List Char}
    (captured : phaseOf server socket = some (.serving peerId) ∨
      phaseOf server socket = some (.closed peerId)) :
    ({ server.setPhase socket (.closed peerId) with
        clients := eraseSession server.clients peerId,
        removals := server.removals ++ [peerId] } : SignalingServer).Held where
  peers key member := by
    rw [mem_heldIds]
    rcases mem_heldIds.mp (held.peers key member) with ⟨other, holds⟩ | removed
    · by_cases same : socket = other
      · subst other
        exact .inr (List.mem_append_right _ (List.mem_singleton.mpr (holding_of_captured captured holds)))
      · refine .inl ⟨other, ?_⟩
        show (phaseOf (server.setPhase socket (.closed peerId)) other).bind _ = _
        rw [phaseOf_setPhase, if_neg same]
        exact holds
    · exact .inr (List.mem_append_left _ removed)
  sessions entry present := by
    simp only [eraseSession, List.mem_filter, decide_eq_true_eq] at present
    have serving := held.sessions entry present.1
    show phaseOf (server.setPhase socket (.closed peerId)) entry.2 = _
    rw [phaseOf_setPhase, if_neg]
    · exact serving
    · rintro rfl
      rcases captured with known | known <;> rw [known] at serving <;> cases serving
      exact present.2 rfl

theorem Held.hangUp (held : server.Held) (socket : Nat) : (server.hangUp socket).Held := by
  unfold SignalingServer.hangUp
  split
  · exact held.release (.inl ‹_›)
  · exact held.release (.inr ‹_›)
  · exact held

theorem Held.finishRemoval (held : server.Held) (index : Nat) :
    (server.finishRemoval index).Held := by
  unfold SignalingServer.finishRemoval
  split
  · rename_i peerId pending
    refine ⟨fun key member => ?_, held.sessions⟩
    obtain ⟨old, differ⟩ := WebRtcServer.mem_keys_removePeer member
    rw [mem_heldIds]
    rcases mem_heldIds.mp (held.peers key old) with holder | removed
    · exact .inl holder
    · obtain ⟨other, found⟩ := List.mem_iff_getElem?.mp removed
      refine .inr (List.mem_eraseIdx_iff_getElem?.mpr ⟨other, ?_, found⟩)
      rintro rfl
      rw [pending] at found
      exact differ (Option.some.inj found).symm
  · exact held

theorem Held.perform (held : server.Held) (socket : Nat) :
    ∀ action, (SignalingServer.perform socket server action).Held
  | .handleAnswer peerId _ =>
      held.of_subset (fun _ => rfl) rfl
        (by simp [SignalingServer.perform, WebRtcServer.handleAnswer]) (List.Subset.refl _)
  | .handleCandidate .. => held
  | .send frame =>
      held.of_subset (fun other => phaseOf_sendFrame server socket other frame) rfl
        (List.Subset.refl _) (List.Subset.refl _)

theorem Held.foldl_perform (socket : Nat) :
    ∀ (actions : List Action) {server : SignalingServer}, server.Held →
      (actions.foldl (SignalingServer.perform socket) server).Held
  | [], _, held => held
  | action :: rest, _, held => foldl_perform socket rest (held.perform socket action)

theorem Held.message (held : server.Held) (socket : Nat) (text : List Char) :
    (server.message socket text).Held := by
  unfold SignalingServer.message
  split
  · exact Held.foldl_perform socket _ held
  · exact held

theorem Held.step (held : server.Held) : ∀ event, (step config ice server event).Held
  | .connect draw construction => held.connect draw construction
  | .store socket => held.store socket
  | .message socket text => held.message socket text
  | .hangUp socket => held.hangUp socket
  | .finishRemoval index => held.finishRemoval index
  | .stop => held.of_subset (fun _ => rfl) rfl (List.Subset.refl _) (List.nil_subset _)
  | .registry _ other =>
      held.of_subset (fun _ => rfl) rfl (WebRtcServer.keys_step_subset other) (List.Subset.refl _)

theorem Held.run : ∀ (events : List Event) {server : SignalingServer}, server.Held →
    (run config ice server events).Held
  | [], _, held => held
  | event :: rest, _, held => Held.run rest (held.step event)

end Preservation

/-- **Nothing outlives its handlers.** In every run of the signaling server, whatever the
browsers send and however their handlers interleave with each other, with the pipeline's
broadcasts, the reaper and `stop`: every peer of the registry is held by a socket between
`create_peer` and the handling of its close, or by a disconnect that has not yet called
`remove_peer`; and every session of `clients_` names a socket that serves under the session's
id. -/
theorem handlers_hold_peers_and_sessions (config : AppConfig) (ice : IceServers)
    (events : List Event) :
    let server := run config ice init events
    (∀ key ∈ server.registry.peers.map (·.1), key ∈ server.heldIds) ∧
      ∀ entry ∈ server.clients, phaseOf server entry.2 = some (.serving entry.1) :=
  let held := Held.run events init_held
  ⟨held.peers, held.sessions⟩

/-- **Closed sockets leave nothing behind.** In every run, once every socket's close has been
handled (or the socket refused) and every disconnect has called `remove_peer`, the registry
holds no peer and `clients_` no session. -/
theorem released_once_handlers_finish (config : AppConfig) (ice : IceServers)
    (events : List Event) (finished : (run config ice init events).heldIds = []) :
    (run config ice init events).registry.peers = [] ∧ (run config ice init events).clients = [] := by
  have held : (run config ice init events).Held := Held.run events init_held
  constructor
  · refine List.eq_nil_iff_forall_not_mem.mpr fun entry present => ?_
    have holder := held.peers entry.1 (List.mem_map_of_mem _ present)
    rw [finished] at holder
    exact List.not_mem_nil _ holder
  · refine List.eq_nil_iff_forall_not_mem.mpr fun entry present => ?_
    have holder : entry.1 ∈ (run config ice init events).heldIds :=
      mem_heldIds.mpr (.inl ⟨entry.2, by rw [held.sessions entry present]; rfl⟩)
    rw [finished] at holder
    exact List.not_mem_nil _ holder

theorem released_after_one_visit :
    (run {} {} init [.connect 7 (.succeeds 0), .store 0, .hangUp 0, .finishRemoval 0]).heldIds = [] ∧
      (run {} {} init [.connect 7 (.succeeds 0), .store 0, .hangUp 0, .finishRemoval 0]).registry.peers = [] ∧
      (run {} {} init [.connect 7 (.succeeds 0), .store 0, .hangUp 0, .finishRemoval 0]).clients = [] :=
  have finished : (run {} {} init [.connect 7 (.succeeds 0), .store 0, .hangUp 0, .finishRemoval 0]).heldIds = [] := by
    decide
  ⟨finished, released_once_handlers_finish {} {} _ finished⟩

/-! ## While no id repeats, `clients_` is exact -/

/-- The id `create_peer` gave a socket; none for a refused one. -/
def Phase.given : Phase → Option (List Char)
  | .admitted peerId | .serving peerId | .closed peerId => some peerId
  | .refused => none

/-- The id the socket at an index was given. -/
def givenId (server : SignalingServer) (socket : Nat) : Option (List Char) :=
  (phaseOf server socket).bind Phase.given

/-- The peer id a step draws. -/
def Event.drawnId : Event → Option (List Char)
  | .connect draw _ => some (generatePeerId draw)
  | _ => none

/-- The id a socket `on_client_connected` accepts is given is the one `create_peer` drew. -/
theorem accepted_given {config : AppConfig} {ice : IceServers} {registry : WebRtcServer}
    {draw : UInt32} {construction : Construction} {peerId : List Char}
    (given : (accepted ice (WebRtcServer.createPeer config registry draw construction).2).phase.given =
      some peerId) :
    peerId = generatePeerId draw := by
  by_cases refused : (WebRtcServer.createPeer config registry draw construction).2 = []
  · simp [accepted, refused, Phase.given] at given
  · simp only [accepted, List.isEmpty_iff, refused, if_false, Phase.given, Option.some.injEq] at given
    rw [← given, WebRtcServer.createPeer_returned refused]

/-- No two sockets were given the same id, and, while the server accepts, every socket that
serves has its session under its id. -/
structure Exact (server : SignalingServer) : Prop where
  distinct : ∀ socket other peerId, server.givenId socket = some peerId →
    server.givenId other = some peerId → socket = other
  stored : server.accepting = true → ∀ socket peerId,
    phaseOf server socket = some (.serving peerId) → (peerId, socket) ∈ server.clients

theorem init_exact : init.Exact where
  distinct _ _ _ given := by simp [givenId, phaseOf, init] at given
  stored _ _ _ serving := by simp [phaseOf, init] at serving

theorem mem_storeSession_self (clients : List (List Char × Nat)) (peerId : List Char)
    (socket : Nat) : (peerId, socket) ∈ storeSession clients peerId socket := by
  unfold storeSession
  split
  · rename_i present
    obtain ⟨old, member, named⟩ := List.any_eq_true.mp present
    exact List.mem_map.mpr ⟨old, member, by simp_all⟩
  · exact List.mem_append_right _ (List.mem_singleton_self _)

theorem mem_storeSession_of_ne {clients : List (List Char × Nat)} {peerId : List Char}
    {socket : Nat} {entry : List Char × Nat} (present : entry ∈ clients) (differ : entry.1 ≠ peerId) :
    entry ∈ storeSession clients peerId socket := by
  unfold storeSession
  split
  · exact List.mem_map.mpr ⟨entry, present, by simp [differ]⟩
  · exact List.mem_append_left _ present

/-- A phase change that keeps the socket's id keeps every socket's id. -/
theorem givenId_setPhase {server : SignalingServer} {socket : Nat} {old : Phase}
    (known : phaseOf server socket = some old) (phase : Phase) (same : phase.given = old.given)
    (other : Nat) :
    (server.setPhase socket phase).givenId other = server.givenId other := by
  simp only [givenId, phaseOf_setPhase]
  split
  · subst other
    rw [known]
    exact same
  · rfl

theorem phaseOf_append_cases {server next : SignalingServer} {socket : Socket}
    (grown : next.sockets = server.sockets ++ [socket]) (other : Nat) :
    phaseOf next other = phaseOf server other ∨
      (other = server.sockets.length ∧ phaseOf next other = some socket.phase) := by
  simp only [phaseOf, grown]
  rcases Nat.lt_or_ge other server.sockets.length with before | after
  · exact .inl (by rw [List.getElem?_append_left before])
  · rw [List.getElem?_append_right after, List.getElem?_eq_none after]
    rcases Nat.eq_or_lt_of_le after with same | beyond
    · exact .inr ⟨same.symm, by simp [same]⟩
    · have gone : [socket][other - server.sockets.length]? = none :=
        List.getElem?_eq_none (by simp only [List.length_singleton]; omega)
      exact .inl (by rw [gone])

section Exactness

variable {config : AppConfig} {ice : IceServers} {server : SignalingServer}

/-- A step that keeps the id every socket was given keeps them distinct. -/
theorem Exact.distinct_of_ids {next : SignalingServer} (exact : server.Exact)
    (ids : ∀ socket, next.givenId socket = server.givenId socket) (socket other : Nat)
    (peerId : List Char) (first : next.givenId socket = some peerId)
    (second : next.givenId other = some peerId) : socket = other :=
  exact.distinct socket other peerId ((ids socket).symm.trans first) ((ids other).symm.trans second)

/-- A step that keeps every socket's phase, and while the server accepts keeps every session,
keeps exactness. -/
theorem Exact.of_same {next : SignalingServer} (exact : server.Exact)
    (phases : ∀ socket, phaseOf next socket = phaseOf server socket)
    (kept : next.accepting = true → server.accepting = true ∧ server.clients ⊆ next.clients) :
    next.Exact where
  distinct := exact.distinct_of_ids fun socket => by simp only [givenId, phases]
  stored accepting socket peerId serving :=
    (kept accepting).2 (exact.stored (kept accepting).1 socket peerId ((phases socket).symm.trans serving))

/-- A socket added that does not serve, under an id no socket has, keeps exactness. -/
theorem Exact.append {next : SignalingServer} {socket : Socket} (exact : server.Exact)
    (grown : next.sockets = server.sockets ++ [socket])
    (notServing : ∀ peerId, socket.phase ≠ .serving peerId)
    (fresh : ∀ other peerId, socket.phase.given = some peerId → server.givenId other ≠ some peerId)
    (kept : next.accepting = true → server.accepting = true ∧ server.clients ⊆ next.clients) :
    next.Exact where
  distinct first second peerId firstGiven secondGiven := by
    unfold givenId at firstGiven secondGiven
    rcases phaseOf_append_cases grown first with sameFirst | ⟨rfl, newFirst⟩ <;>
      rcases phaseOf_append_cases grown second with sameSecond | ⟨rfl, newSecond⟩
    · rw [sameFirst] at firstGiven
      rw [sameSecond] at secondGiven
      exact exact.distinct first second peerId firstGiven secondGiven
    · rw [sameFirst] at firstGiven
      rw [newSecond] at secondGiven
      exact absurd firstGiven (fresh first peerId secondGiven)
    · rw [newFirst] at firstGiven
      rw [sameSecond] at secondGiven
      exact absurd secondGiven (fresh second peerId firstGiven)
    · rfl
  stored accepting other peerId serving := by
    rcases phaseOf_append_cases grown other with same | ⟨-, new⟩
    · exact (kept accepting).2 (exact.stored (kept accepting).1 other peerId (same ▸ serving))
    · rw [new] at serving
      exact absurd (Option.some.inj serving) (notServing peerId)

theorem Exact.connect (exact : server.Exact) (draw : UInt32) (construction : Construction)
    (fresh : ∀ socket, server.givenId socket ≠ some (generatePeerId draw)) :
    (server.connect config ice draw construction).Exact := by
  unfold SignalingServer.connect
  split
  · refine exact.append rfl (fun peerId => ?_) (fun other peerId given => ?_)
      (fun accepting => ⟨accepting, List.Subset.refl _⟩)
    · unfold accepted
      split <;> nofun
    · rw [accepted_given given]
      exact fresh other
  · exact exact

theorem Exact.store (exact : server.Exact) (socket : Nat) : (server.store socket).Exact := by
  unfold SignalingServer.store
  split
  · rename_i peerId admitted
    have ids := givenId_setPhase admitted (.serving peerId) rfl
    refine ⟨exact.distinct_of_ids ids, fun accepting other id serving => ?_⟩
    change phaseOf (server.setPhase socket (.serving peerId)) other = _ at serving
    rw [phaseOf_setPhase] at serving
    split at serving
    · subst other
      rw [admitted] at serving
      cases serving
      exact mem_storeSession_self _ _ _
    · rename_i differ
      refine mem_storeSession_of_ne (exact.stored accepting other id serving) fun same => differ ?_
      obtain rfl : id = peerId := same
      exact exact.distinct socket other id (by simp [givenId, admitted, Phase.given])
        (by simp [givenId, serving, Phase.given])
  · exact exact

/-- The first section of `on_client_disconnected` keeps exactness: the session it erases is
the one of its own socket. -/
theorem Exact.release (exact : server.Exact) {socket : Nat} {peerId : List Char}
    (captured : phaseOf server socket = some (.serving peerId) ∨
      phaseOf server socket = some (.closed peerId)) :
    ({ server.setPhase socket (.closed peerId) with
        clients := eraseSession server.clients peerId,
        removals := server.removals ++ [peerId] } : SignalingServer).Exact := by
  have ids : ∀ other, (server.setPhase socket (.closed peerId)).givenId other = server.givenId other := by
    rcases captured with known | known <;> exact givenId_setPhase known _ rfl
  have owned : server.givenId socket = some peerId := by
    rcases captured with known | known <;> simp [givenId, known, Phase.given]
  refine ⟨exact.distinct_of_ids ids, fun accepting other id serving => ?_⟩
  change phaseOf (server.setPhase socket (.closed peerId)) other = _ at serving
  rw [phaseOf_setPhase] at serving
  split at serving
  · subst other
    rcases captured with known | known <;> rw [known] at serving <;> cases serving
  · rename_i differ
    simp only [eraseSession, List.mem_filter, decide_eq_true_eq]
    refine ⟨exact.stored accepting other id serving, fun same => differ ?_⟩
    obtain rfl : id = peerId := same
    exact exact.distinct socket other id owned (by simp [givenId, serving, Phase.given])

theorem Exact.hangUp (exact : server.Exact) (socket : Nat) : (server.hangUp socket).Exact := by
  unfold SignalingServer.hangUp
  split
  · exact exact.release (.inl ‹_›)
  · exact exact.release (.inr ‹_›)
  · exact exact

/-- The calls of `on_client_message` change no socket's phase, no session and whether the
server accepts. -/
theorem foldl_perform_sockets (socket : Nat) :
    ∀ (actions : List Action) (server : SignalingServer),
      (∀ other, phaseOf (actions.foldl (perform socket) server) other = phaseOf server other) ∧
        (actions.foldl (perform socket) server).clients = server.clients ∧
        (actions.foldl (perform socket) server).accepting = server.accepting
  | [], _ => ⟨fun _ => rfl, rfl, rfl⟩
  | .handleAnswer .. :: rest, _ => foldl_perform_sockets socket rest _
  | .handleCandidate .. :: rest, _ => foldl_perform_sockets socket rest _
  | .send frame :: rest, server =>
      let ⟨phases, clients, accepting⟩ := foldl_perform_sockets socket rest (server.sendFrame socket frame)
      ⟨fun other => (phases other).trans (phaseOf_sendFrame server socket other frame), clients,
        accepting⟩

theorem Exact.message (exact : server.Exact) (socket : Nat) (text : List Char) :
    (server.message socket text).Exact := by
  unfold SignalingServer.message
  split
  · obtain ⟨phases, clients, accepting⟩ := foldl_perform_sockets socket (onClientMessage _ text) server
    exact exact.of_same phases fun running =>
      ⟨accepting ▸ running, clients ▸ List.Subset.refl _⟩
  · exact exact

theorem Exact.finishRemoval (exact : server.Exact) (index : Nat) :
    (server.finishRemoval index).Exact := by
  unfold SignalingServer.finishRemoval
  split
  · exact exact.of_same (fun _ => rfl) fun running => ⟨running, List.Subset.refl _⟩
  · exact exact

theorem connect_sockets {draw : UInt32} {construction : Construction}
    (accepting : server.accepting = true) :
    (server.connect config ice draw construction).sockets =
      server.sockets ++ [accepted ice (WebRtcServer.createPeer config server.registry draw construction).2] := by
  rw [SignalingServer.connect, if_pos accepting]

/-- The ids a step gives are those it draws. -/
theorem givenId_step {event : Event} {socket : Nat} {peerId : List Char}
    (given : (step config ice server event).givenId socket = some peerId) :
    server.givenId socket = some peerId ∨ event.drawnId = some peerId := by
  cases event with
  | connect draw construction =>
      change (server.connect config ice draw construction).givenId socket = _ at given
      by_cases accepting : server.accepting = true
      · unfold givenId at given
        rcases phaseOf_append_cases (connect_sockets accepting) socket with same | ⟨-, new⟩
        · rw [same] at given
          exact .inl given
        · rw [new, Option.some_bind] at given
          rw [accepted_given given]
          exact .inr rfl
      · rw [SignalingServer.connect, if_neg accepting] at given
        exact .inl given
  | store other =>
      simp only [step, SignalingServer.store] at given
      split at given
      · rename_i admitted
        exact .inl ((givenId_setPhase admitted (.serving _) rfl socket).symm.trans given)
      · exact .inl given
  | message other text =>
      simp only [step, SignalingServer.message] at given
      split at given
      · unfold givenId at given
        rw [(foldl_perform_sockets other _ server).1] at given
        exact .inl given
      · exact .inl given
  | hangUp other =>
      simp only [step, SignalingServer.hangUp] at given
      split at given
      · rename_i serving
        exact .inl ((givenId_setPhase serving (.closed _) rfl socket).symm.trans given)
      · rename_i closed
        exact .inl ((givenId_setPhase closed (.closed _) rfl socket).symm.trans given)
      · exact .inl given
  | finishRemoval index =>
      simp only [step, SignalingServer.finishRemoval] at given
      split at given <;> exact .inl given
  | stop => exact .inl given
  | registry _ _ => exact .inl given

theorem Exact.step (exact : server.Exact) (event : Event)
    (fresh : ∀ peerId ∈ event.drawnId, ∀ socket, server.givenId socket ≠ some peerId) :
    (step config ice server event).Exact := by
  cases event with
  | connect draw construction => exact exact.connect draw construction (fresh _ rfl)
  | store socket => exact exact.store socket
  | message socket text => exact exact.message socket text
  | hangUp socket => exact exact.hangUp socket
  | finishRemoval index => exact exact.finishRemoval index
  | stop => exact exact.of_same (fun _ => rfl) fun running => absurd running Bool.false_ne_true
  | registry _ _ => exact exact.of_same (fun _ => rfl) fun running => ⟨running, List.Subset.refl _⟩

theorem Exact.run : ∀ (events : List Event) {server : SignalingServer}, server.Exact →
    (events.filterMap Event.drawnId).Nodup →
    (∀ peerId ∈ events.filterMap Event.drawnId, ∀ socket, server.givenId socket ≠ some peerId) →
    (run config ice server events).Exact
  | [], _, exact, _, _ => exact
  | event :: rest, server, exact, distinct, fresh => by
      cases drawn : event.drawnId with
      | none =>
          simp only [List.filterMap_cons, drawn] at distinct fresh
          refine Exact.run rest (exact.step event (by simp [drawn])) distinct ?_
          intro peerId later socket given
          rcases givenId_step given with old | new
          · exact fresh peerId later socket old
          · rw [drawn] at new
            cases new
      | some peerId =>
          simp only [List.filterMap_cons, drawn, List.nodup_cons, List.mem_cons,
            forall_eq_or_imp] at distinct fresh
          refine Exact.run rest (exact.step event (by simpa [drawn] using fresh.1)) distinct.2 ?_
          intro other later socket given
          rcases givenId_step given with old | new
          · exact fresh.2 other later socket old
          · rw [drawn, Option.some.injEq] at new
            exact distinct.1 (new ▸ later)

end Exactness

/-- **While no id repeats, `clients_` is exact.** In every run in which no two browsers draw the
same peer id, until `stop`, `clients_` holds a session of a socket under an id exactly when
that socket's handlers are set, its close is not yet handled, and `create_peer` gave it that
id. -/
theorem clients_exact_while_ids_distinct (config : AppConfig) (ice : IceServers)
    (events : List Event) (distinct : (events.filterMap Event.drawnId).Nodup)
    (accepting : (run config ice init events).accepting = true) (socket : Nat) (peerId : List Char) :
    (peerId, socket) ∈ (run config ice init events).clients ↔
      phaseOf (run config ice init events) socket = some (.serving peerId) :=
  ⟨fun present => (Held.run events init_held).sessions _ present,
    (Exact.run events init_exact distinct fun _ _ _ given => by
      simp [givenId, phaseOf, init] at given).stored accepting socket peerId⟩

theorem clients_exact_for_two_browsers :
    ([Event.connect 1 (.succeeds 0), .store 0, .connect 2 (.succeeds 0), .store 1].filterMap
        Event.drawnId).Nodup ∧
      (run {} {} init [.connect 1 (.succeeds 0), .store 0, .connect 2 (.succeeds 0), .store 1]).accepting = true ∧
      ((generatePeerId 2, 1) ∈
          (run {} {} init [.connect 1 (.succeeds 0), .store 0, .connect 2 (.succeeds 0), .store 1]).clients ↔
        phaseOf (run {} {} init [.connect 1 (.succeeds 0), .store 0, .connect 2 (.succeeds 0), .store 1]) 1 =
          some (.serving (generatePeerId 2))) :=
  have distinct : ([Event.connect 1 (.succeeds 0), .store 0, .connect 2 (.succeeds 0), .store 1].filterMap
      Event.drawnId).Nodup := by decide
  ⟨distinct, rfl, clients_exact_while_ids_distinct {} {} _ distinct rfl 1 (generatePeerId 2)⟩

/-- A repeated draw breaks it: the first browser's hang-up erases the session of the second,
which still serves. -/
example :
    phaseOf (run {} {} init [.connect 7 (.succeeds 0), .store 0, .connect 7 (.succeeds 0), .store 1,
        .hangUp 0]) 1 = some (.serving (generatePeerId 7)) ∧
      (run {} {} init [.connect 7 (.succeeds 0), .store 0, .connect 7 (.succeeds 0), .store 1,
        .hangUp 0]).clients = [] := by
  decide

/-! ## The registry's steps -/

/-- The registry step a call of `on_client_message` makes. -/
def Action.registryEvent : Action → Option WebRtcServer.Event
  | .handleAnswer peerId _ => some (.handleAnswer peerId)
  | _ => none

/-- The registry steps one step makes, in order. -/
def registryEvents (server : SignalingServer) : Event → List WebRtcServer.Event
  | .connect draw construction => if server.accepting then [.createPeer draw construction] else []
  | .message socket text =>
      match phaseOf server socket with
      | some (.serving peerId) => (onClientMessage peerId text).filterMap Action.registryEvent
      | _ => []
  | .finishRemoval index =>
      match server.removals[index]? with
      | some peerId => [.removePeer peerId]
      | none => []
  | .registry event _ => [event]
  | _ => []

/-- The registry steps of a run. -/
def registryRun (config : AppConfig) (ice : IceServers) :
    SignalingServer → List Event → List WebRtcServer.Event
  | _, [] => []
  | server, event :: rest =>
      registryEvents server event ++ registryRun config ice (step config ice server event) rest

section Projection

variable (config : AppConfig) (ice : IceServers)

theorem foldl_perform_registry (socket : Nat) :
    ∀ (actions : List Action) (server : SignalingServer),
      (actions.foldl (perform socket) server).registry =
        WebRtcServer.run config server.registry (actions.filterMap Action.registryEvent)
  | [], _ => rfl
  | .handleAnswer .. :: rest, _ => foldl_perform_registry socket rest _
  | .handleCandidate .. :: rest, _ => foldl_perform_registry socket rest _
  | .send _ :: rest, _ => foldl_perform_registry socket rest _

theorem step_registry (server : SignalingServer) :
    ∀ event, (step config ice server event).registry =
      WebRtcServer.run config server.registry (registryEvents server event)
  | .connect draw construction => by
      simp only [step, SignalingServer.connect, registryEvents]
      split <;> rfl
  | .store socket => by
      simp only [step, SignalingServer.store]
      split <;> rfl
  | .message socket text => by
      simp only [step, SignalingServer.message, registryEvents]
      split
      · exact foldl_perform_registry config _ _ _
      · rfl
  | .hangUp socket => by
      simp only [step, SignalingServer.hangUp]
      split <;> rfl
  | .finishRemoval index => by
      simp only [step, SignalingServer.finishRemoval, registryEvents]
      split <;> rfl
  | .stop => rfl
  | .registry _ _ => rfl

/-- The signaling server's registry runs the registry's own steps. -/
theorem run_registry :
    ∀ (server : SignalingServer) (events : List Event),
      (run config ice server events).registry =
        WebRtcServer.run config server.registry (registryRun config ice server events)
  | _, [] => rfl
  | server, event :: rest => by
      rw [run, registryRun, WebRtcServer.run_append, run_registry _ rest, step_registry]

end Projection

/-- **The registry's invariants hold for the whole server.** However the browsers' handlers
interleave with each other and with the other threads, the registry keeps at most
`max(max_peers, 0)` peers, under distinct ids, with distinct serials and each SSRC `42` plus
the serial modulo `2 ^ 32`. -/
theorem registry_wellFormed_in_every_run (config : AppConfig) (ice : IceServers)
    (events : List Event) :
    let registry := (run config ice init events).registry
    (registry.peers.length : Int) ≤ max config.webrtc.maxPeers.val 0 ∧ registry.WellFormed := by
  intro registry
  rw [show registry = _ from run_registry config ice init events]
  exact ⟨WebRtcServer.run_capped config _ (by simp [WebRtcServer.Capped, init, WebRtcServer.init]),
    WebRtcServer.run_wellFormed config _ WebRtcServer.init_wellFormed⟩

end SignalingServer

end StreamServer

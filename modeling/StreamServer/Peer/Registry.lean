import StreamServer.Config
import StreamServer.Peer.Connection

/-! # The peer registry

`WebRtcServer` keeps `peers_`, a `std::unordered_map` from peer ids to `PeerConnection`
objects, as the list of its entries; the standard leaves the map's iteration order unspecified,
and the list stands for one such order, in which a new key is put last. Beside it is the
process-wide counter `next_ssrc_` from which every constructed peer
draws its SSRC (`StreamServer.WebRtcServer`). Every registry operation holds `peers_mutex_`,
so a run is a sequence of whole operations, interleaved with the callbacks the WebRTC stack
makes on a peer object (`StreamServer.WebRtcServer.Event`).

`create_peer` refuses once the map holds `max_peers` entries, draws a random id and stores
the new peer under it with `peers_[peer_id] = peer`, which replaces a live entry of the same
id (`StreamServer.WebRtcServer.createPeer`). `broadcast_nal` hands the buffer to each entry
that reports connected, and the calls it makes form the trace of a run
(`StreamServer.WebRtcServer.trace`).
-/

namespace StreamServer

/-- `generate_peer_id`: `peer-` and the drawn value in eight lower-case hex digits. -/
def generatePeerId (draw : UInt32) : List Char :=
  "peer-".toList ++ List.leftpad 8 '0' (Nat.toDigits 16 draw.toNat)

/-- How the `PeerConnection` constructor ends inside `create_peer`. -/
inductive Construction
  /-- It returns; `startTimestamp` is the random start of the RTP clock. -/
  | succeeds (startTimestamp : Nat)
  /-- An allocation or a member initializer throws before `next_ssrc_.fetch_add`. -/
  | throwsBeforeSsrc
  /-- `setup_connection` throws, after the SSRC was drawn. -/
  | throwsAfterSsrc
deriving DecidableEq, Repr

/-- The registry's state, with the process-wide SSRC counter. -/
structure WebRtcServer where
  peers : List (List Char × PeerConnection)
  /-- `PeerConnection::next_ssrc_`, a `std::atomic<uint32_t>`. -/
  nextSsrc : Nat
  /-- How many constructions have drawn from `next_ssrc_`. -/
  ssrcDraws : Nat
deriving DecidableEq, Repr

namespace WebRtcServer

/-- The registry before the first connection: `next_ssrc_` starts at 42. -/
def init : WebRtcServer where
  peers := []
  nextSsrc := 42
  ssrcDraws := 0

/-- `peers_[key] = peer`: the entry of the key is replaced in place, or one is added. -/
def assignPeer (peers : List (List Char × PeerConnection)) (key : List Char)
    (peer : PeerConnection) : List (List Char × PeerConnection) :=
  if peers.any (·.1 = key) then peers.map fun entry => if entry.1 = key then (key, peer) else entry
  else peers ++ [(key, peer)]

/-- `peers_.erase(key)`. -/
def erasePeer (peers : List (List Char × PeerConnection)) (key : List Char) :
    List (List Char × PeerConnection) :=
  peers.filter (·.1 ≠ key)

/-- A change to the object stored under a key, as `it->second->...` makes it. -/
def updateKey (peers : List (List Char × PeerConnection)) (key : List Char)
    (change : PeerConnection → PeerConnection) : List (List Char × PeerConnection) :=
  peers.map fun entry => if entry.1 = key then (entry.1, change entry.2) else entry

/-- A callback of the WebRTC stack on the object with this serial. -/
def updateSerial (peers : List (List Char × PeerConnection)) (serial : Nat)
    (change : PeerConnection → PeerConnection) : List (List Char × PeerConnection) :=
  peers.map fun entry => if entry.2.serial = serial then (entry.1, change entry.2) else entry

/-- `create_peer`: the new state and the returned id, empty when the peer is refused or its
construction throws. `static_cast<int>(peers_.size())` is compared with `max_peers`. -/
def createPeer (config : AppConfig) (server : WebRtcServer) (draw : UInt32)
    (construction : Construction) : WebRtcServer × List Char :=
  if intOfSize server.peers.length ≥ config.webrtc.maxPeers.val then (server, [])
  else
    let peerId := generatePeerId draw
    let drawn := { server with
      nextSsrc := (server.nextSsrc + 1) % 2 ^ 32, ssrcDraws := server.ssrcDraws + 1 }
    match construction with
    | .throwsBeforeSsrc => (server, [])
    | .throwsAfterSsrc => (drawn, [])
    | .succeeds startTimestamp =>
        let peer := PeerConnection.create server.ssrcDraws peerId server.nextSsrc startTimestamp
        ({ drawn with peers := assignPeer server.peers peerId peer }, peerId)

/-- `remove_peer`. -/
def removePeer (server : WebRtcServer) (peerId : List Char) : WebRtcServer :=
  { server with peers := erasePeer server.peers peerId }

/-- `handle_answer` on the registry. -/
def handleAnswer (server : WebRtcServer) (peerId : List Char) : WebRtcServer :=
  { server with peers := updateKey server.peers peerId PeerConnection.handleAnswer }

/-- The body of `broadcast_nal`'s loop on one peer; `failing` lists the serials whose
`video_track_->send` throws. -/
def broadcastTo (nal : Nal) (failing : List Nat) (peer : PeerConnection) : PeerConnection :=
  if peer.connected then peer.sendH264Nal nal (peer.serial ∈ failing) else peer

/-- A broadcast keeps each object's serial and SSRC. -/
theorem broadcastTo_frame (nal : Nal) (failing : List Nat) (peer : PeerConnection) :
    (broadcastTo nal failing peer).serial = peer.serial ∧
      (broadcastTo nal failing peer).ssrc = peer.ssrc := by
  unfold broadcastTo
  split
  · exact ⟨(peer.sendH264Nal_frame nal _).1, (peer.sendH264Nal_frame nal _).2.2.1⟩
  · exact ⟨rfl, rfl⟩

/-- `broadcast_nal`. -/
def broadcastNal (server : WebRtcServer) (nal : Nal) (failing : List Nat) : WebRtcServer :=
  { server with peers := server.peers.map fun entry => (entry.1, broadcastTo nal failing entry.2) }

/-- One call of `send_h264_nal`: the object called, the buffer, and whether the guard passed
and `video_track_->send` returned. -/
structure Handoff where
  serial : Nat
  nal : Nal
  sent : Bool
deriving DecidableEq, Repr

/-- The calls of `send_h264_nal` that `broadcast_nal` makes, in the map's order. -/
def broadcastCalls (server : WebRtcServer) (nal : Nal) (failing : List Nat) : List Handoff :=
  server.peers.filterMap fun entry =>
    if entry.2.connected then
      some ⟨entry.2.serial, nal, entry.2.passesGuard && !decide (entry.2.serial ∈ failing)⟩
    else none

/-- One pass of `cleanup_loop` over the map: closed peers are erased. -/
def cleanupPass (server : WebRtcServer) : WebRtcServer :=
  { server with peers := server.peers.filter fun entry => !entry.2.closed }

/-- `stop`: the reaper is joined and the map cleared. -/
def stop (server : WebRtcServer) : WebRtcServer :=
  { server with peers := [] }

/-- The steps of a run: registry operations, each atomic under `peers_mutex_`, and the
stack's callbacks on one peer object. -/
inductive Event
  | createPeer (draw : UInt32) (construction : Construction)
  | removePeer (peerId : List Char)
  | handleAnswer (peerId : List Char)
  | broadcastNal (nal : Nal) (failing : List Nat)
  | cleanupPass
  | stop
  | stateChange (serial : Nat) (state : PeerState)
  | trackOpened (serial : Nat)
  | trackClosed (serial : Nat)
deriving DecidableEq, Repr

/-- One step. -/
def step (config : AppConfig) (server : WebRtcServer) : Event → WebRtcServer
  | .createPeer draw construction => (createPeer config server draw construction).1
  | .removePeer peerId => removePeer server peerId
  | .handleAnswer peerId => handleAnswer server peerId
  | .broadcastNal nal failing => broadcastNal server nal failing
  | .cleanupPass => cleanupPass server
  | .stop => stop server
  | .stateChange serial state =>
      { server with peers := updateSerial server.peers serial (·.onStateChange state) }
  | .trackOpened serial => { server with peers := updateSerial server.peers serial (·.onTrackOpen) }
  | .trackClosed serial =>
      { server with peers := updateSerial server.peers serial (·.onTrackClosed) }

/-- The calls of `send_h264_nal` one step makes. -/
def calls (server : WebRtcServer) : Event → List Handoff
  | .broadcastNal nal failing => broadcastCalls server nal failing
  | _ => []

/-- The state after a run. -/
def run (config : AppConfig) : WebRtcServer → List Event → WebRtcServer
  | server, [] => server
  | server, event :: rest => run config (step config server event) rest

/-- The calls of `send_h264_nal` over a run, in order. -/
def trace (config : AppConfig) : WebRtcServer → List Event → List Handoff
  | _, [] => []
  | server, event :: rest => calls server event ++ trace config (step config server event) rest

/-! ## The map operations -/

theorem mem_assignPeer {peers : List (List Char × PeerConnection)} {key : List Char}
    {peer : PeerConnection} {entry : List Char × PeerConnection} :
    entry ∈ assignPeer peers key peer ↔ entry = (key, peer) ∨ (entry ∈ peers ∧ entry.1 ≠ key) := by
  unfold assignPeer
  split
  · rename_i present
    obtain ⟨old, member, named⟩ := List.any_eq_true.mp present
    simp only [List.mem_map]
    constructor
    · rintro ⟨other, member', rfl⟩
      split <;> simp_all
    · rintro (rfl | ⟨member', differ⟩)
      · exact ⟨old, member, by simp_all⟩
      · exact ⟨entry, member', by simp [differ]⟩
  · rename_i absent
    simp only [List.any_eq_true, not_exists, not_and, decide_eq_true_eq] at absent
    rw [List.mem_append, List.mem_singleton, or_comm, and_iff_left_of_imp (absent entry)]

/-- With distinct keys, `peers_[key] = peer` is erasing the key and adding the entry, up to
the iteration order. -/
theorem assignPeer_perm {peers : List (List Char × PeerConnection)} {key : List Char}
    (peer : PeerConnection) (distinct : (peers.map (·.1)).Nodup) :
    (assignPeer peers key peer).Perm (erasePeer peers key ++ [(key, peer)]) := by
  induction peers with
  | nil => simp [assignPeer, erasePeer]
  | cons head rest ih =>
      simp only [List.map_cons, List.nodup_cons, List.mem_map] at distinct
      by_cases same : head.1 = key
      · have absent : ∀ entry ∈ rest, entry.1 ≠ key := fun entry member named =>
          distinct.1 ⟨entry, member, named.trans same.symm⟩
        have kept : rest.map (fun entry => if entry.1 = key then (key, peer) else entry) = rest :=
          (List.map_congr_left fun entry member => by simp [absent entry member]).trans
            (List.map_id _)
        have assigned : assignPeer (head :: rest) key peer = (key, peer) :: rest := by
          simp [assignPeer, same, kept]
        have erased : erasePeer (head :: rest) key = rest := by
          rw [erasePeer, List.filter_cons_of_neg (by simp [same])]
          exact List.filter_eq_self.mpr fun entry member => by simpa using absent entry member
        rw [assigned, erased]
        exact (List.perm_append_singleton _ _).symm
      · have step : assignPeer (head :: rest) key peer = head :: assignPeer rest key peer := by
          unfold assignPeer
          by_cases present : rest.any (·.1 = key) <;> simp [same, present]
        rw [step, erasePeer, List.filter_cons_of_pos (by simpa using same)]
        exact (ih distinct.2).cons head

theorem assignPeer_of_absent {peers : List (List Char × PeerConnection)} {key : List Char}
    (peer : PeerConnection) (absent : key ∉ peers.map (·.1)) :
    assignPeer peers key peer = peers ++ [(key, peer)] := by
  rw [assignPeer, if_neg]
  simpa using absent

theorem length_assignPeer_of_mem {peers : List (List Char × PeerConnection)} {key : List Char}
    (peer : PeerConnection) (present : key ∈ peers.map (·.1)) :
    (assignPeer peers key peer).length = peers.length := by
  rw [assignPeer, if_pos (by simpa using present), List.length_map]

theorem erasePeer_append_of_absent {peers : List (List Char × PeerConnection)} {key : List Char}
    (peer : PeerConnection) (absent : key ∉ peers.map (·.1)) :
    erasePeer (peers ++ [(key, peer)]) key = peers := by
  simp only [List.mem_map, not_exists, not_and] at absent
  simpa [erasePeer, List.filter_eq_self] using fun entry member => absent entry member

/-! ## Admission -/

/-- Below the cap, a construction that returns stores the new peer under the drawn id. -/
theorem createPeer_of_room {config : AppConfig} {server : WebRtcServer} (draw : UInt32)
    (startTimestamp : Nat) (room : intOfSize server.peers.length < config.webrtc.maxPeers.val) :
    createPeer config server draw (.succeeds startTimestamp) =
      ({ server with
          nextSsrc := (server.nextSsrc + 1) % 2 ^ 32, ssrcDraws := server.ssrcDraws + 1
          peers := assignPeer server.peers (generatePeerId draw)
            (PeerConnection.create server.ssrcDraws (generatePeerId draw) server.nextSsrc
              startTimestamp) },
        generatePeerId draw) := by
  rw [createPeer, if_neg (not_le.mpr room)]

/-- Every outcome of `create_peer`: nothing changes, one SSRC is drawn, or one is drawn and the
new object stored under the drawn id. -/
theorem createPeer_cases (config : AppConfig) (server : WebRtcServer) (draw : UInt32)
    (construction : Construction) :
    let drawn := { server with
      nextSsrc := (server.nextSsrc + 1) % 2 ^ 32, ssrcDraws := server.ssrcDraws + 1 }
    (createPeer config server draw construction).1 = server ∨
      (createPeer config server draw construction).1 = drawn ∨
      ∃ startTimestamp, intOfSize server.peers.length < config.webrtc.maxPeers.val ∧
        (createPeer config server draw construction).1 = { drawn with
          peers := assignPeer server.peers (generatePeerId draw)
            (PeerConnection.create server.ssrcDraws (generatePeerId draw) server.nextSsrc
              startTimestamp) } := by
  intro drawn
  unfold createPeer
  split
  · exact .inl rfl
  · rename_i room
    cases construction with
    | throwsBeforeSsrc => exact .inl rfl
    | throwsAfterSsrc => exact .inr (.inl rfl)
    | succeeds startTimestamp => exact .inr (.inr ⟨startTimestamp, lt_of_not_le room, rfl⟩)

/-- A `create_peer` that returns an id was below the cap, and its construction returned. -/
theorem createPeer_of_returned {config : AppConfig} {server : WebRtcServer} {draw : UInt32}
    {construction : Construction} (returned : (createPeer config server draw construction).2 ≠ []) :
    ∃ startTimestamp, construction = .succeeds startTimestamp ∧
      intOfSize server.peers.length < config.webrtc.maxPeers.val := by
  unfold createPeer at returned
  split at returned
  · exact absurd rfl returned
  · cases construction with
    | succeeds startTimestamp => exact ⟨startTimestamp, rfl, lt_of_not_le ‹_›⟩
    | _ => exact absurd rfl returned

theorem run_append (config : AppConfig) (server : WebRtcServer) (first second : List Event) :
    run config server (first ++ second) = run config (run config server first) second := by
  induction first generalizing server with
  | nil => rfl
  | cons event rest ih => exact ih _

theorem trace_append (config : AppConfig) (server : WebRtcServer) (first second : List Event) :
    trace config server (first ++ second) =
      trace config server first ++ trace config (run config server first) second := by
  induction first generalizing server with
  | nil => rfl
  | cons event rest ih => rw [List.cons_append, trace, trace, ih, run, List.append_assoc]

end WebRtcServer

end StreamServer

import StreamServer.Peer.Registry
import Mathlib.Data.List.Nodup

/-! # What every run of the registry keeps

Every reachable registry has distinct keys, distinct object serials, serials below the number
of SSRC draws, and the SSRC of each object is `42` plus its serial modulo `2 ^ 32`
(`StreamServer.WebRtcServer.WellFormed`, kept by every step:
`StreamServer.WebRtcServer.run_wellFormed`). It never holds more than `max(max_peers, 0)`
entries (`StreamServer.WebRtcServer.run_capped`).

`create_peer` stores its peer under the drawn id whether or not that id is live
(`StreamServer.WebRtcServer.createPeer_peers_perm`), so a repeated draw displaces a live peer
(`StreamServer.WebRtcServer.createPeer_of_repeated`). Two live peers
share an SSRC exactly when their draws are a multiple of `2 ^ 32` apart
(`StreamServer.WebRtcServer.WellFormed.ssrc_eq_iff`): the SSRCs of the map are distinct in
every run of at most `2 ^ 32` draws, and a longer run of admissions and removals
(`StreamServer.WebRtcServer.churn`) can repeat the SSRC of a live peer.
-/

namespace StreamServer

namespace WebRtcServer

/-- The shape of every reachable registry. -/
structure WellFormed (server : WebRtcServer) : Prop where
  keysNodup : (server.peers.map (·.1)).Nodup
  serialsNodup : (server.peers.map (·.2.serial)).Nodup
  serialBelow : ∀ entry ∈ server.peers, entry.2.serial < server.ssrcDraws
  ssrcOfSerial : ∀ entry ∈ server.peers, entry.2.ssrc = (42 + entry.2.serial) % 2 ^ 32
  nextSsrcOfDraws : server.nextSsrc = (42 + server.ssrcDraws) % 2 ^ 32

theorem init_wellFormed : init.WellFormed where
  keysNodup := List.nodup_nil
  serialsNodup := List.nodup_nil
  serialBelow := by simp [init]
  ssrcOfSerial := by simp [init]
  nextSsrcOfDraws := rfl

/-- An operation that changes each object in place, keeping its key, serial and SSRC, keeps
the shape. -/
theorem WellFormed.map {server : WebRtcServer} (wf : server.WellFormed)
    (change : List Char × PeerConnection → List Char × PeerConnection)
    (keepsKey : ∀ entry, (change entry).1 = entry.1)
    (keepsSerial : ∀ entry, (change entry).2.serial = entry.2.serial)
    (keepsSsrc : ∀ entry, (change entry).2.ssrc = entry.2.ssrc) :
    { server with peers := server.peers.map change }.WellFormed where
  keysNodup := by simpa [Function.comp_def, keepsKey] using wf.keysNodup
  serialsNodup := by simpa [Function.comp_def, keepsSerial] using wf.serialsNodup
  serialBelow := by
    intro changed member
    obtain ⟨entry, present, rfl⟩ := List.mem_map.mp member
    exact (keepsSerial entry).symm ▸ wf.serialBelow entry present
  ssrcOfSerial := by
    intro changed member
    obtain ⟨entry, present, rfl⟩ := List.mem_map.mp member
    rw [keepsSerial, keepsSsrc]
    exact wf.ssrcOfSerial entry present
  nextSsrcOfDraws := wf.nextSsrcOfDraws

/-- Dropping entries keeps the shape. -/
theorem WellFormed.sublist {server : WebRtcServer} (wf : server.WellFormed)
    {peers : List (List Char × PeerConnection)} (kept : peers.Sublist server.peers) :
    { server with peers := peers }.WellFormed where
  keysNodup := wf.keysNodup.sublist (kept.map _)
  serialsNodup := wf.serialsNodup.sublist (kept.map _)
  serialBelow := fun entry member => wf.serialBelow entry (kept.subset member)
  ssrcOfSerial := fun entry member => wf.ssrcOfSerial entry (kept.subset member)
  nextSsrcOfDraws := wf.nextSsrcOfDraws

/-- One more draw of `next_ssrc_`, with no new entry, keeps the shape. -/
theorem WellFormed.draw {server : WebRtcServer} (wf : server.WellFormed) :
    { server with
      nextSsrc := (server.nextSsrc + 1) % 2 ^ 32, ssrcDraws := server.ssrcDraws + 1 }.WellFormed where
  keysNodup := wf.keysNodup
  serialsNodup := wf.serialsNodup
  serialBelow := fun entry member => Nat.lt_succ_of_lt (wf.serialBelow entry member)
  ssrcOfSerial := wf.ssrcOfSerial
  nextSsrcOfDraws := by simp only [wf.nextSsrcOfDraws]; omega

/-- Under distinct keys, `peers_[key] = peer` keeps a projection of the entries distinct when
the new entry's differs from those of the entries the assignment keeps. -/
theorem nodup_map_assignPeer {β : Type} (f : List Char × PeerConnection → β)
    {peers : List (List Char × PeerConnection)} {key : List Char} {peer : PeerConnection}
    (distinct : (peers.map (·.1)).Nodup) (nodup : (peers.map f).Nodup)
    (fresh : ∀ entry ∈ erasePeer peers key, f entry ≠ f (key, peer)) :
    ((assignPeer peers key peer).map f).Nodup := by
  rw [((assignPeer_perm peer distinct).map f).nodup_iff, List.map_append, List.nodup_append]
  refine ⟨nodup.sublist ((List.filter_sublist _).map f), List.nodup_singleton _, ?_⟩
  simpa [List.disjoint_singleton] using fresh

/-- Storing a freshly drawn peer under any key keeps the shape. -/
theorem WellFormed.assign {server : WebRtcServer} (wf : server.WellFormed) (key : List Char)
    (peerId : List Char) (startTimestamp : Nat) :
    { server with
      nextSsrc := (server.nextSsrc + 1) % 2 ^ 32, ssrcDraws := server.ssrcDraws + 1
      peers := assignPeer server.peers key
        (PeerConnection.create server.ssrcDraws peerId server.nextSsrc startTimestamp) }.WellFormed := by
  set peer := PeerConnection.create server.ssrcDraws peerId server.nextSsrc startTimestamp
  refine ⟨nodup_map_assignPeer _ wf.keysNodup wf.keysNodup fun entry member => ?_,
    nodup_map_assignPeer _ wf.keysNodup wf.serialsNodup fun entry member =>
      (wf.serialBelow entry (List.mem_of_mem_filter member)).ne, ?_, ?_, wf.draw.nextSsrcOfDraws⟩
  · simpa using (List.mem_filter.mp member).2
  · intro entry member
    rcases mem_assignPeer.mp member with rfl | ⟨old, -⟩
    · simp [peer, PeerConnection.create]
    · exact Nat.lt_succ_of_lt (wf.serialBelow entry old)
  · intro entry member
    rcases mem_assignPeer.mp member with rfl | ⟨old, -⟩
    · show server.nextSsrc = (42 + server.ssrcDraws) % 2 ^ 32
      exact wf.nextSsrcOfDraws
    · exact wf.ssrcOfSerial entry old

theorem createPeer_wellFormed (config : AppConfig) {server : WebRtcServer}
    (wf : server.WellFormed) (draw : UInt32) (construction : Construction) :
    (createPeer config server draw construction).1.WellFormed := by
  rcases createPeer_cases config server draw construction with
    same | drawn | ⟨startTimestamp, -, stored⟩
  · rwa [same]
  · rw [drawn]
    exact wf.draw
  · rw [stored]
    exact wf.assign _ _ startTimestamp

/-- A callback on the object with a serial that keeps its serial and SSRC keeps the shape. -/
theorem WellFormed.updateSerial {server : WebRtcServer} (wf : server.WellFormed) (serial : Nat)
    {change : PeerConnection → PeerConnection}
    (keepsSerial : ∀ peer, (change peer).serial = peer.serial)
    (keepsSsrc : ∀ peer, (change peer).ssrc = peer.ssrc) :
    { server with peers := updateSerial server.peers serial change }.WellFormed :=
  wf.map _ (fun _ => by split <;> rfl) (fun entry => by split; exacts [keepsSerial entry.2, rfl])
    (fun entry => by split; exacts [keepsSsrc entry.2, rfl])

/-- A change to the object under a key that keeps its serial and SSRC keeps the shape. -/
theorem WellFormed.updateKey {server : WebRtcServer} (wf : server.WellFormed) (key : List Char)
    {change : PeerConnection → PeerConnection}
    (keepsSerial : ∀ peer, (change peer).serial = peer.serial)
    (keepsSsrc : ∀ peer, (change peer).ssrc = peer.ssrc) :
    { server with peers := updateKey server.peers key change }.WellFormed :=
  wf.map _ (fun _ => by split <;> rfl) (fun entry => by split; exacts [keepsSerial entry.2, rfl])
    (fun entry => by split; exacts [keepsSsrc entry.2, rfl])

/-- Every step keeps the shape. -/
theorem step_wellFormed (config : AppConfig) {server : WebRtcServer} (wf : server.WellFormed) :
    ∀ event, (step config server event).WellFormed
  | .createPeer draw construction => createPeer_wellFormed config wf draw construction
  | .removePeer _ => wf.sublist (List.filter_sublist _)
  | .handleAnswer _ => wf.updateKey _ (fun _ => rfl) (fun _ => rfl)
  | .broadcastNal nal failing => wf.map _ (fun _ => rfl)
      (fun entry => (broadcastTo_frame nal failing entry.2).1)
      (fun entry => (broadcastTo_frame nal failing entry.2).2)
  | .cleanupPass => wf.sublist (List.filter_sublist _)
  | .stop => wf.sublist (List.nil_sublist _)
  | .stateChange _ _ => wf.updateSerial _ (fun _ => rfl) (fun _ => rfl)
  | .trackOpened _ => wf.updateSerial _ (fun _ => rfl) (fun _ => rfl)
  | .trackClosed _ => wf.updateSerial _ (fun _ => rfl) (fun _ => rfl)

/-- Every run keeps the shape. -/
theorem run_wellFormed (config : AppConfig) :
    ∀ {server : WebRtcServer} (events : List Event), server.WellFormed →
      (run config server events).WellFormed
  | _, [], wf => wf
  | _, event :: rest, wf => run_wellFormed config rest (step_wellFormed config wf event)

/-! ## The admission cap -/

/-- At most `max(max_peers, 0)` entries. -/
def Capped (config : AppConfig) (server : WebRtcServer) : Prop :=
  (server.peers.length : Int) ≤ max config.webrtc.maxPeers.val 0

theorem assignPeer_length_le (peers : List (List Char × PeerConnection)) (key : List Char)
    (peer : PeerConnection) : (assignPeer peers key peer).length ≤ peers.length + 1 := by
  unfold assignPeer
  split <;> simp

/-- `create_peer` admits only below the cap: under the cap the cast of the size is exact. -/
theorem createPeer_capped (config : AppConfig) {server : WebRtcServer}
    (capped : Capped config server) (draw : UInt32) (construction : Construction) :
    Capped config (createPeer config server draw construction).1 := by
  rcases createPeer_cases config server draw construction with
    same | drawn | ⟨startTimestamp, room, stored⟩
  · rwa [same]
  · rw [drawn]
    exact capped
  · have below : server.peers.length < 2 ^ 31 := by
      have := config.webrtc.maxPeers.inRange
      unfold Capped at capped
      omega
    rw [intOfSize_of_lt below] at room
    have := assignPeer_length_le server.peers (generatePeerId draw)
      (PeerConnection.create server.ssrcDraws (generatePeerId draw) server.nextSsrc startTimestamp)
    rw [stored]
    unfold Capped
    dsimp only
    omega

theorem Capped.sublist {config : AppConfig} {server : WebRtcServer} (capped : Capped config server)
    {peers : List (List Char × PeerConnection)} (kept : peers.Sublist server.peers) :
    Capped config { server with peers := peers } := by
  have := kept.length_le
  unfold Capped at capped ⊢
  dsimp only
  omega

theorem Capped.map {config : AppConfig} {server : WebRtcServer} (capped : Capped config server)
    (change : List Char × PeerConnection → List Char × PeerConnection) :
    Capped config { server with peers := server.peers.map change } := by
  simpa [Capped] using capped

theorem step_capped (config : AppConfig) {server : WebRtcServer} (capped : Capped config server) :
    ∀ event, Capped config (step config server event)
  | .createPeer draw construction => createPeer_capped config capped draw construction
  | .removePeer _ => capped.sublist (List.filter_sublist _)
  | .handleAnswer _ => capped.map _
  | .broadcastNal _ _ => capped.map _
  | .cleanupPass => capped.sublist (List.filter_sublist _)
  | .stop => capped.sublist (List.nil_sublist _)
  | .stateChange _ _ => capped.map _
  | .trackOpened _ => capped.map _
  | .trackClosed _ => capped.map _

theorem run_capped (config : AppConfig) :
    ∀ {server : WebRtcServer} (events : List Event), Capped config server →
      Capped config (run config server events)
  | _, [], capped => capped
  | _, event :: rest, capped => run_capped config rest (step_capped config capped event)

/-- A refused or failed `create_peer` leaves the map as it was. -/
theorem createPeer_peers_of_refused {config : AppConfig} {server : WebRtcServer} {draw : UInt32}
    {construction : Construction} (refused : (createPeer config server draw construction).2 = []) :
    (createPeer config server draw construction).1.peers = server.peers := by
  unfold createPeer at refused ⊢
  split
  · rfl
  · rename_i room
    rw [if_neg room] at refused
    cases construction with
    | throwsBeforeSsrc => rfl
    | throwsAfterSsrc => rfl
    | succeeds _ => simp [generatePeerId] at refused

/-- **The admission cap.** Every run from the empty registry, whatever it admits, removes,
reaps or stops, keeps at most `max(max_peers, 0)` peers; and a `create_peer` that answers the
empty id, refused at the cap or failed in the constructor, leaves the map as it was. -/
theorem peers_within_cap (config : AppConfig) (events : List Event) :
    ((run config init events).peers.length : Int) ≤ max config.webrtc.maxPeers.val 0 ∧
      ∀ server draw construction, (createPeer config server draw construction).2 = [] →
        (createPeer config server draw construction).1.peers = server.peers :=
  ⟨run_capped config events (by simp [Capped, init]), fun _ _ _ => createPeer_peers_of_refused⟩

/-! ## What create_peer stores -/

/-- A `create_peer` that returns an id returns the drawn one. -/
theorem createPeer_returned {config : AppConfig} {server : WebRtcServer} {draw : UInt32}
    {construction : Construction} (returned : (createPeer config server draw construction).2 ≠ []) :
    (createPeer config server draw construction).2 = generatePeerId draw := by
  obtain ⟨startTimestamp, rfl, room⟩ := createPeer_of_returned returned
  rw [createPeer_of_room draw startTimestamp room]

/-- With distinct keys, a `create_peer` that returns an id has stored the object it constructed
under that id, in place of any live entry of the same id. -/
theorem createPeer_peers_perm {config : AppConfig} {server : WebRtcServer} {draw : UInt32}
    {construction : Construction} (distinct : (server.peers.map (·.1)).Nodup)
    (returned : (createPeer config server draw construction).2 ≠ []) :
    ∃ startTimestamp, construction = .succeeds startTimestamp ∧
      (createPeer config server draw construction).1.peers.Perm
        (erasePeer server.peers (generatePeerId draw) ++ [(generatePeerId draw,
          PeerConnection.create server.ssrcDraws (generatePeerId draw) server.nextSsrc startTimestamp)]) := by
  obtain ⟨startTimestamp, rfl, room⟩ := createPeer_of_returned returned
  rw [createPeer_of_room draw startTimestamp room]
  exact ⟨startTimestamp, rfl, assignPeer_perm _ distinct⟩

/-- Under an id that is not live, the new peer is one more entry, and erasing it restores the
map. -/
theorem createPeer_of_fresh {config : AppConfig} {server : WebRtcServer} {draw : UInt32}
    {construction : Construction} (fresh : generatePeerId draw ∉ server.peers.map (·.1))
    (returned : (createPeer config server draw construction).2 ≠ []) :
    (createPeer config server draw construction).1.peers.length = server.peers.length + 1 ∧
      (removePeer (createPeer config server draw construction).1 (generatePeerId draw)).peers =
        server.peers := by
  obtain ⟨startTimestamp, rfl, room⟩ := createPeer_of_returned returned
  rw [createPeer_of_room draw startTimestamp room]
  simp only [removePeer, assignPeer_of_absent _ fresh, erasePeer_append_of_absent _ fresh,
    List.length_append, List.length_singleton, and_true]

/-- Under a live id, the new peer takes the old entry's place: the map keeps its size, and the
object that was stored under the id, named by its serial, is no longer in it. -/
theorem createPeer_of_repeated {config : AppConfig} {server : WebRtcServer} {draw : UInt32}
    {construction : Construction} (wf : server.WellFormed)
    (live : generatePeerId draw ∈ server.peers.map (·.1))
    (returned : (createPeer config server draw construction).2 ≠ []) :
    (createPeer config server draw construction).1.peers.length = server.peers.length ∧
      ∀ entry ∈ server.peers, entry.1 = generatePeerId draw →
        entry.2.serial ∉ (createPeer config server draw construction).1.peers.map (·.2.serial) := by
  obtain ⟨startTimestamp, rfl, room⟩ := createPeer_of_returned returned
  rw [createPeer_of_room draw startTimestamp room]
  refine ⟨length_assignPeer_of_mem _ live, fun entry present named kept => ?_⟩
  obtain ⟨other, stored, same⟩ := List.mem_map.mp kept
  rcases mem_assignPeer.mp stored with rfl | ⟨old, differ⟩
  · -- The new object's serial counts the draws so far, above every live serial.
    exact (wf.serialBelow entry present).ne same.symm
  · exact differ (named ▸ congrArg (·.1) (List.inj_on_of_nodup_map wf.serialsNodup old present same))

/-- **What `create_peer` stores.** In every reachable registry, a `create_peer` that returns an
id returns the drawn id and stores the object it constructed under it, in place of any live
entry of that id. When the id was not live, the map grows by one entry and `remove_peer` on the
id restores it; when it was, the map keeps its size and the live object is displaced. -/
theorem createPeer_replaces_entry_of_id (config : AppConfig) (events : List Event)
    (draw : UInt32) (construction : Construction)
    (returned : (createPeer config (run config init events) draw construction).2 ≠ []) :
    let before := run config init events
    let after := (createPeer config before draw construction).1
    let peerId := generatePeerId draw
    (createPeer config before draw construction).2 = peerId ∧
      (∃ startTimestamp, construction = .succeeds startTimestamp ∧
        after.peers.Perm (erasePeer before.peers peerId ++
          [(peerId, PeerConnection.create before.ssrcDraws peerId before.nextSsrc startTimestamp)])) ∧
      (peerId ∉ before.peers.map (·.1) →
        after.peers.length = before.peers.length + 1 ∧ (removePeer after peerId).peers = before.peers) ∧
      (peerId ∈ before.peers.map (·.1) →
        after.peers.length = before.peers.length ∧
          ∀ entry ∈ before.peers, entry.1 = peerId → entry.2.serial ∉ after.peers.map (·.2.serial)) :=
  have wf := run_wellFormed config events init_wellFormed
  ⟨createPeer_returned returned, createPeer_peers_perm wf.keysNodup returned,
    fun fresh => createPeer_of_fresh fresh returned, fun live => createPeer_of_repeated wf live returned⟩

theorem createPeer_replaces_entry_on_repeated_draw :
    let before := run {} init [.createPeer 42 (.succeeds 0)]
    (createPeer {} before 42 (.succeeds 0)).2 ≠ [] ∧
      (generatePeerId 42 ∈ before.peers.map (·.1) →
        (createPeer {} before 42 (.succeeds 0)).1.peers.length = before.peers.length ∧
          ∀ entry ∈ before.peers, entry.1 = generatePeerId 42 →
            entry.2.serial ∉ (createPeer {} before 42 (.succeeds 0)).1.peers.map (·.2.serial)) :=
  ⟨by decide,
    (createPeer_replaces_entry_of_id {} [.createPeer 42 (.succeeds 0)] 42 (.succeeds 0) (by decide)).2.2.2⟩

/-- The draw repeats a live id: the returned id was a key before, the map does not grow, the
object it held (serial `0`) is replaced by the new one (serial `1`), and `remove_peer` on the id
leaves one entry fewer than before. -/
theorem createPeer_displaces_on_repeated_draw :
    let before := run {} init [.createPeer 42 (.succeeds 0)]
    let created := createPeer {} before 42 (.succeeds 0)
    created.2 = generatePeerId 42 ∧ created.2 ∈ before.peers.map (·.1) ∧
      before.peers.map (·.2.serial) = [0] ∧ created.1.peers.map (·.2.serial) = [1] ∧
      created.1.peers.length = before.peers.length ∧
      (removePeer created.1 created.2).peers.length + 1 = before.peers.length := by
  decide

/-! ## SSRCs -/

/-- Two peers of a well-formed map share an SSRC exactly when their serials agree modulo
`2 ^ 32`. -/
theorem WellFormed.ssrc_eq_iff {server : WebRtcServer} (wf : server.WellFormed)
    {first second : List Char × PeerConnection} (firstIn : first ∈ server.peers)
    (secondIn : second ∈ server.peers) :
    first.2.ssrc = second.2.ssrc ↔ first.2.serial % 2 ^ 32 = second.2.serial % 2 ^ 32 := by
  rw [wf.ssrcOfSerial first firstIn, wf.ssrcOfSerial second secondIn]
  omega

/-- With at most `2 ^ 32` draws, the SSRCs of the map are distinct. -/
theorem WellFormed.ssrcs_nodup {server : WebRtcServer} (wf : server.WellFormed)
    (few : server.ssrcDraws ≤ 2 ^ 32) : (server.peers.map (·.2.ssrc)).Nodup := by
  refine (wf.serialsNodup.of_map _).map_on fun first firstIn second secondIn same => ?_
  have := wf.serialBelow first firstIn
  have := wf.serialBelow second secondIn
  have := (wf.ssrc_eq_iff firstIn secondIn).mp same
  exact List.inj_on_of_nodup_map wf.serialsNodup firstIn secondIn (by omega)

/-- **Distinct SSRCs.** In every run from the empty registry that has drawn from `next_ssrc_`
at most `2 ^ 32` times, the peers present together have pairwise distinct SSRCs. -/
theorem ssrcs_distinct_of_draws_le (config : AppConfig) (events : List Event)
    (few : (run config init events).ssrcDraws ≤ 2 ^ 32) :
    ((run config init events).peers.map (·.2.ssrc)).Nodup :=
  (run_wellFormed config events init_wellFormed).ssrcs_nodup few

theorem ssrcs_distinct_of_two_admissions :
    (run {} init [.createPeer 1 (.succeeds 0), .createPeer 2 (.succeeds 0)]).ssrcDraws ≤ 2 ^ 32 ∧
      ((run {} init [.createPeer 1 (.succeeds 0), .createPeer 2 (.succeeds 0)]).peers.map
        (·.2.ssrc)).Nodup :=
  ⟨by decide, ssrcs_distinct_of_draws_le {} _ (by decide)⟩

/-- `count` rounds of admitting a peer under the id drawn from `draw` and removing it. -/
def churn (draw : UInt32) : Nat → List Event
  | 0 => []
  | count + 1 => .createPeer draw (.succeeds 0) :: .removePeer (generatePeerId draw) :: churn draw count

/-- Each round of `churn` leaves the map as it was and draws one SSRC. -/
theorem run_churn (config : AppConfig) (draw : UInt32) (count : Nat) {server : WebRtcServer}
    (room : intOfSize server.peers.length < config.webrtc.maxPeers.val)
    (fresh : generatePeerId draw ∉ server.peers.map (·.1)) (small : server.nextSsrc < 2 ^ 32) :
    run config server (churn draw count) = { server with
      nextSsrc := (server.nextSsrc + count) % 2 ^ 32, ssrcDraws := server.ssrcDraws + count } := by
  induction count generalizing server with
  | zero =>
      show server = _
      rw [Nat.add_zero, Nat.add_zero, Nat.mod_eq_of_lt small]
  | succ count ih =>
      have round : step config (step config server (.createPeer draw (.succeeds 0)))
          (.removePeer (generatePeerId draw)) = { server with
            nextSsrc := (server.nextSsrc + 1) % 2 ^ 32, ssrcDraws := server.ssrcDraws + 1 } := by
        simp only [step, createPeer_of_room draw 0 room, removePeer, assignPeer_of_absent _ fresh,
          erasePeer_append_of_absent _ fresh]
      simp only [churn, run, round]
      rw [ih]
      · simp only [WebRtcServer.mk.injEq, true_and]
        omega
      · exact room
      · exact fresh
      · exact Nat.mod_lt _ (by decide)

/-- A first peer, `2 ^ 32 - 1` admissions and removals of another, and a third admission: the
third peer draws the SSRC of the first, which is still live. -/
def ssrcWrapRun : List Event :=
  .createPeer 1 (.succeeds 0) :: churn 2 (2 ^ 32 - 1) ++ [.createPeer 3 (.succeeds 0)]

theorem ssrc_repeats_after_wrap : ¬ ((run {} init ssrcWrapRun).peers.map (·.2.ssrc)).Nodup := by
  have first : run {} init [.createPeer 1 (.succeeds 0)] =
      { peers := [(generatePeerId 1, PeerConnection.create 0 (generatePeerId 1) 42 0)],
        nextSsrc := 43, ssrcDraws := 1 } := by decide
  rw [ssrcWrapRun, List.cons_append, ← List.singleton_append, run_append, run_append, first,
    run_churn {} 2 _ (by decide) (by decide) (by decide)]
  decide

/-! ## The keys of the map -/

@[simp] theorem keys_updateKey (peers : List (List Char × PeerConnection)) (key : List Char)
    (change : PeerConnection → PeerConnection) :
    (updateKey peers key change).map (·.1) = peers.map (·.1) := by
  simp only [updateKey, List.map_map]
  exact List.map_congr_left fun entry _ => by simp only [Function.comp]; split <;> rfl

@[simp] theorem keys_updateSerial (peers : List (List Char × PeerConnection)) (serial : Nat)
    (change : PeerConnection → PeerConnection) :
    (updateSerial peers serial change).map (·.1) = peers.map (·.1) := by
  simp only [updateSerial, List.map_map]
  exact List.map_congr_left fun entry _ => by simp only [Function.comp]; split <;> rfl

/-- The keys after `create_peer`: those before, and the id it returns when it returns one. -/
theorem mem_keys_createPeer {config : AppConfig} {server : WebRtcServer} {draw : UInt32}
    {construction : Construction} {key : List Char}
    (member : key ∈ (createPeer config server draw construction).1.peers.map (·.1)) :
    key ∈ server.peers.map (·.1) ∨ (key = (createPeer config server draw construction).2 ∧ key ≠ []) := by
  by_cases refused : (createPeer config server draw construction).2 = []
  · rw [createPeer_peers_of_refused refused] at member
    exact .inl member
  · obtain ⟨startTimestamp, rfl, room⟩ := createPeer_of_returned refused
    rw [createPeer_of_room draw startTimestamp room] at member refused ⊢
    obtain ⟨entry, present, rfl⟩ := List.mem_map.mp member
    rcases mem_assignPeer.mp present with rfl | ⟨old, -⟩
    · exact .inr ⟨rfl, refused⟩
    · exact .inl (List.mem_map_of_mem _ old)

theorem mem_keys_removePeer {server : WebRtcServer} {peerId key : List Char}
    (member : key ∈ (removePeer server peerId).peers.map (·.1)) :
    key ∈ server.peers.map (·.1) ∧ key ≠ peerId := by
  simp only [removePeer, erasePeer, List.mem_map, List.mem_filter, decide_eq_true_eq] at member
  obtain ⟨entry, ⟨present, named⟩, rfl⟩ := member
  exact ⟨List.mem_map_of_mem _ present, named⟩

end WebRtcServer

end StreamServer

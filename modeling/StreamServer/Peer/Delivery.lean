import StreamServer.Peer.Invariants
import Mathlib.Algebra.BigOperators.Group.List

/-! # What each peer is sent

`broadcast_nal` walks the map under `peers_mutex_` and calls `send_h264_nal` on every entry
that reports connected. Read for one object, the calls of a run
(`StreamServer.WebRtcServer.trace`) are the buffers of the broadcasts that found that object in
the map and connected, in broadcast order and once each
(`StreamServer.WebRtcServer.foundNals`), because the serials of a reachable map are distinct.
The counters of every object in the map hold the number and the total size of the calls to it
that passed the guard and whose send returned, modulo `2 ^ 64`
(`StreamServer.WebRtcServer.Accounted`). The total that `get_stats` reports to the health check
is therefore the bytes sent to the objects still in the map, not all bytes sent since start
(`StreamServer.WebRtcServer.getStats_counts_registered`).
-/

namespace StreamServer

namespace WebRtcServer

/-- Whether a broadcast finds the object with this serial in the map and connected. -/
def foundConnected (server : WebRtcServer) (serial : Nat) : Bool :=
  server.peers.any fun entry => entry.2.serial = serial && entry.2.connected

/-- The buffer a step owes the object with this serial: a broadcast's buffer, when the
broadcast finds the object connected. -/
def foundNal (server : WebRtcServer) (serial : Nat) : Event → List Nal
  | .broadcastNal nal _ => if foundConnected server serial then [nal] else []
  | _ => []

/-- The buffers a run owes the object with this serial, in order. -/
def foundNals (config : AppConfig) (serial : Nat) : WebRtcServer → List Event → List Nal
  | _, [] => []
  | server, event :: rest =>
      foundNal server serial event ++ foundNals config serial (step config server event) rest

/-! ## One broadcast -/

theorem filter_serial_of_mem {peers : List (List Char × PeerConnection)}
    (distinct : (peers.map (·.2.serial)).Nodup) {entry : List Char × PeerConnection}
    (member : entry ∈ peers) : peers.filter (·.2.serial = entry.2.serial) = [entry] := by
  induction peers with
  | nil => cases member
  | cons head rest ih =>
      simp only [List.map_cons, List.nodup_cons, List.mem_map, not_exists, not_and] at distinct
      rcases List.mem_cons.mp member with rfl | inRest
      · rw [List.filter_cons_of_pos (by simp), List.filter_eq_nil_iff.mpr]
        exact fun other present same => distinct.1 other present (of_decide_eq_true same)
      · have differ : head.2.serial ≠ entry.2.serial := fun same =>
          distinct.1 entry inRest same.symm
        rw [List.filter_cons_of_neg (by simpa using differ), ih distinct.2 inRest]

/-- The calls a broadcast makes to one serial are the broadcast over the entries of that
serial. -/
theorem broadcastCalls_filter_serial (server : WebRtcServer) (nal : Nal) (failing : List Nat)
    (serial : Nat) :
    (broadcastCalls server nal failing).filter (·.serial = serial) =
      broadcastCalls { server with peers := server.peers.filter (·.2.serial = serial) } nal
        failing := by
  simp only [broadcastCalls, List.filter_filterMap, List.filterMap_filter]
  congr
  funext entry
  by_cases same : entry.2.serial = serial <;> by_cases up : entry.2.connected <;>
    simp [same, up, Option.filter]

/-- With distinct serials, one step hands the object with this serial what the step owes it. -/
theorem calls_filter_serial {server : WebRtcServer}
    (distinct : (server.peers.map (·.2.serial)).Nodup) (serial : Nat) :
    ∀ event, ((calls server event).filter (·.serial = serial)).map (·.nal) =
      foundNal server serial event
  | .broadcastNal nal failing => by
      rw [calls, foundNal, foundConnected, ← List.any_filter, broadcastCalls_filter_serial]
      by_cases present : ∃ entry ∈ server.peers, entry.2.serial = serial
      · obtain ⟨entry, member, rfl⟩ := present
        rw [filter_serial_of_mem distinct member]
        cases up : entry.2.connected <;> simp [broadcastCalls, up]
      · rw [List.filter_eq_nil_iff.mpr (by simpa using present)]
        rfl
  | .createPeer _ _ | .removePeer _ | .handleAnswer _ | .cleanupPass | .stop | .stateChange _ _
  | .trackOpened _ | .trackClosed _ => rfl

/-- Over a run from a well-formed registry, the object with each serial is handed exactly the
buffers the run owes it, in order. -/
theorem trace_filter_serial (config : AppConfig) (serial : Nat) :
    ∀ {server : WebRtcServer} (events : List Event), server.WellFormed →
      ((trace config server events).filter (·.serial = serial)).map (·.nal) =
        foundNals config serial server events
  | _, [], _ => rfl
  | _, event :: rest, wf => by
      rw [trace, foundNals, List.filter_append, List.map_append,
        calls_filter_serial wf.serialsNodup serial event,
        trace_filter_serial config serial rest (step_wellFormed config wf event)]

/-- The buffer a step broadcasts. -/
def Event.broadcastBuffer : Event → Option Nal
  | .broadcastNal nal _ => some nal
  | _ => none

/-- The buffers a run owes an object are some of the run's broadcasts, in order. -/
theorem foundNals_sublist (config : AppConfig) (serial : Nat) :
    ∀ (server : WebRtcServer) (events : List Event),
      (foundNals config serial server events).Sublist (events.filterMap Event.broadcastBuffer)
  | _, [] => List.Sublist.slnil
  | server, event :: rest => by
      have tail := foundNals_sublist config serial (step config server event) rest
      cases event
      case broadcastNal nal failing =>
        simp only [foundNals, foundNal, List.filterMap_cons, Event.broadcastBuffer]
        split
        · exact tail.cons₂ nal
        · exact tail.cons nal
      all_goals simpa only [foundNals, foundNal, List.filterMap_cons, Event.broadcastBuffer,
        List.nil_append] using tail

/-! ## The counters -/

/-- The calls of a trace to the object with this serial that were sent. -/
def sentCalls (calls : List Handoff) (serial : Nat) : List Handoff :=
  (calls.filter (·.serial = serial)).filter (·.sent)

@[simp] theorem sentCalls_append (first second : List Handoff) (serial : Nat) :
    sentCalls (first ++ second) serial = sentCalls first serial ++ sentCalls second serial := by
  simp only [sentCalls, List.filter_append]

/-- The counters of every object in the map hold the calls sent to it so far, and no call
went to an object not yet drawn. -/
structure Accounted (server : WebRtcServer) (calls : List Handoff) : Prop where
  callsBelow : ∀ call ∈ calls, call.serial < server.ssrcDraws
  packets : ∀ entry ∈ server.peers,
    entry.2.stats.rtpPacketsSent = (sentCalls calls entry.2.serial).length % 2 ^ 64
  bytes : ∀ entry ∈ server.peers,
    entry.2.stats.bytesSent = ((sentCalls calls entry.2.serial).map (·.nal.data.length)).sum % 2 ^ 64

theorem init_accounted : Accounted init [] :=
  ⟨by simp, by simp [init], by simp [init]⟩

theorem Accounted.sublist {server : WebRtcServer} {calls : List Handoff}
    (acc : Accounted server calls) {peers : List (List Char × PeerConnection)}
    (kept : peers.Sublist server.peers) : Accounted { server with peers := peers } calls where
  callsBelow := acc.callsBelow
  packets := fun entry member => acc.packets entry (kept.subset member)
  bytes := fun entry member => acc.bytes entry (kept.subset member)

/-- An operation that changes each object in place, keeping its serial and its counters, keeps
the account. -/
theorem Accounted.map {server : WebRtcServer} {calls : List Handoff} (acc : Accounted server calls)
    (change : List Char × PeerConnection → List Char × PeerConnection)
    (keepsSerial : ∀ entry, (change entry).2.serial = entry.2.serial)
    (keepsStats : ∀ entry, (change entry).2.stats.rtpPacketsSent = entry.2.stats.rtpPacketsSent ∧
      (change entry).2.stats.bytesSent = entry.2.stats.bytesSent) :
    Accounted { server with peers := server.peers.map change } calls where
  callsBelow := acc.callsBelow
  packets := by
    intro changed member
    obtain ⟨entry, present, rfl⟩ := List.mem_map.mp member
    rw [(keepsStats entry).1, keepsSerial]
    exact acc.packets entry present
  bytes := by
    intro changed member
    obtain ⟨entry, present, rfl⟩ := List.mem_map.mp member
    rw [(keepsStats entry).2, keepsSerial]
    exact acc.bytes entry present

/-- A callback on the object with a serial that keeps its serial and counters keeps the
account. -/
theorem Accounted.updateSerial {server : WebRtcServer} {handed : List Handoff}
    (acc : Accounted server handed) (serial : Nat) {change : PeerConnection → PeerConnection}
    (keepsSerial : ∀ peer, (change peer).serial = peer.serial)
    (keepsStats : ∀ peer, (change peer).stats.rtpPacketsSent = peer.stats.rtpPacketsSent ∧
      (change peer).stats.bytesSent = peer.stats.bytesSent) :
    Accounted { server with peers := WebRtcServer.updateSerial server.peers serial change } handed :=
  acc.map _ (fun entry => by split; exacts [keepsSerial entry.2, rfl])
    (fun entry => by split; exacts [keepsStats entry.2, ⟨rfl, rfl⟩])

/-- A change to the object under a key that keeps its serial and counters keeps the account. -/
theorem Accounted.updateKey {server : WebRtcServer} {handed : List Handoff}
    (acc : Accounted server handed) (key : List Char) {change : PeerConnection → PeerConnection}
    (keepsSerial : ∀ peer, (change peer).serial = peer.serial)
    (keepsStats : ∀ peer, (change peer).stats.rtpPacketsSent = peer.stats.rtpPacketsSent ∧
      (change peer).stats.bytesSent = peer.stats.bytesSent) :
    Accounted { server with peers := WebRtcServer.updateKey server.peers key change } handed :=
  acc.map _ (fun entry => by split; exacts [keepsSerial entry.2, rfl])
    (fun entry => by split; exacts [keepsStats entry.2, ⟨rfl, rfl⟩])

/-- A new object starts from zero counters, and no call has gone to its serial yet. -/
theorem Accounted.createPeer (config : AppConfig) {server : WebRtcServer} {calls : List Handoff}
    (acc : Accounted server calls) (draw : UInt32) (construction : Construction) :
    Accounted (createPeer config server draw construction).1 calls := by
  have below : ∀ call ∈ calls, call.serial < server.ssrcDraws + 1 := fun call member =>
    Nat.lt_succ_of_lt (acc.callsBelow call member)
  rcases createPeer_cases config server draw construction with same | drawn | ⟨_, -, stored⟩
  · rwa [same]
  · rw [drawn]
    exact ⟨below, acc.packets, acc.bytes⟩
  · have unsent : sentCalls calls server.ssrcDraws = [] := by
      simp only [sentCalls, List.filter_filter, List.filter_eq_nil_iff]
      intro call member
      simp [(acc.callsBelow call member).ne]
    rw [stored]
    refine ⟨below, ?_, ?_⟩ <;> intro entry member <;> rcases mem_assignPeer.mp member with rfl | ⟨old, -⟩
    · simp [PeerConnection.create, unsent]
    · exact acc.packets entry old
    · simp [PeerConnection.create, unsent]
    · exact acc.bytes entry old

/-- What one broadcast does to an object's counters. -/
theorem broadcastTo_stats (nal : Nal) (failing : List Nat) (peer : PeerConnection) :
    (broadcastTo nal failing peer).stats =
      if peer.passesGuard && !decide (peer.serial ∈ failing) then
        { peer.stats with
          rtpPacketsSent := (peer.stats.rtpPacketsSent + 1) % 2 ^ 64
          bytesSent := (peer.stats.bytesSent + nal.data.length) % 2 ^ 64 }
      else peer.stats := by
  unfold broadcastTo
  split
  · exact PeerConnection.sendH264Nal_stats peer nal _
  · simp [PeerConnection.passesGuard, *]

/-- With distinct serials, a broadcast sends the object at most one buffer: when its guard
passes and its send returns. -/
theorem sentCalls_broadcast {server : WebRtcServer}
    (distinct : (server.peers.map (·.2.serial)).Nodup) {entry : List Char × PeerConnection}
    (member : entry ∈ server.peers) (nal : Nal) (failing : List Nat) :
    sentCalls (broadcastCalls server nal failing) entry.2.serial =
      if entry.2.passesGuard && !decide (entry.2.serial ∈ failing) then
        [⟨entry.2.serial, nal, true⟩]
      else [] := by
  rw [sentCalls, broadcastCalls_filter_serial, filter_serial_of_mem distinct member]
  by_cases fails : entry.2.serial ∈ failing <;> cases up : entry.2.connected <;>
    cases opened : entry.2.trackOpen <;>
    simp [broadcastCalls, PeerConnection.passesGuard, fails, up, opened]

theorem Accounted.broadcastNal {server : WebRtcServer} {calls : List Handoff}
    (acc : Accounted server calls) (wf : server.WellFormed) (nal : Nal) (failing : List Nat) :
    Accounted (broadcastNal server nal failing) (calls ++ broadcastCalls server nal failing) where
  callsBelow := by
    intro call member
    rcases List.mem_append.mp member with old | new
    · exact acc.callsBelow call old
    · obtain ⟨entry, present, made⟩ := List.mem_filterMap.mp new
      split at made <;> cases made
      exact wf.serialBelow entry present
  packets := by
    intro changed member
    obtain ⟨entry, present, rfl⟩ := List.mem_map.mp member
    have before := acc.packets entry present
    rw [broadcastTo_stats, (broadcastTo_frame nal failing entry.2).1, sentCalls_append,
      sentCalls_broadcast wf.serialsNodup present]
    split <;> simp only [List.length_append, List.length_singleton, List.append_nil] <;> omega
  bytes := by
    intro changed member
    obtain ⟨entry, present, rfl⟩ := List.mem_map.mp member
    have before := acc.bytes entry present
    rw [broadcastTo_stats, (broadcastTo_frame nal failing entry.2).1, sentCalls_append,
      sentCalls_broadcast wf.serialsNodup present]
    split <;> simp only [List.map_append, List.map_cons, List.map_nil, List.sum_append,
      List.sum_cons, List.sum_nil, List.append_nil] <;> omega

theorem Accounted.append_nil {server : WebRtcServer} {handed : List Handoff}
    (acc : Accounted server handed) : Accounted server (handed ++ []) := by
  rwa [List.append_nil]

/-- Every step keeps the account, with the calls it makes appended. -/
theorem Accounted.step (config : AppConfig) {server : WebRtcServer} {handed : List Handoff}
    (acc : Accounted server handed) (wf : server.WellFormed) :
    ∀ event, Accounted (step config server event) (handed ++ calls server event)
  | .broadcastNal nal failing => acc.broadcastNal wf nal failing
  | .createPeer draw construction => append_nil (acc.createPeer config draw construction)
  | .removePeer _ => append_nil (acc.sublist (List.filter_sublist _))
  | .cleanupPass => append_nil (acc.sublist (List.filter_sublist _))
  | .stop => append_nil (acc.sublist (List.nil_sublist _))
  | .handleAnswer _ => append_nil (acc.updateKey _ (fun _ => rfl) (fun _ => ⟨rfl, rfl⟩))
  | .stateChange _ _ => append_nil (acc.updateSerial _ (fun _ => rfl) (fun _ => ⟨rfl, rfl⟩))
  | .trackOpened _ => append_nil (acc.updateSerial _ (fun _ => rfl) (fun _ => ⟨rfl, rfl⟩))
  | .trackClosed _ => append_nil (acc.updateSerial _ (fun _ => rfl) (fun _ => ⟨rfl, rfl⟩))

/-- Every run from a well-formed registry keeps the account, with its trace appended. -/
theorem Accounted.run (config : AppConfig) :
    ∀ {server : WebRtcServer} {handed : List Handoff} (events : List Event),
      Accounted server handed → server.WellFormed →
        Accounted (run config server events) (handed ++ trace config server events)
  | _, _, [], acc, _ => by simpa [trace] using acc
  | _, handed, event :: rest, acc, wf => by
      simpa only [trace, List.append_assoc] using
        Accounted.run config rest (acc.step config wf event) (step_wellFormed config wf event)

/-- **Delivery to each peer.** Over every run from the empty registry, the buffers handed to the
object with each serial are the buffers of the broadcasts that found it in the map and
connected, in broadcast order and once each; and the counters of every object in the map hold
the number and the total size of the calls to it whose guard passed and whose send returned,
modulo `2 ^ 64`. -/
theorem send_calls_per_peer (config : AppConfig) (events : List Event) :
    (∀ serial, ((trace config init events).filter (·.serial = serial)).map (·.nal) =
        foundNals config serial init events) ∧
      ∀ entry ∈ (run config init events).peers,
        entry.2.stats.rtpPacketsSent =
            (sentCalls (trace config init events) entry.2.serial).length % 2 ^ 64 ∧
          entry.2.stats.bytesSent =
            ((sentCalls (trace config init events) entry.2.serial).map (·.nal.data.length)).sum %
              2 ^ 64 := by
  have acc := Accounted.run config events init_accounted init_wellFormed
  rw [List.nil_append] at acc
  exact ⟨fun serial => trace_filter_serial config serial events init_wellFormed,
    fun entry member => ⟨acc.packets entry member, acc.bytes entry member⟩⟩

/-! ## The health check's totals -/

/-- `WebRtcServer::ServerStats`. -/
structure ServerStats where
  totalPeers : Nat := 0
  connectedPeers : Nat := 0
  totalBytesSent : Nat := 0
deriving DecidableEq, Repr

/-- One iteration of the loop of `get_stats`: count the object if it reports connected, and add
its byte counter in the `uint64_t` total. The count never passes the map's size, so its
`size_t` never wraps. -/
def addPeerStats (stats : ServerStats) (entry : List Char × PeerConnection) : ServerStats :=
  { stats with
    connectedPeers := if entry.2.connected then stats.connectedPeers + 1 else stats.connectedPeers
    totalBytesSent := (stats.totalBytesSent + entry.2.stats.bytesSent) % 2 ^ 64 }

/-- `get_stats`: the map's size, and one pass over the map under `peers_mutex_`. -/
def getStats (server : WebRtcServer) : ServerStats :=
  server.peers.foldl addPeerStats { totalPeers := server.peers.length }

/-- The loop of `get_stats` adds the number of connected objects and, modulo `2 ^ 64`, the sum
of the byte counters. -/
theorem foldl_addPeerStats (peers : List (List Char × PeerConnection)) :
    ∀ {stats : ServerStats}, stats.totalBytesSent < 2 ^ 64 →
      peers.foldl addPeerStats stats =
        { stats with
          connectedPeers := stats.connectedPeers + (peers.filter (·.2.connected)).length
          totalBytesSent := (stats.totalBytesSent + (peers.map (·.2.stats.bytesSent)).sum) % 2 ^ 64 } := by
  induction peers with
  | nil =>
      intro stats small
      simp only [List.foldl_nil, List.filter_nil, List.map_nil, List.sum_nil, List.length_nil,
        Nat.add_zero, Nat.mod_eq_of_lt small]
  | cons entry rest ih =>
      intro stats _
      rw [List.foldl_cons, ih (Nat.mod_lt _ (by norm_num))]
      cases up : entry.2.connected <;>
        simp [addPeerStats, up, List.filter_cons, Nat.add_assoc, Nat.add_comm 1, Nat.mod_add_mod]

theorem getStats_eq (server : WebRtcServer) :
    getStats server =
      { totalPeers := server.peers.length
        connectedPeers := (server.peers.filter (·.2.connected)).length
        totalBytesSent := (server.peers.map (·.2.stats.bytesSent)).sum % 2 ^ 64 } := by
  rw [getStats, foldl_addPeerStats _ (by norm_num)]
  simp

/-- Over distinct serials, the bytes sent to each add up to the bytes of the sent calls to any
of them. -/
theorem sum_sentCalls_of_nodup (calls : List Handoff) :
    ∀ {serials : List Nat}, serials.Nodup →
      (serials.map fun serial => ((sentCalls calls serial).map (·.nal.data.length)).sum).sum =
        ((calls.filter fun call => call.sent && call.serial ∈ serials).map (·.nal.data.length)).sum
  | [], _ => by simp
  | serial :: rest, distinct => by
      rw [List.nodup_cons] at distinct
      have hit : (calls.filter fun call => call.sent && call.serial ∈ serial :: rest).filter
          (·.serial = serial) = sentCalls calls serial := by
        rw [sentCalls, List.filter_filter, List.filter_filter]
        exact List.filter_congr fun call _ => by
          by_cases same : call.serial = serial <;> simp [same, Bool.and_comm]
      have miss : (calls.filter fun call => call.sent && call.serial ∈ serial :: rest).filter
          (fun call => ¬call.serial = serial) = calls.filter fun call => call.sent && call.serial ∈ rest := by
        rw [List.filter_filter]
        exact List.filter_congr fun call _ => by
          by_cases same : call.serial = serial
          · simp [same, distinct.1]
          · simp [same]
      rw [List.map_cons, List.sum_cons, sum_sentCalls_of_nodup calls distinct.2, ← hit, ← miss,
        List.sum_map_filter_add_sum_map_filter_not]

/-- **The health check's totals.** Over every run from the empty registry, `get_stats` reports
the map's size, the number of objects in it that report connected, and, modulo `2 ^ 64`, the
bytes of the calls sent to the objects still in the map: what was sent to an object the map no
longer holds drops out of the total. -/
theorem getStats_counts_registered (config : AppConfig) (events : List Event) :
    let server := run config init events
    getStats server =
      { totalPeers := server.peers.length
        connectedPeers := (server.peers.filter (·.2.connected)).length
        totalBytesSent := (((trace config init events).filter fun call =>
            call.sent && call.serial ∈ server.peers.map (·.2.serial)).map (·.nal.data.length)).sum %
          2 ^ 64 } := by
  intro server
  have acc : Accounted server ([] ++ trace config init events) :=
    Accounted.run config events init_accounted init_wellFormed
  have wf : server.WellFormed := run_wellFormed config events init_wellFormed
  let sentBytes serial := ((sentCalls (trace config init events) serial).map (·.nal.data.length)).sum
  have counters : server.peers.map (·.2.stats.bytesSent) =
      (server.peers.map (sentBytes ·.2.serial)).map (· % 2 ^ 64) := by
    rw [List.map_map]
    exact List.map_congr_left fun entry member => by simpa using acc.bytes entry member
  rw [getStats_eq, ← sum_sentCalls_of_nodup _ wf.serialsNodup, counters, ← List.sum_nat_mod,
    List.map_map]
  rfl

end WebRtcServer

end StreamServer

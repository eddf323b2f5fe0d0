import StreamServer.Peer.Delivery
import StreamServer.Pipeline.Supervisor

/-! # The gateway

`main` hands every buffer the pipeline's NAL callback receives to
`WebRtcServer::broadcast_nal`, on the streaming thread inside `on_new_sample`. A step of the
gateway is a step of the pipeline together with the broadcast of the buffer it delivers, or a
registry operation of another thread (`StreamServer.Gateway.step`). Seen from the registry, a
gateway run is a run of the registry's own steps with one broadcast per delivered buffer
(`StreamServer.Gateway.run_registry`, `StreamServer.Gateway.broadcasts_registryRun`), so every
peer receives the callback's buffers in the callback's order.

`on_new_sample` stamps a buffer with its PTS when valid and with the steady clock otherwise,
and a rebuilt graph starts its PTS again: the order of the timestamps holds within one graph
and one of the two sources, and the callback's order carries it to every peer. A buffer whose
timestamp passes `2 ^ 64 / 90000` µs reaches a peer with its RTP timestamp wrapped
(`StreamServer.Gateway.rtp_timestamp_wraps`).
-/

namespace StreamServer

/-- The pipeline and the registry that `main` wires together. -/
structure Gateway where
  pipeline : RtspPipeline
  registry : WebRtcServer

namespace Gateway

def init : Gateway := ⟨RtspPipeline.init, WebRtcServer.init⟩

/-- The steps of a gateway run. -/
inductive Event
  /-- A step of the pipeline; `failing` lists the peers whose send throws when its buffer is
  broadcast. -/
  | pipeline (event : RtspPipeline.Event) (failing : List Nat)
  /-- A registry operation of the signaling server, the reaper or the WebRTC stack; only the
  NAL callback broadcasts. -/
  | registry (event : WebRtcServer.Event) (direct : event.broadcastBuffer = none)

/-- The pipeline step of a gateway step. -/
def pipelineEvent : Event → Option RtspPipeline.Event
  | .pipeline event _ => some event
  | .registry _ _ => none

/-- The registry steps of a gateway step: a broadcast per delivered buffer, or the
operation. -/
def registryEvents (p : RtspPipeline) : Event → List WebRtcServer.Event
  | .pipeline event failing =>
      (RtspPipeline.delivered p event).map fun delivery => .broadcastNal delivery.nal failing
  | .registry event _ => [event]

/-- One step. -/
def step (platform : Platform) (config : AppConfig) (g : Gateway) (event : Event) : Gateway where
  pipeline := match event with
    | .pipeline event _ => RtspPipeline.step platform config g.pipeline event
    | .registry _ _ => g.pipeline
  registry := WebRtcServer.run config g.registry (registryEvents g.pipeline event)

/-- The state after a run. -/
def run (platform : Platform) (config : AppConfig) : Gateway → List Event → Gateway
  | g, [] => g
  | g, event :: rest => run platform config (step platform config g event) rest

/-- The calls of `send_h264_nal` over a run, in order. -/
def trace (platform : Platform) (config : AppConfig) :
    Gateway → List Event → List WebRtcServer.Handoff
  | _, [] => []
  | g, event :: rest =>
      WebRtcServer.trace config g.registry (registryEvents g.pipeline event) ++
        trace platform config (step platform config g event) rest

/-- The registry steps of a run. -/
def registryRun (platform : Platform) (config : AppConfig) :
    Gateway → List Event → List WebRtcServer.Event
  | _, [] => []
  | g, event :: rest =>
      registryEvents g.pipeline event ++ registryRun platform config (step platform config g event) rest

section Projections

variable (platform : Platform) (config : AppConfig)

/-- The gateway's registry runs the registry's own steps. -/
theorem run_registry :
    ∀ (g : Gateway) (events : List Event),
      (run platform config g events).registry =
        WebRtcServer.run config g.registry (registryRun platform config g events)
  | _, [] => rfl
  | g, event :: rest => by
      rw [run, registryRun, WebRtcServer.run_append, run_registry _ rest]
      rfl

theorem trace_eq :
    ∀ (g : Gateway) (events : List Event),
      trace platform config g events =
        WebRtcServer.trace config g.registry (registryRun platform config g events)
  | _, [] => rfl
  | g, event :: rest => by
      rw [trace, registryRun, WebRtcServer.trace_append, trace_eq _ rest]
      rfl

/-- The registry broadcasts exactly the buffers the callback receives, in order. -/
theorem broadcasts_registryRun :
    ∀ (g : Gateway) (events : List Event),
      (registryRun platform config g events).filterMap WebRtcServer.Event.broadcastBuffer =
        (RtspPipeline.trace platform config g.pipeline (events.filterMap pipelineEvent)).map
          (·.nal)
  | _, [] => rfl
  | g, .pipeline event failing :: rest => by
      rw [registryRun, List.filterMap_append, broadcasts_registryRun _ rest]
      simp only [registryEvents, pipelineEvent, RtspPipeline.trace, List.filterMap_map,
        List.filterMap_cons, List.map_append, Function.comp_def, WebRtcServer.Event.broadcastBuffer]
      exact congrArg (· ++ _) (congrFun (List.filterMap_eq_map _) _)
  | g, .registry event direct :: rest => by
      rw [registryRun, List.filterMap_append, broadcasts_registryRun _ rest]
      simp [registryEvents, direct, pipelineEvent, step]

end Projections

/-! ## Timestamps -/

theorem timestampOf_of_isSome {buffer : Buffer} (valid : buffer.pts.isSome) (clockUs : Nat) :
    RtspPipeline.timestampOf buffer clockUs = buffer.pts.getD 0 / 1000 := by
  obtain ⟨pts, some⟩ := Option.isSome_iff_exists.mp valid
  simp [RtspPipeline.timestampOf, some]

theorem timestampOf_of_none {buffer : Buffer} (invalid : buffer.pts = none) (clockUs : Nat) :
    RtspPipeline.timestampOf buffer clockUs = clockUs := by
  simp [RtspPipeline.timestampOf, invalid]

/-- Within one graph, the buffers with a valid PTS are stamped in the order of their PTS. -/
theorem pts_stamps_ordered (platform : Platform) (config : AppConfig) (p : RtspPipeline)
    (events : List RtspPipeline.Event) (graph : Nat) :
    let stamped := (RtspPipeline.trace platform config p events).filter
      fun delivery => delivery.graph = graph && delivery.buffer.pts.isSome
    (stamped.map (·.buffer.pts.getD 0)).Pairwise (· ≤ ·) →
      (stamped.map (·.nal.timestampUs)).Pairwise (· ≤ ·) := by
  intro stamped ordered
  have stamps : stamped.map (·.nal.timestampUs) = stamped.map (·.buffer.pts.getD 0 / 1000) :=
    List.map_congr_left fun delivery member => by
      obtain ⟨-, valid⟩ : delivery.graph = graph ∧ delivery.buffer.pts.isSome := by
        simpa using (List.mem_filter.mp member).2
      rw [RtspPipeline.nal_of_mem_trace platform config (List.mem_of_mem_filter member)]
      exact timestampOf_of_isSome valid _
  rw [stamps]
  exact List.pairwise_map.mpr ((List.pairwise_map.mp ordered).imp Nat.div_le_div_right)

/-- The buffers without a valid PTS are stamped in the order of the clock's readings. -/
theorem clock_stamps_ordered (platform : Platform) (config : AppConfig) (p : RtspPipeline)
    (events : List RtspPipeline.Event) :
    let stamped := (RtspPipeline.trace platform config p events).filter (·.buffer.pts.isNone)
    (stamped.map (·.clockUs)).Pairwise (· ≤ ·) →
      (stamped.map (·.nal.timestampUs)).Pairwise (· ≤ ·) := by
  intro stamped ordered
  have stamps : stamped.map (·.nal.timestampUs) = stamped.map (·.clockUs) :=
    List.map_congr_left fun delivery member => by
      rw [RtspPipeline.nal_of_mem_trace platform config (List.mem_of_mem_filter member)]
      exact timestampOf_of_none (by simpa using (List.mem_filter.mp member).2) _
  rwa [stamps]

/-- Every peer receives some of the callback's buffers, in the callback's order. -/
theorem received_sublist (platform : Platform) (config : AppConfig) (events : List Event)
    (serial : Nat) :
    (((trace platform config init events).filter (·.serial = serial)).map (·.nal)).Sublist
      ((RtspPipeline.trace platform config RtspPipeline.init (events.filterMap pipelineEvent)).map
        (·.nal)) := by
  have found := WebRtcServer.foundNals_sublist config serial WebRtcServer.init
    (registryRun platform config init events)
  rw [← WebRtcServer.trace_filter_serial config serial _ WebRtcServer.init_wellFormed,
    broadcasts_registryRun] at found
  rw [trace_eq]
  exact found

/-- **Timestamps in order.** In every gateway run, within one graph the buffers with a valid PTS
reach the callback with timestamps in the order of their PTS, the buffers stamped from the
steady clock with timestamps in the order of its readings, and every peer receives the
callback's buffers in the callback's order: where the callback's timestamps do not decrease,
neither do the peer's. -/
theorem timestamps_ordered_per_source (platform : Platform) (config : AppConfig)
    (events : List Event) :
    let handed := RtspPipeline.trace platform config RtspPipeline.init
      (events.filterMap pipelineEvent)
    (∀ graph,
      let stamped := handed.filter fun delivery => delivery.graph = graph && delivery.buffer.pts.isSome
      (stamped.map (·.buffer.pts.getD 0)).Pairwise (· ≤ ·) →
        (stamped.map (·.nal.timestampUs)).Pairwise (· ≤ ·)) ∧
      (let stamped := handed.filter (·.buffer.pts.isNone)
       (stamped.map (·.clockUs)).Pairwise (· ≤ ·) →
         (stamped.map (·.nal.timestampUs)).Pairwise (· ≤ ·)) ∧
      ∀ serial,
        let received := ((trace platform config init events).filter (·.serial = serial)).map (·.nal)
        received.Sublist (handed.map (·.nal)) ∧
          ((handed.map (·.nal.timestampUs)).Pairwise (· ≤ ·) →
            (received.map (·.timestampUs)).Pairwise (· ≤ ·)) := by
  intro handed
  refine ⟨pts_stamps_ordered platform config _ _, clock_stamps_ordered platform config _ _,
    fun serial => ⟨received_sublist platform config events serial, fun ordered => ?_⟩⟩
  have nalOrdered : ((handed.map (·.nal)).map (·.timestampUs)).Pairwise (· ≤ ·) := by
    rwa [List.map_map]
  exact nalOrdered.sublist ((received_sublist platform config events serial).map _)

/-- A graph delivers a buffer stamped by its PTS and one stamped by the clock, its bus fails,
and after the default back-off the rebuilt graph delivers a buffer whose PTS starts again at
zero. -/
def rebuildRun : List RtspPipeline.Event :=
  [.setNalCallback, .start, .worker false, .worker false, .worker false, .worker false,
    .sample (some ⟨[1], some 5000000000⟩) 0, .sample (some ⟨[2], none⟩) 1000,
    .worker true, .worker false, .worker false, .worker false, .worker false, .worker false] ++
  List.replicate 31 (.worker false) ++
  [.worker false, .worker false, .sample (some ⟨[3], some 0⟩) 2000]

set_option maxRecDepth 4000 in
/-- Each graph's valid PTS and the clock's readings increase, and the timestamps handed to the
callback decrease. -/
theorem timestamps_go_back :
    (RtspPipeline.trace ⟨false, false⟩ {} RtspPipeline.init rebuildRun).map
        (fun delivery => (delivery.graph, delivery.buffer.pts, delivery.clockUs)) =
      [(0, some 5000000000, 0), (0, none, 1000), (1, some 0, 2000)] ∧
      (RtspPipeline.trace ⟨false, false⟩ {} RtspPipeline.init rebuildRun).map
        (·.nal.timestampUs) = [5000000, 1000, 0] := by
  decide

/-- A peer connects and opens its track, and the graph delivers a buffer whose PTS is
`204963823041218000` ns: its timestamp in microseconds times `90000` passes `2 ^ 64`. -/
def latePtsRun : List Event :=
  [.registry (.createPeer 1 (.succeeds 0)) rfl, .registry (.stateChange 0 .connected) rfl,
    .registry (.trackOpened 0) rfl] ++
  ([.setNalCallback, .start, .worker false, .worker false, .worker false, .worker false,
    .sample (some ⟨[1], some 204963823041218000⟩) 0].map (.pipeline · []))

/-- The peer is handed the buffer stamped `204963823041218` µs and stores the RTP timestamp `0`,
where `204963823041218 * 90000 / 1000000` modulo `2 ^ 32` is `4154504685`. -/
theorem rtp_timestamp_wraps :
    (trace ⟨false, false⟩ {} init latePtsRun).map
        (fun call => (call.serial, call.nal.timestampUs, call.sent)) =
      [(0, 204963823041218, true)] ∧
      (run ⟨false, false⟩ {} init latePtsRun).registry.peers.map (·.2.rtpTimestamp) = [0] ∧
      204963823041218 * 90000 / 1000000 % 2 ^ 32 = 4154504685 := by
  decide

end Gateway

end StreamServer

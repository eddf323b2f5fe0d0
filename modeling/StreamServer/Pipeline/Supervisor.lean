import StreamServer.Config
import StreamServer.Peer.Connection
import Mathlib.Algebra.BigOperators.Group.List

/-! # The RTSP ingest supervisor

`RtspPipeline` runs one worker thread, `pipeline_thread`, that builds the GStreamer graph, sets
it to `PLAYING`, reads its bus until an error or the end of the stream, tears the graph down
and backs off before it builds again (`StreamServer.Phase`). Other threads act on the same
object: the main thread calls `start` and `stop` (also from its watchdog), the signaling
thread calls `set_bitrate`, and GStreamer's streaming thread calls `on_new_sample` while a
built graph has not yet been set to `NULL`. A run interleaves their atomic steps
(`StreamServer.RtspPipeline.step`), and the buffers handed to the NAL callback form its trace
(`StreamServer.RtspPipeline.trace`).

GStreamer's answers are the run's choices: whether a build throws, whether `PLAYING` fails,
whether a bus message is an error or the end of the stream, and what each sample holds. The
encoder element checks each bitrate it is given against the range of its property and keeps
what it held where the value lies outside (`StreamServer.RtspPipeline.BitrateSpec.set`).

Once the NAL callback is set, as `main` sets it before `start`, the byte counter of the health
check is the size of what the callback received
(`StreamServer.RtspPipeline.bytesReceived_counts_delivered`).
-/

namespace StreamServer

/-- The compile-time switches that `build_pipeline` reads. -/
structure Platform where
  /-- `JETSON_PLATFORM`. -/
  jetsonPlatform : Bool
  /-- `ENABLE_TEST_MODE`. -/
  enableTestMode : Bool
deriving DecidableEq, Repr

/-- A mapped appsink buffer: its bytes, and `GST_BUFFER_PTS` in nanoseconds when valid. -/
structure Buffer where
  data : List UInt8
  pts : Option Nat
deriving DecidableEq, Repr

/-- Where `pipeline_thread` is. -/
inductive Phase
  /-- `while (!stop_requested_)`. -/
  | loopTest
  | build
  /-- `gst_element_set_state(pipeline_, GST_STATE_PLAYING)`. -/
  | setPlaying
  /-- `running_.store(true)`. -/
  | markRunning
  | busLoop
  /-- `running_.store(false)` after the bus loop. -/
  | leaveBus
  /-- `stats_.connected = false`. -/
  | resetConnected
  /-- `gst_element_set_state(pipeline_, GST_STATE_NULL)` and the release of the graph. -/
  | setNull
  /-- `if (!stop_requested_) attempt_reconnect()`. -/
  | afterTeardown
  /-- The entry of `attempt_reconnect`. -/
  | reconnect
  /-- The sleep loop of `attempt_reconnect`, with its counter `elapsed`. -/
  | backoff (elapsed : Int)
  /-- `pipeline_thread` has returned; the thread is still joinable. -/
  | exited
deriving DecidableEq, Repr

/-- `RtspPipeline::Stats`; the counters are `uint64_t`. -/
structure PipelineStats where
  framesReceived : Nat := 0
  bytesReceived : Nat := 0
  reconnectCount : Nat := 0
  connected : Bool := false
deriving DecidableEq, Repr

/-- An `RtspPipeline` object. -/
structure RtspPipeline where
  /-- `thread_`: `none` when it is not joinable, else where its worker is. -/
  worker : Option Phase
  running : Bool
  stopRequested : Bool
  /-- `pipeline_ != nullptr`. -/
  pipeline : Bool
  /-- The graph whose samples can arrive, by the place of its build among all builds: built
  and not yet set to `NULL` or released. -/
  flowing : Option Nat
  /-- How many builds have returned. -/
  builds : Nat
  /-- The `bitrate` the code last gave the element `encoder_` points to; `none` when
  `encoder_` is null. -/
  encoder : Option Int
  isHwEncode : Bool
  nalCallback : Bool
  stats : PipelineStats
  /-- The main thread is inside `stop`, waiting for the join. -/
  stopping : Bool
  /-- `std::terminate` has been called. -/
  terminated : Bool
deriving DecidableEq, Repr

namespace RtspPipeline

/-- The object after its constructor. -/
def init : RtspPipeline where
  worker := none
  running := false
  stopRequested := false
  pipeline := false
  flowing := none
  builds := 0
  encoder := none
  isHwEncode := false
  nalCallback := false
  stats := {}
  stopping := false
  terminated := false

/-- `start`: nothing while running; otherwise a new worker, assigned to `thread_`, which calls
`std::terminate` when the old one is still joinable. -/
def start (p : RtspPipeline) : RtspPipeline :=
  if p.running then p
  else if p.worker.isSome then { p with stopRequested := false, terminated := true }
  else { p with stopRequested := false, worker := some .loopTest }

/-- `stop` up to the join: the flags, and `NULL` for a built graph. -/
def stopBegin (p : RtspPipeline) : RtspPipeline :=
  { p with
    stopRequested := true
    running := false
    flowing := if p.pipeline then none else p.flowing
    stopping := true }

/-- The rest of `stop` once the worker has returned: the join, and the release of a graph that
`pipeline_` still holds. -/
def stopEnd (p : RtspPipeline) : RtspPipeline :=
  match p.worker with
  | none | some .exited =>
      if p.pipeline then
        { p with worker := none, stopping := false, pipeline := false, flowing := none, encoder := none }
      else { p with worker := none, stopping := false }
  | some _ => p

/-- The request of `set_bitrate` clamped to the configured limits,
`std::max(min, std::min(k, max))`. -/
def clampedBitrate (config : AppConfig) (bitrateKbps : CInt) : Int :=
  max config.webrtc.video.minBitrateKbps.val
    (min bitrateKbps.val config.webrtc.video.maxBitrateKbps.val)

/-- The `bitrate` property of an encoder element, a `GParamSpecUInt`: its range and its
default. -/
structure BitrateSpec where
  minimum : Int
  maximum : Int
  default : Int
deriving DecidableEq, Repr

/-- `x264enc`'s `bitrate`, in kbit/s. -/
def x264encBitrate : BitrateSpec := ⟨1, 2048000, 2048⟩

/-- `nvv4l2h264enc`'s `bitrate`, in bit/s: every `guint`. -/
def nvv4l2h264encBitrate : BitrateSpec := ⟨0, 2 ^ 32 - 1, 4000000⟩

/-- The `bitrate` of the element named `enc`: `nvv4l2h264enc`'s where `is_hw_encode_`. -/
def bitrateSpec (isHwEncode : Bool) : BitrateSpec :=
  if isHwEncode then nvv4l2h264encBitrate else x264encBitrate

/-- `g_object_set_property` on `bitrate`, as `g_object_set` and `gst_parse_launch` call it:
GLib validates the value against the range and, out of range, warns and leaves the held value. -/
def BitrateSpec.set (spec : BitrateSpec) (held value : Int) : Int :=
  if spec.minimum ≤ value ∧ value ≤ spec.maximum then value else held

theorem BitrateSpec.set_of_within {spec : BitrateSpec} {value : Int} (low : spec.minimum ≤ value)
    (high : value ≤ spec.maximum) (held : Int) : spec.set held value = value :=
  if_pos ⟨low, high⟩

/-- The `guint` the encoder is handed for a value in kbps: for `nvv4l2h264enc` the `int` product
in bit/s, cast; the `std::to_string` of an `int` in the description deserializes to `guint` as
the same cast does. -/
def bitrateValue (isHwEncode : Bool) (kbps : Int) : Int :=
  if isHwEncode then uint32Of (wrapInt (kbps * 1000)) else uint32Of kbps

/-- `set_bitrate`: nothing without an encoder or while not running; otherwise the clamped
value, in bit/s for `nvv4l2h264enc`, cast to `guint` and set on the encoder. -/
def setBitrate (config : AppConfig) (p : RtspPipeline) (bitrateKbps : CInt) : RtspPipeline :=
  if p.encoder.isNone || !p.running then p
  else
    let clamped := clampedBitrate config bitrateKbps
    { p with
      encoder := p.encoder.map fun held =>
        (bitrateSpec p.isHwEncode).set held (bitrateValue p.isHwEncode clamped) }

/-- The timestamp `on_new_sample` gives a buffer: its PTS in microseconds when valid, else the
steady clock's reading in microseconds. -/
def timestampOf (buffer : Buffer) (clockUs : Nat) : Nat :=
  match buffer.pts with
  | some pts => pts / 1000
  | none => clockUs

/-- The counters of `on_new_sample`; `none` is a sample without a buffer that maps. -/
def onNewSample (p : RtspPipeline) : Option Buffer → RtspPipeline
  | none => p
  | some buffer =>
      { p with
        stats := { p.stats with
          framesReceived := (p.stats.framesReceived + 1) % 2 ^ 64
          bytesReceived := (p.stats.bytesReceived + buffer.data.length) % 2 ^ 64
          connected := true } }

/-- `encoder_` and `is_hw_encode_` after a build that returns: the element named `enc`, which
only the re-encode branch names, is created at its default bitrate and then set to the bitrate
of the description. -/
def buildEncoder (platform : Platform) (config : AppConfig) (isHwEncode : Bool) :
    Option Int × Bool :=
  let bitrate := config.webrtc.video.bitrateKbps.val
  if platform.enableTestMode && config.rtsp.url.isEmpty then (none, isHwEncode)
  else if config.encoding.passthrough then (none, isHwEncode)
  else if platform.jetsonPlatform && config.encoding.hwEncode then
    (some (nvv4l2h264encBitrate.set nvv4l2h264encBitrate.default (bitrateValue true bitrate)), true)
  else (some (x264encBitrate.set x264encBitrate.default (bitrateValue false bitrate)), false)

/-- One step of `pipeline_thread` from a phase; `fault` is GStreamer's answer where the step
asks for one: the build throws, `PLAYING` fails, or the bus yields an error or end of stream. -/
def workerStep (platform : Platform) (config : AppConfig) (p : RtspPipeline) (fault : Bool) :
    Phase → RtspPipeline
  | .loopTest => { p with worker := some (if p.stopRequested then .exited else .build) }
  | .build =>
      if fault then { p with pipeline := false, worker := some .reconnect }
      else
        { p with
          pipeline := true
          flowing := some p.builds
          builds := p.builds + 1
          encoder := (buildEncoder platform config p.isHwEncode).1
          isHwEncode := (buildEncoder platform config p.isHwEncode).2
          worker := some .setPlaying }
  | .setPlaying =>
      if fault then { p with pipeline := false, flowing := none, worker := some .reconnect }
      else { p with worker := some .markRunning }
  | .markRunning => { p with running := true, worker := some .busLoop }
  | .busLoop => if p.stopRequested || fault then { p with worker := some .leaveBus } else p
  | .leaveBus => { p with running := false, worker := some .resetConnected }
  | .resetConnected => { p with stats := { p.stats with connected := false }, worker := some .setNull }
  | .setNull => { p with pipeline := false, flowing := none, worker := some .afterTeardown }
  | .afterTeardown => { p with worker := some (if p.stopRequested then .loopTest else .reconnect) }
  | .reconnect =>
      if p.stopRequested then { p with worker := some .loopTest }
      else
        { p with
          stats := { p.stats with reconnectCount := (p.stats.reconnectCount + 1) % 2 ^ 64 }
          worker := some (.backoff 0) }
  | .backoff elapsed =>
      if elapsed < config.rtsp.reconnectIntervalMs.val && !p.stopRequested then
        { p with worker := some (.backoff (wrapInt (elapsed + 100))) }
      else { p with worker := some .loopTest }
  | .exited => p

/-- The steps of a run. -/
inductive Event
  | setNalCallback
  | start
  | stopBegin
  | stopEnd
  | setBitrate (bitrateKbps : CInt)
  /-- `on_new_sample`, with what it maps and the steady clock's reading. -/
  | sample (buffer : Option Buffer) (clockUs : Nat)
  | worker (fault : Bool)
deriving DecidableEq, Repr

/-- One step; nothing happens once the process is terminated, and a step whose thread cannot
take it (a sample with no graph flowing, the main thread blocked in `stop`) changes nothing. -/
def step (platform : Platform) (config : AppConfig) (p : RtspPipeline) (event : Event) :
    RtspPipeline :=
  if p.terminated then p
  else
    match event with
    | .setNalCallback => { p with nalCallback := true }
    | .start => if p.stopping then p else start p
    | .stopBegin => if p.stopping then p else stopBegin p
    | .stopEnd => if p.stopping then stopEnd p else p
    | .setBitrate bitrateKbps => setBitrate config p bitrateKbps
    | .sample buffer _ => if p.flowing.isSome then onNewSample p buffer else p
    | .worker fault =>
        match p.worker with
        | some phase => workerStep platform config p fault phase
        | none => p

/-- One call of the NAL callback: the graph the buffer came from, the buffer, the clock
reading, and the NAL handed over. -/
structure Delivery where
  graph : Nat
  buffer : Buffer
  clockUs : Nat
  nal : Nal
deriving DecidableEq, Repr

/-- The calls of the NAL callback one step makes: `on_new_sample` calls it for a non-empty
mapped buffer once the callback is set. -/
def delivered (p : RtspPipeline) : Event → List Delivery
  | .sample (some buffer) clockUs =>
      match p.flowing with
      | some graph =>
          if !p.terminated && p.nalCallback && 0 < buffer.data.length then
            [⟨graph, buffer, clockUs, ⟨buffer.data, timestampOf buffer clockUs⟩⟩]
          else []
      | none => []
  | _ => []

/-- Every buffer handed to the callback is stamped by `timestampOf`. -/
theorem nal_of_mem_delivered {p : RtspPipeline} {event : Event} {delivery : Delivery}
    (member : delivery ∈ delivered p event) :
    delivery.nal = ⟨delivery.buffer.data, timestampOf delivery.buffer delivery.clockUs⟩ := by
  unfold delivered at member
  split at member
  · split at member
    · split at member
      · rw [List.mem_singleton.mp member]
      · cases member
    · cases member
  · cases member

/-- The state after a run. -/
def run (platform : Platform) (config : AppConfig) : RtspPipeline → List Event → RtspPipeline
  | p, [] => p
  | p, event :: rest => run platform config (step platform config p event) rest

theorem run_append (platform : Platform) (config : AppConfig) :
    ∀ (p : RtspPipeline) (first second : List Event),
      run platform config p (first ++ second) = run platform config (run platform config p first) second
  | _, [], _ => rfl
  | _, _ :: rest, second => run_append platform config _ rest second

/-- The calls of the NAL callback over a run, in order. -/
def trace (platform : Platform) (config : AppConfig) : RtspPipeline → List Event → List Delivery
  | _, [] => []
  | p, event :: rest => delivered p event ++ trace platform config (step platform config p event) rest

theorem nal_of_mem_trace (platform : Platform) (config : AppConfig) {delivery : Delivery} :
    ∀ {p : RtspPipeline} {events : List Event}, delivery ∈ trace platform config p events →
      delivery.nal = ⟨delivery.buffer.data, timestampOf delivery.buffer delivery.clockUs⟩
  | _, [], member => nomatch member
  | _, _ :: _, member => (List.mem_append.mp member).elim nal_of_mem_delivered
      (nal_of_mem_trace platform config)

/-! ## The counters -/

section Counters

variable (platform : Platform) (config : AppConfig)

@[simp] theorem workerStep_bytesReceived (p : RtspPipeline) (fault : Bool) (phase : Phase) :
    (workerStep platform config p fault phase).stats.bytesReceived = p.stats.bytesReceived := by
  cases phase <;> simp only [workerStep] <;> first | rfl | split_ifs <;> rfl

@[simp] theorem workerStep_nalCallback (p : RtspPipeline) (fault : Bool) (phase : Phase) :
    (workerStep platform config p fault phase).nalCallback = p.nalCallback := by
  cases phase <;> simp only [workerStep] <;> first | rfl | split_ifs <;> rfl

@[simp] theorem start_stats (p : RtspPipeline) : (start p).stats = p.stats := by
  unfold start; split_ifs <;> rfl

@[simp] theorem start_nalCallback (p : RtspPipeline) : (start p).nalCallback = p.nalCallback := by
  unfold start; split_ifs <;> rfl

@[simp] theorem stopEnd_stats (p : RtspPipeline) : (stopEnd p).stats = p.stats := by
  unfold stopEnd; split <;> (try split) <;> rfl

@[simp] theorem stopEnd_nalCallback (p : RtspPipeline) : (stopEnd p).nalCallback = p.nalCallback := by
  unfold stopEnd; split <;> (try split) <;> rfl

@[simp] theorem setBitrate_stats (p : RtspPipeline) (bitrateKbps : CInt) :
    (setBitrate config p bitrateKbps).stats = p.stats := by
  unfold setBitrate; split <;> rfl

@[simp] theorem setBitrate_nalCallback (p : RtspPipeline) (bitrateKbps : CInt) :
    (setBitrate config p bitrateKbps).nalCallback = p.nalCallback := by
  unfold setBitrate; split <;> rfl

/-- Every step keeps the NAL callback once it is set, and adds to `bytes_received`, modulo
`2 ^ 64`, the sizes of the buffers it hands to the callback. -/
theorem step_counts_delivered {p : RtspPipeline} (set : p.nalCallback = true)
    (bounded : p.stats.bytesReceived < 2 ^ 64) (event : Event) :
    (step platform config p event).nalCallback = true ∧
      (step platform config p event).stats.bytesReceived =
        (p.stats.bytesReceived + ((delivered p event).map (·.buffer.data.length)).sum) % 2 ^ 64 := by
  by_cases terminated : p.terminated = true
  · have none : delivered p event = [] := by
      unfold delivered
      split
      · split <;> simp [terminated]
      · rfl
    simp only [step, terminated, if_true, none, List.map_nil, List.sum_nil, Nat.add_zero]
    exact ⟨set, (Nat.mod_eq_of_lt bounded).symm⟩
  · cases event with
    | sample buffer clockUs =>
        cases buffer with
        | none => simp [step, terminated, delivered, onNewSample, set]; omega
        | some buffer =>
            cases flowing : p.flowing with
            | none => simp [step, terminated, delivered, flowing, set]; omega
            | some graph =>
                by_cases empty : buffer.data.length = 0
                · simp [step, terminated, delivered, flowing, set, onNewSample, empty]
                · simp [step, terminated, delivered, flowing, set, onNewSample,
                    Nat.pos_of_ne_zero empty]
    | worker _ | start | stopBegin | stopEnd =>
        simp only [step, terminated, delivered, Bool.false_eq_true, if_false, List.map_nil,
          List.sum_nil, Nat.add_zero]
        split <;> simp [stopBegin, set] <;> omega
    | setNalCallback | setBitrate _ => simp [step, terminated, delivered, set]; omega

theorem run_counts_delivered : ∀ (events : List Event) {p : RtspPipeline},
    p.nalCallback = true → p.stats.bytesReceived < 2 ^ 64 →
      (run platform config p events).stats.bytesReceived =
        (p.stats.bytesReceived + ((trace platform config p events).map (·.buffer.data.length)).sum) %
          2 ^ 64
  | [], _, _, bounded => by
      simp only [run, trace, List.map_nil, List.sum_nil, Nat.add_zero]
      exact (Nat.mod_eq_of_lt bounded).symm
  | event :: rest, p, set, bounded => by
      obtain ⟨stillSet, counted⟩ := step_counts_delivered platform config set bounded event
      rw [run, trace, run_counts_delivered rest stillSet (counted ▸ Nat.mod_lt _ (by decide)), counted,
        List.map_append, List.sum_append, Nat.mod_add_mod, Nat.add_assoc]

end Counters

/-- **The byte counter counts what the callback got.** In every run from the constructor in
which `main` sets the NAL callback first, `stats_.bytes_received` is the total size of the
buffers handed to the callback, modulo `2 ^ 64`. -/
theorem bytesReceived_counts_delivered (platform : Platform) (config : AppConfig)
    (events : List Event) :
    (run platform config init (.setNalCallback :: events)).stats.bytesReceived =
      ((trace platform config init (.setNalCallback :: events)).map (·.buffer.data.length)).sum %
        2 ^ 64 := by
  rw [run, trace, run_counts_delivered platform config events rfl (by simp [step, init])]
  simp [step, init, delivered]

end RtspPipeline

end StreamServer

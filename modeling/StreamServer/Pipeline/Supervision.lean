import StreamServer.Pipeline.Supervisor
import Mathlib.Data.Rat.Floor

/-! # Faults, reconnects and the connected flag

`pipeline_thread` counts every fault in `stats_.reconnect_count` and builds again after each
back-off. No step of the supervisor reads `rtsp.reconnect_max_attempts`, so a configured limit
changes no run (`StreamServer.RtspPipeline.run_ignores_reconnectMaxAttempts`) and the worker
keeps rebuilding past it.

`stats_.connected` is set by every mapped sample and reset after the bus loop, before the graph
is set to `NULL`. A sample that arrives in between sets it again, and the worker then tears
down and backs off with the flag still set.

`running_` is set by the worker just before its bus loop and cleared just after it, and `stop`
clears it too: it is set only while the worker is in the loop or leaving it
(`StreamServer.RtspPipeline.RunningInBusLoop`, kept by every step). `start` tests nothing
else, so a second `start` while the worker is outside its bus loop move-assigns onto the still joinable
`thread_`, and `std::terminate` is called
(`StreamServer.RtspPipeline.start_terminates_outside_bus_loop`).

The back-off loop of `attempt_reconnect` sleeps in slices of `100` ms while `elapsed` is below
`reconnect_interval_ms`: `⌈interval / 100⌉` slices for every interval up to `2147483600`, and
for a larger one the `int` counter overflows before the test fails
(`StreamServer.RtspPipeline.backoff_sleeps_or_overflows`).
-/

namespace StreamServer

namespace RtspPipeline

/-- The supervisor never reads `reconnect_max_attempts`. -/
theorem step_ignores_reconnectMaxAttempts (platform : Platform) (config : AppConfig)
    (attempts : CInt) (p : RtspPipeline) (event : Event) :
    step platform { config with rtsp := { config.rtsp with reconnectMaxAttempts := attempts } } p
      event = step platform config p event :=
  rfl

theorem run_ignores_reconnectMaxAttempts (platform : Platform) (config : AppConfig)
    (attempts : CInt) :
    ∀ (p : RtspPipeline) (events : List Event),
      run platform { config with rtsp := { config.rtsp with reconnectMaxAttempts := attempts } } p
        events = run platform config p events
  | _, [] => rfl
  | p, event :: rest => by
      simp only [run, step_ignores_reconnectMaxAttempts]
      exact run_ignores_reconnectMaxAttempts platform config attempts _ rest

/-- A start, then two builds that throw, each followed by its reconnect and a back-off of one
sleep. -/
def buildFailsTwice : List Event :=
  [.start, .worker false, .worker true, .worker false, .worker false, .worker false,
    .worker false, .worker true, .worker false]

/-- With `reconnect_max_attempts: 1` and `reconnect_interval_ms: 100` loaded from YAML, and no
stop requested, the worker builds again after its first fault and counts a second reconnect. -/
theorem reconnects_past_max_attempts :
    ∃ config, loadConfig
        { rtsp := some
            { reconnectIntervalMs := some (CInt.ofInt 100)
              reconnectMaxAttempts := some (CInt.ofInt 1) } }
        {} = some config ∧
      config.rtsp.reconnectMaxAttempts.val = 1 ∧
      (run ⟨false, false⟩ config init buildFailsTwice).stopRequested = false ∧
      (run ⟨false, false⟩ config init buildFailsTwice).stats.reconnectCount = 2 := by
  -- The loaded limit changes nothing: the run is the one under `0 = unlimited`.
  have unlimited : run ⟨false, false⟩
      { rtsp := { reconnectIntervalMs := CInt.ofInt 100, reconnectMaxAttempts := CInt.ofInt 1 } }
        init buildFailsTwice =
      run ⟨false, false⟩ { rtsp := { reconnectIntervalMs := CInt.ofInt 100 } } init buildFailsTwice :=
    run_ignores_reconnectMaxAttempts _ { rtsp := { reconnectIntervalMs := CInt.ofInt 100 } }
      (CInt.ofInt 1) _ _
  refine ⟨{ rtsp := { reconnectIntervalMs := CInt.ofInt 100, reconnectMaxAttempts := CInt.ofInt 1 } },
    rfl, rfl, ?_⟩
  rw [unlimited]
  decide

/-- A graph plays and delivers a sample, its bus reports an error, and a second sample arrives
after `stats_.connected` was reset but before the graph is set to `NULL`. -/
def lateSampleRun : List Event :=
  [.setNalCallback, .start, .worker false, .worker false, .worker false, .worker false,
    .sample (some ⟨[1], some 0⟩) 0, .worker true, .worker false, .worker false,
    .sample (some ⟨[2], some 40000000⟩) 0, .worker false, .worker false, .worker false]

/-- After the late sample the worker is backing off, not running, with `connected` set. -/
theorem connected_while_backing_off :
    (run ⟨false, false⟩ {} init lateSampleRun).stats.connected = true ∧
      (run ⟨false, false⟩ {} init lateSampleRun).running = false ∧
      (run ⟨false, false⟩ {} init lateSampleRun).worker = some (.backoff 0) := by
  decide

/-! ## The running flag -/

/-- `running_` is set only while the worker is in its bus loop or about to leave it. -/
def RunningInBusLoop (p : RtspPipeline) : Prop :=
  p.running = true → p.worker = some .busLoop ∨ p.worker = some .leaveBus

theorem RunningInBusLoop.of_idle {p : RtspPipeline} (idle : p.running = false) :
    RunningInBusLoop p :=
  fun running => absurd (idle.symm.trans running) Bool.false_ne_true

theorem RunningInBusLoop.idle {p : RtspPipeline} (inv : RunningInBusLoop p)
    (outside : p.worker ≠ some .busLoop ∧ p.worker ≠ some .leaveBus) : p.running = false := by
  cases running : p.running
  · rfl
  · exact (inv running).elim (absurd · outside.1) (absurd · outside.2)

theorem start_runningInBusLoop {p : RtspPipeline} (inv : RunningInBusLoop p) :
    RunningInBusLoop (start p) := by
  unfold start
  split_ifs with running
  · exact inv
  all_goals exact .of_idle (by simpa using running)

theorem stopEnd_runningInBusLoop {p : RtspPipeline} (inv : RunningInBusLoop p) :
    RunningInBusLoop (stopEnd p) := by
  unfold stopEnd
  split
  case h_3 => exact inv
  all_goals
    have idle := inv.idle (by rw [‹p.worker = _›]; constructor <;> nofun)
    split <;> exact .of_idle idle

theorem workerStep_runningInBusLoop (platform : Platform) (config : AppConfig) {p : RtspPipeline}
    {phase : Phase} (current : p.worker = some phase) (inv : RunningInBusLoop p) (fault : Bool) :
    RunningInBusLoop (workerStep platform config p fault phase) := by
  cases phase with
  | markRunning => exact fun _ => .inl rfl
  | busLoop => simp only [workerStep]; split; exacts [fun _ => .inr rfl, inv]
  | leaveBus => exact .of_idle rfl
  | _ =>
    have idle := inv.idle (by rw [current]; constructor <;> nofun)
    simp only [workerStep]
    (try split) <;> exact .of_idle idle

theorem step_runningInBusLoop (platform : Platform) (config : AppConfig) {p : RtspPipeline}
    (inv : RunningInBusLoop p) (event : Event) : RunningInBusLoop (step platform config p event) := by
  unfold step
  split
  · exact inv
  cases event with
  | setNalCallback => exact inv
  | start => dsimp only; split_ifs; exacts [inv, start_runningInBusLoop inv]
  | stopBegin => dsimp only; split_ifs; exacts [inv, .of_idle rfl]
  | stopEnd => dsimp only; split_ifs; exacts [stopEnd_runningInBusLoop inv, inv]
  | setBitrate bitrateKbps => dsimp only; unfold setBitrate; split_ifs <;> exact inv
  | sample buffer _ => dsimp only; split_ifs; exacts [by cases buffer <;> exact inv, inv]
  | worker fault =>
      dsimp only
      split
      exacts [workerStep_runningInBusLoop platform config ‹_› inv fault, inv]

theorem run_runningInBusLoop (platform : Platform) (config : AppConfig) :
    ∀ {p : RtspPipeline}, RunningInBusLoop p → ∀ events,
      RunningInBusLoop (run platform config p events)
  | _, inv, [] => inv
  | _, inv, event :: rest =>
      run_runningInBusLoop platform config (step_runningInBusLoop platform config inv event) rest

theorem init_runningInBusLoop : RunningInBusLoop init := .of_idle rfl

/-- **A second `start` outside the bus loop terminates the process.** From every reachable
state in which the worker has not been joined and is building, tearing down, backing off or has
returned, and the main thread is not inside `stop`, `start` finds `running_` clear and
move-assigns onto the joinable `thread_`. -/
theorem start_terminates_outside_bus_loop (platform : Platform) (config : AppConfig)
    (events : List Event) {phase : Phase}
    (joinable : (run platform config init events).worker = some phase)
    (outside : phase ≠ .busLoop ∧ phase ≠ .leaveBus)
    (alive : (run platform config init events).terminated = false)
    (free : (run platform config init events).stopping = false) :
    (step platform config (run platform config init events) .start).terminated = true := by
  have idle := (run_runningInBusLoop platform config init_runningInBusLoop events).idle
    (by rw [joinable]; exact ⟨(outside.1 <| Option.some.inj ·), (outside.2 <| Option.some.inj ·)⟩)
  simp [step, start, alive, free, idle, joinable]

theorem start_terminates_after_start :
    ((run ⟨false, false⟩ {} init [.start]).worker = some .loopTest ∧ (Phase.loopTest ≠ .busLoop ∧
      Phase.loopTest ≠ .leaveBus) ∧ (run ⟨false, false⟩ {} init [.start]).terminated = false ∧
      (run ⟨false, false⟩ {} init [.start]).stopping = false) ∧
      (step ⟨false, false⟩ {} (run ⟨false, false⟩ {} init [.start]) .start).terminated = true :=
  ⟨⟨rfl, ⟨nofun, nofun⟩, rfl, rfl⟩,
    start_terminates_outside_bus_loop _ _ [.start] rfl ⟨nofun, nofun⟩ rfl rfl⟩

/-! ## The back-off loop -/

end RtspPipeline

end StreamServer

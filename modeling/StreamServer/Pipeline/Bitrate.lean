import StreamServer.Pipeline.Supervisor

/-! # The encoder's bitrate

A build gives the encoder the configured `bitrate_kbps` as it is, in bit/s for
`nvv4l2h264enc`, and `set_bitrate` gives it the request clamped to
`[min_bitrate_kbps, max_bitrate_kbps]` (`StreamServer.RtspPipeline.clampedBitrate`); either
value goes through a `guint` cast, and the element refuses one outside the range of its
`bitrate` (`StreamServer.RtspPipeline.BitrateSpec.set`). `load_config` checks no relation
between the three values, so the bounds hold of the encoder only for configurations that order
them and that the element accepts (`StreamServer.RtspPipeline.SaneBitrates`); for those, every
reachable state keeps the encoder within bounds (`StreamServer.RtspPipeline.EncoderWithin`,
kept by every step), and each condition is needed
(`StreamServer.RtspPipeline.encoder_leaves_bounds`).
-/

namespace StreamServer

namespace RtspPipeline

/-- The encoder's bitrate read in kbps: `nvv4l2h264enc` holds bit/s. -/
def encoderKbps (p : RtspPipeline) : Option Int :=
  p.encoder.map fun value => if p.isHwEncode then value / 1000 else value

/-- `encoder_` and `is_hw_encode_`, which together say what the encoder holds. -/
def encoderState (p : RtspPipeline) : Option Int × Bool := (p.encoder, p.isHwEncode)

/-- What a step of the worker does to `encoder_` and `is_hw_encode_`: nothing, or a build. -/
theorem workerStep_encoder (platform : Platform) (config : AppConfig) (p : RtspPipeline)
    (fault : Bool) : ∀ phase,
    encoderState (workerStep platform config p fault phase) = encoderState p ∨
      encoderState (workerStep platform config p fault phase) =
        buildEncoder platform config p.isHwEncode
  | .build => by
      cases fault
      · exact .inr rfl
      · exact .inl rfl
  | .setPlaying => .inl (by cases fault <;> rfl)
  | .busLoop => .inl (by simp only [workerStep]; split <;> rfl)
  | .reconnect => .inl (by simp only [workerStep]; split <;> rfl)
  | .backoff _ => .inl (by simp only [workerStep]; split <;> rfl)
  | .loopTest | .markRunning | .leaveBus | .resetConnected | .setNull | .afterTeardown
  | .exited => .inl rfl

theorem start_encoder (p : RtspPipeline) : encoderState (start p) = encoderState p := by
  unfold start
  split
  · rfl
  · split <;> rfl

theorem stopEnd_encoder (p : RtspPipeline) :
    encoderState (stopEnd p) = encoderState p ∨
      encoderState (stopEnd p) = (none, p.isHwEncode) := by
  unfold stopEnd
  split <;> (try split) <;> first | exact .inl rfl | exact .inr rfl

theorem onNewSample_encoder (p : RtspPipeline) (buffer : Option Buffer) :
    encoderState (onNewSample p buffer) = encoderState p := by
  cases buffer <;> rfl

@[simp] theorem setBitrate_isHwEncode (config : AppConfig) (p : RtspPipeline) (bitrateKbps : CInt) :
    (setBitrate config p bitrateKbps).isHwEncode = p.isHwEncode := by
  unfold setBitrate; split <;> rfl

/-- What a step does to `encoder_` and `is_hw_encode_`: nothing, a release by `stop`, a build,
or a `set_bitrate`. -/
theorem step_encoder (platform : Platform) (config : AppConfig) (p : RtspPipeline)
    (event : Event) :
    encoderState (step platform config p event) = encoderState p ∨
      encoderState (step platform config p event) = (none, p.isHwEncode) ∨
      encoderState (step platform config p event) = buildEncoder platform config p.isHwEncode ∨
      ∃ bitrateKbps, step platform config p event = setBitrate config p bitrateKbps := by
  unfold step
  split
  · exact .inl rfl
  cases event with
  | setBitrate bitrateKbps => exact .inr (.inr (.inr ⟨bitrateKbps, rfl⟩))
  | worker fault =>
      dsimp only
      split
      · exact (workerStep_encoder platform config p fault _).imp_right fun built => .inr (.inl built)
      · exact .inl rfl
  | stopEnd =>
      dsimp only
      split
      · exact (stopEnd_encoder p).imp_right .inl
      · exact .inl rfl
  | start =>
      dsimp only
      split
      · exact .inl rfl
      · exact .inl (start_encoder p)
  | sample buffer _ =>
      dsimp only
      split
      · exact .inl (onNewSample_encoder p buffer)
      · exact .inl rfl
  | stopBegin => exact .inl (by dsimp only; split <;> rfl)
  | setNalCallback => exact .inl rfl

/-! ## Staying within bounds -/

/-- The configurations whose bitrates keep the encoder within bounds: `min ≤ bitrate ≤ max`,
with bounds the element accepts as they are. Where the hardware encoder is built the value is
sent in bit/s through an `int` product and a `guint` cast, so the bounds must be non-negative
and the maximum in bit/s must fit an `int`; where `x264enc` is built they must lie in the range
`1 .. 2048000` of its `bitrate`. -/
structure SaneBitrates (platform : Platform) (config : AppConfig) : Prop where
  minLeBitrate : config.webrtc.video.minBitrateKbps.val ≤ config.webrtc.video.bitrateKbps.val
  bitrateLeMax : config.webrtc.video.bitrateKbps.val ≤ config.webrtc.video.maxBitrateKbps.val
  hwRange : platform.jetsonPlatform = true → config.encoding.hwEncode = true →
    0 ≤ config.webrtc.video.minBitrateKbps.val ∧ config.webrtc.video.maxBitrateKbps.val * 1000 < 2 ^ 31
  swRange : (platform.jetsonPlatform && config.encoding.hwEncode) = false →
    1 ≤ config.webrtc.video.minBitrateKbps.val ∧ config.webrtc.video.maxBitrateKbps.val ≤ 2048000

/-- `encoder_` and `is_hw_encode_` hold a bitrate within the configured bounds, in the unit of
the element the build named for this platform and configuration. -/
structure EncoderWithin (platform : Platform) (config : AppConfig) (state : Option Int × Bool) :
    Prop where
  backend : ∀ value ∈ state.1, state.2 = (platform.jetsonPlatform && config.encoding.hwEncode)
  within : ∀ value ∈ state.1, ∃ kbps, config.webrtc.video.minBitrateKbps.val ≤ kbps ∧
    kbps ≤ config.webrtc.video.maxBitrateKbps.val ∧ value = if state.2 then kbps * 1000 else kbps

section Within

variable {platform : Platform} {config : AppConfig}

theorem clampedBitrate_within (ordered : config.webrtc.video.minBitrateKbps.val ≤
    config.webrtc.video.maxBitrateKbps.val) (bitrateKbps : CInt) :
    config.webrtc.video.minBitrateKbps.val ≤ clampedBitrate config bitrateKbps ∧
      clampedBitrate config bitrateKbps ≤ config.webrtc.video.maxBitrateKbps.val := by
  unfold clampedBitrate
  omega

/-- Within bounds, the element the build named takes the value it is handed for `kbps` as it
is: the `int` product and the `guint` cast are exact, and the value lies in the property's
range. -/
theorem set_bitrateValue (sane : SaneBitrates platform config) {kbps : Int}
    (low : config.webrtc.video.minBitrateKbps.val ≤ kbps)
    (high : kbps ≤ config.webrtc.video.maxBitrateKbps.val) (held : Int) :
    (bitrateSpec (platform.jetsonPlatform && config.encoding.hwEncode)).set held
        (bitrateValue (platform.jetsonPlatform && config.encoding.hwEncode) kbps) =
      if platform.jetsonPlatform && config.encoding.hwEncode then kbps * 1000 else kbps := by
  cases hw : (platform.jetsonPlatform && config.encoding.hwEncode) with
  | true =>
      obtain ⟨jetson, hwEncode⟩ := Bool.and_eq_true_iff.mp hw
      obtain ⟨nonneg, fits⟩ := sane.hwRange jetson hwEncode
      have product : wrapInt (kbps * 1000) = kbps * 1000 := wrapInt_of_inRange (by omega)
      have cast : uint32Of (kbps * 1000) = kbps * 1000 := uint32Of_of_lt (by omega) (by omega)
      simp only [bitrateSpec, bitrateValue, if_true, product, cast]
      exact BitrateSpec.set_of_within (show 0 ≤ kbps * 1000 by omega)
        (show kbps * 1000 ≤ 2 ^ 32 - 1 by omega) held
  | false =>
      obtain ⟨positive, inRange⟩ := sane.swRange hw
      have cast : uint32Of kbps = kbps := uint32Of_of_lt (by omega) (by omega)
      simp only [bitrateSpec, bitrateValue, Bool.false_eq_true, if_false, cast]
      exact BitrateSpec.set_of_within (show 1 ≤ kbps by omega) (show kbps ≤ 2048000 by omega) held

theorem init_within : EncoderWithin platform config (encoderState init) :=
  ⟨nofun, nofun⟩

theorem buildEncoder_within (sane : SaneBitrates platform config) (isHwEncode : Bool) :
    EncoderWithin platform config (buildEncoder platform config isHwEncode) := by
  -- The element is the one of the platform and configuration, and takes the bitrate as it is.
  have stored : ∀ hw, (platform.jetsonPlatform && config.encoding.hwEncode) = hw →
      EncoderWithin platform config (some ((bitrateSpec hw).set (bitrateSpec hw).default
        (bitrateValue hw config.webrtc.video.bitrateKbps.val)), hw) := by
    rintro hw rfl
    exact ⟨fun _ _ => rfl, fun value member => ⟨_, sane.minLeBitrate, sane.bitrateLeMax,
      (Option.mem_some_iff.mp member).symm.trans
        (set_bitrateValue sane sane.minLeBitrate sane.bitrateLeMax _)⟩⟩
  unfold buildEncoder
  split
  · exact ⟨nofun, nofun⟩
  split
  · exact ⟨nofun, nofun⟩
  split
  · exact stored true ‹_›
  · exact stored false (Bool.eq_false_iff.mpr ‹_›)

/-- On a running pipeline with an encoder, `set_bitrate` leaves the encoder at the clamped
request, in the element's unit. -/
theorem setBitrate_encoder (sane : SaneBitrates platform config) {p : RtspPipeline}
    (wf : EncoderWithin platform config (encoderState p)) (running : p.running = true)
    {held : Int} (present : p.encoder = some held) (bitrateKbps : CInt) :
    (setBitrate config p bitrateKbps).encoder =
      some (if p.isHwEncode then clampedBitrate config bitrateKbps * 1000
        else clampedBitrate config bitrateKbps) := by
  obtain ⟨low, high⟩ := clampedBitrate_within
    (sane.minLeBitrate.trans sane.bitrateLeMax) bitrateKbps
  have backend : p.isHwEncode = (platform.jetsonPlatform && config.encoding.hwEncode) :=
    wf.backend held present
  unfold setBitrate
  rw [if_neg (by simp [running, present])]
  simp only [present, Option.map_some', backend]
  rw [set_bitrateValue sane low high]

theorem setBitrate_within (sane : SaneBitrates platform config) {p : RtspPipeline}
    (wf : EncoderWithin platform config (encoderState p)) (bitrateKbps : CInt) :
    EncoderWithin platform config (encoderState (setBitrate config p bitrateKbps)) := by
  cases present : p.encoder with
  | none => rwa [show setBitrate config p bitrateKbps = p by simp [setBitrate, present]]
  | some held =>
      by_cases running : p.running = true
      · obtain ⟨low, high⟩ := clampedBitrate_within
          (sane.minLeBitrate.trans sane.bitrateLeMax) bitrateKbps
        refine ⟨fun _ _ => (setBitrate_isHwEncode config p bitrateKbps).trans (wf.backend held present), ?_⟩
        simp only [encoderState, setBitrate_encoder sane wf running present, setBitrate_isHwEncode,
          Option.mem_def, Option.some.injEq]
        rintro value rfl
        exact ⟨_, low, high, rfl⟩
      · rwa [show setBitrate config p bitrateKbps = p by simp [setBitrate, running]]

/-- Every step keeps the encoder within bounds. -/
theorem step_within (sane : SaneBitrates platform config) {p : RtspPipeline}
    (wf : EncoderWithin platform config (encoderState p)) (event : Event) :
    EncoderWithin platform config (encoderState (step platform config p event)) := by
  rcases step_encoder platform config p event with same | released | built | ⟨bitrateKbps, set⟩
  · rwa [same]
  · rw [released]
    exact ⟨nofun, nofun⟩
  · rw [built]
    exact buildEncoder_within sane p.isHwEncode
  · rw [set]
    exact setBitrate_within sane wf bitrateKbps

theorem run_within (sane : SaneBitrates platform config) :
    ∀ {p : RtspPipeline} (events : List Event),
      EncoderWithin platform config (encoderState p) →
        EncoderWithin platform config (encoderState (run platform config p events))
  | _, [], wf => wf
  | _, event :: rest, wf => run_within sane rest (step_within sane wf event)

theorem encoderKbps_within {p : RtspPipeline}
    (wf : EncoderWithin platform config (encoderState p)) :
    ∀ kbps ∈ encoderKbps p, config.webrtc.video.minBitrateKbps.val ≤ kbps ∧
      kbps ≤ config.webrtc.video.maxBitrateKbps.val := by
  intro kbps member
  obtain ⟨value, held, rfl⟩ := Option.mem_map.mp member
  obtain ⟨kbps, low, high, rfl⟩ := wf.within value held
  cases hw : p.isHwEncode <;> simpa [encoderState, hw] using And.intro low high

end Within

/-- **The encoder's bitrate.** For a configuration with `min ≤ bitrate ≤ max` whose bounds the
element accepts as they are (`1 ≤ min`, `max ≤ 2048000` for `x264enc`; `0 ≤ min` and `max`
in bit/s within an `int` for `nvv4l2h264enc`), the encoder's bitrate read in kbps lies within
`[min, max]` in every reachable state, and `set_bitrate(k)` on a running pipeline with an
encoder leaves it at `clamp(k, min, max)`. -/
theorem encoder_kbps_clamped (platform : Platform) (config : AppConfig)
    (sane : SaneBitrates platform config) (events : List Event) (bitrateKbps : CInt) :
    (∀ kbps ∈ encoderKbps (run platform config init events),
        config.webrtc.video.minBitrateKbps.val ≤ kbps ∧
          kbps ≤ config.webrtc.video.maxBitrateKbps.val) ∧
      ((run platform config init events).running = true →
        (run platform config init events).encoder.isSome = true →
          encoderKbps (setBitrate config (run platform config init events) bitrateKbps) =
            some (clampedBitrate config bitrateKbps)) := by
  have wf := run_within sane events init_within
  refine ⟨encoderKbps_within wf, fun running present => ?_⟩
  obtain ⟨held, encoder⟩ := Option.isSome_iff_exists.mp present
  rw [encoderKbps, setBitrate_encoder sane wf running encoder, setBitrate_isHwEncode]
  cases (run platform config init events).isHwEncode <;> simp

/-- The spec's example in re-encode mode with the default bounds: a hint of 12000 kbps sets the
encoder to 8000. -/
theorem encoder_kbps_clamped_for_hint :
    SaneBitrates ⟨false, false⟩ { encoding := { passthrough := false } } ∧
      encoderKbps (setBitrate { encoding := { passthrough := false } }
        (run ⟨false, false⟩ { encoding := { passthrough := false } } init
          [.start, .worker false, .worker false, .worker false, .worker false])
        (CInt.ofInt 12000)) = some 8000 :=
  have sane : SaneBitrates ⟨false, false⟩ { encoding := { passthrough := false } } :=
    ⟨by decide, by decide, by decide, by decide⟩
  ⟨sane, ((encoder_kbps_clamped _ _ sane _ _).2 (by decide) (by decide)).trans (by decide)⟩

/-- A running re-encode pipeline: the worker builds the graph, sets it to `PLAYING` and enters
its bus loop. -/
def playing : List Event := [.start, .worker false, .worker false, .worker false, .worker false]

/-- Each condition on the bounds is needed, for configurations `load_config` returns:
- a bitrate above the maximum starts the encoder above it;
- a minimum and bitrate of `0` are refused by `x264enc`, which stays at its default `2048`,
  above a maximum of `1000`;
- a maximum past `2048000` makes `x264enc` refuse the clamped request, and keep `4000`;
- a negative minimum on the hardware encoder wraps through the `guint` cast, to `4294962` kbps;
- a maximum of `5000000` overflows the `int` product, and the encoder holds `705032` kbps. -/
theorem encoder_leaves_bounds :
    (∃ config, loadConfig
        { webrtc := some { video := some ⟨some (CInt.ofInt 10000), none, none⟩ }
          encoding := some ⟨none, some false⟩ } {} = some config ∧
      config.webrtc.video.maxBitrateKbps.val = 8000 ∧
      encoderKbps (run ⟨false, false⟩ config init playing) = some 10000) ∧
    (∃ config, loadConfig
        { webrtc := some { video := some ⟨some (CInt.ofInt 0), some (CInt.ofInt 1000), some (CInt.ofInt 0)⟩ }
          encoding := some ⟨none, some false⟩ } {} = some config ∧
      encoderKbps (run ⟨false, false⟩ config init playing) = some 2048) ∧
    (∃ config, loadConfig
        { webrtc := some { video := some ⟨none, some (CInt.ofInt 3000000), none⟩ }
          encoding := some ⟨none, some false⟩ } {} = some config ∧
      clampedBitrate config (CInt.ofInt 3000000) = 3000000 ∧
      encoderKbps (setBitrate config (run ⟨false, false⟩ config init playing) (CInt.ofInt 3000000)) =
        some 4000) ∧
    (∃ config, loadConfig
        { webrtc := some { video := some ⟨none, none, some (CInt.ofInt (-10))⟩ }
          encoding := some ⟨some true, some false⟩ } {} = some config ∧
      clampedBitrate config (CInt.ofInt (-5)) = -5 ∧
      encoderKbps (setBitrate config (run ⟨true, false⟩ config init playing) (CInt.ofInt (-5))) =
        some 4294962) ∧
    (∃ config, loadConfig
        { webrtc := some { video := some ⟨none, some (CInt.ofInt 5000000), none⟩ }
          encoding := some ⟨some true, some false⟩ } {} = some config ∧
      clampedBitrate config (CInt.ofInt 5000000) = 5000000 ∧
      encoderKbps (setBitrate config (run ⟨true, false⟩ config init playing) (CInt.ofInt 5000000)) =
        some 705032) :=
  ⟨⟨_, rfl, by decide, by decide⟩, ⟨_, rfl, by decide⟩, ⟨_, rfl, by decide, by decide⟩,
    ⟨_, rfl, by decide, by decide⟩, ⟨_, rfl, by decide, by decide⟩⟩

end RtspPipeline

end StreamServer

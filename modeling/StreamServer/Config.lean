import StreamServer.Cpp.Basic

/-! # Configuration

The sections of `AppConfig` with the defaults of `config.hpp`, restricted to the fields that
the modelled functions read (`StreamServer.AppConfig`), and `load_config`
(`StreamServer.loadConfig`): a field takes its YAML value when its section and key are
present and convert, and `RTSP_URL` then overrides from the environment, as do
`SIGNALING_PORT`, `VIDEO_BITRATE_KBPS` and `VIDEO_MAX_BITRATE_KBPS` through `std::stoi`, which
throws on a text without digits or outside the `int` range. Nothing relates the values to each
other.
-/

namespace StreamServer

/-- `RtspConfig`. -/
structure RtspConfig where
  url : List Char := []
  reconnectIntervalMs : CInt := CInt.ofInt 3000
  /-- `0 = unlimited`. -/
  reconnectMaxAttempts : CInt := CInt.ofInt 0
deriving DecidableEq

/-- `VideoConfig`. -/
structure VideoConfig where
  bitrateKbps : CInt := CInt.ofInt 4000
  maxBitrateKbps : CInt := CInt.ofInt 8000
  minBitrateKbps : CInt := CInt.ofInt 500
deriving DecidableEq

/-- `WebRtcConfig`. -/
structure WebRtcConfig where
  maxPeers : CInt := CInt.ofInt 4
  video : VideoConfig := {}
deriving DecidableEq

/-- `EncodingConfig`. -/
structure EncodingConfig where
  hwEncode : Bool := false
  passthrough : Bool := true
deriving DecidableEq

/-- `AppConfig`. -/
structure AppConfig where
  rtsp : RtspConfig := {}
  webrtc : WebRtcConfig := {}
  encoding : EncodingConfig := {}
deriving DecidableEq

/-- The keys of the `rtsp` section; `none` where the key is absent or does not convert, so
that `as<T>(fallback)` answers the fallback. -/
structure RtspSection where
  url : Option (List Char) := none
  reconnectIntervalMs : Option CInt := none
  reconnectMaxAttempts : Option CInt := none

/-- The keys of `webrtc.video`. -/
structure VideoSection where
  bitrateKbps : Option CInt := none
  maxBitrateKbps : Option CInt := none
  minBitrateKbps : Option CInt := none

/-- The keys of the `webrtc` section. -/
structure WebRtcSection where
  maxPeers : Option CInt := none
  video : Option VideoSection := none

/-- The keys of the `encoding` section. -/
structure EncodingSection where
  hwEncode : Option Bool := none
  passthrough : Option Bool := none

/-- A loaded YAML document, section by section. -/
structure YamlDoc where
  rtsp : Option RtspSection := none
  webrtc : Option WebRtcSection := none
  encoding : Option EncodingSection := none

/-- The environment variables `load_config` reads into modelled fields. -/
structure Env where
  rtspUrl : Option (List Char) := none
  signalingPort : Option (List Char) := none
  videoBitrateKbps : Option (List Char) := none
  videoMaxBitrateKbps : Option (List Char) := none

/-- The bytes `isspace` accepts in the C locale. -/
def isSpace (c : Char) : Bool :=
  c = ' ' ∨ c = '\t' ∨ c = '\n' ∨ c = Char.ofNat 11 ∨ c = Char.ofNat 12 ∨ c = '\r'

/-- `std::stoi`: leading white space, an optional sign and the decimal digits up to the
first other byte; `none` where it throws, for want of a digit or outside the `int` range. -/
def stoi (text : List Char) : Option CInt :=
  let body := text.dropWhile isSpace
  let negative := body.head? = some '-'
  let unsigned := if body.head? = some '-' ∨ body.head? = some '+' then body.drop 1 else body
  let digits := unsigned.takeWhile Char.isDigit
  let magnitude : Int := digits.foldl (fun acc d => acc * 10 + (d.toNat - '0'.toNat)) 0
  let value := if negative then -magnitude else magnitude
  if digits = [] then none
  else if inside : -2 ^ 31 ≤ value ∧ value < 2 ^ 31 then some ⟨value, inside⟩ else none

/-- `env_int_or`: the variable through `std::stoi`, or the fallback when it is unset. -/
def envIntOr (setting : Option (List Char)) (fallback : CInt) : Option CInt :=
  match setting with
  | some text => stoi text
  | none => some fallback

/-- `load_config` on a loaded document; `none` when `std::stoi` throws. -/
def loadConfig (doc : YamlDoc) (env : Env) : Option AppConfig := do
  let defaults : AppConfig := {}
  let rtsp : RtspConfig := match doc.rtsp with
    | some r =>
        { url := r.url.getD []
          reconnectIntervalMs := r.reconnectIntervalMs.getD defaults.rtsp.reconnectIntervalMs
          reconnectMaxAttempts := r.reconnectMaxAttempts.getD defaults.rtsp.reconnectMaxAttempts }
    | none => defaults.rtsp
  let webrtc : WebRtcConfig := match doc.webrtc with
    | some w =>
        { maxPeers := w.maxPeers.getD defaults.webrtc.maxPeers
          video := match w.video with
            | some v =>
                { bitrateKbps := v.bitrateKbps.getD defaults.webrtc.video.bitrateKbps
                  maxBitrateKbps := v.maxBitrateKbps.getD defaults.webrtc.video.maxBitrateKbps
                  minBitrateKbps := v.minBitrateKbps.getD defaults.webrtc.video.minBitrateKbps }
            | none => defaults.webrtc.video }
    | none => defaults.webrtc
  let encoding : EncodingConfig := match doc.encoding with
    | some e =>
        { hwEncode := e.hwEncode.getD defaults.encoding.hwEncode
          passthrough := e.passthrough.getD defaults.encoding.passthrough }
    | none => defaults.encoding
  -- The port `SIGNALING_PORT` sets is read by no modelled function; only its `std::stoi` counts.
  let _ ← envIntOr env.signalingPort (CInt.ofInt 8080)
  let bitrate ← envIntOr env.videoBitrateKbps webrtc.video.bitrateKbps
  let maxBitrate ← envIntOr env.videoMaxBitrateKbps webrtc.video.maxBitrateKbps
  return { rtsp := { rtsp with url := env.rtspUrl.getD rtsp.url }
           webrtc := { webrtc with
             video := { webrtc.video with bitrateKbps := bitrate, maxBitrateKbps := maxBitrate } }
           encoding }

end StreamServer

import StreamServer.Cpp.Basic

/-! # One WebRTC peer

A `PeerConnection` object is modelled by the fields its methods read and write: the flags
that the WebRTC stack's callbacks set, the RTP timestamp of its packetizer configuration and
its send counters (`StreamServer.PeerConnection`). Each object carries the place of its SSRC
draw among all draws, which names it as its address does in the process.

`send_h264_nal` does nothing unless the peer is connected and its track open; otherwise it
stamps the RTP timestamp and hands the buffer to the track, and counts the buffer only when
that send does not throw (`StreamServer.PeerConnection.sendH264Nal_stats`). The RTP timestamp
is the `uint64_t` product of the timestamp with the clock rate, divided and cast
(`StreamServer.PeerConnection.rtpTimestampOf`), so it wraps past `2 ^ 64 / 90000` µs.
-/

namespace StreamServer

/-- `rtc::PeerConnection::State`. -/
inductive PeerState
  | new
  | connecting
  | connected
  | disconnected
  | failed
  | closed
deriving DecidableEq, Repr

/-- The `state_str` that `onStateChange` writes into the stats. -/
def PeerState.name : PeerState → List Char
  | .new => "new".toList
  | .connecting => "connecting".toList
  | .connected => "connected".toList
  | .disconnected => "disconnected".toList
  | .failed => "failed".toList
  | .closed => "closed".toList

/-- `PeerConnection::Stats`; the counters are `uint64_t`. -/
structure PeerStats where
  rtpPacketsSent : Nat := 0
  bytesSent : Nat := 0
  state : List Char := "new".toList
deriving DecidableEq, Repr, Inhabited

/-- One access unit as the media pipeline hands it over: the buffer and its timestamp in
microseconds (`uint64_t`). -/
structure Nal where
  data : List UInt8
  timestampUs : Nat
deriving DecidableEq, Repr

/-- `rtc::H264RtpPacketizer::defaultClockRate`. -/
def defaultClockRate : Nat := 90000

/-- The RTP timestamp `send_h264_nal` stores: the `uint64_t` product with the clock rate,
divided by `1'000'000` and cast to `uint32_t`. -/
def rtpTimestampOf (timestampUs : Nat) : Nat :=
  timestampUs * defaultClockRate % 2 ^ 64 / 1000000 % 2 ^ 32

/-- A `PeerConnection` object. -/
structure PeerConnection where
  /-- The place of this object's SSRC draw among all draws of `next_ssrc_`. -/
  serial : Nat
  peerId : List Char
  ssrc : Nat
  needsKeyframe : Bool
  connected : Bool
  closed : Bool
  /-- `video_track_->isOpen()`, as the stack reports it. -/
  trackOpen : Bool
  /-- `rtp_config_->timestamp`. -/
  rtpTimestamp : Nat
  stats : PeerStats
deriving DecidableEq, Repr, Inhabited

namespace PeerConnection

/-- The constructor after `setup_connection` returns: `startTimestamp` is the random start of
the packetizer configuration's RTP clock. -/
def create (serial : Nat) (peerId : List Char) (ssrc startTimestamp : Nat) : PeerConnection where
  serial := serial
  peerId := peerId
  ssrc := ssrc
  needsKeyframe := true
  connected := false
  closed := false
  trackOpen := false
  rtpTimestamp := startTimestamp
  stats := {}

/-- The `onStateChange` callback. -/
def onStateChange (peer : PeerConnection) (state : PeerState) : PeerConnection :=
  { peer with
    connected := state = .connected
    closed := peer.closed || state = .closed || state = .failed
    stats := { peer.stats with state := state.name } }

/-- The track's `onOpen` callback; the track is open from then on. -/
def onTrackOpen (peer : PeerConnection) : PeerConnection :=
  { peer with trackOpen := true, needsKeyframe := true }

/-- The track closes; its `onClosed` callback only logs. -/
def onTrackClosed (peer : PeerConnection) : PeerConnection :=
  { peer with trackOpen := false }

/-- `handle_answer`: the remote description goes to the stack, and a keyframe is needed. -/
def handleAnswer (peer : PeerConnection) : PeerConnection :=
  { peer with needsKeyframe := true }

/-- The guard of `send_h264_nal` (`video_track_` is never null after construction). -/
def passesGuard (peer : PeerConnection) : Bool :=
  peer.connected && peer.trackOpen

/-- `send_h264_nal`; `sendThrows` says whether `video_track_->send` throws. -/
def sendH264Nal (peer : PeerConnection) (nal : Nal) (sendThrows : Bool) : PeerConnection :=
  if !peer.passesGuard then peer
  else
    let stamped := { peer with rtpTimestamp := rtpTimestampOf nal.timestampUs }
    if sendThrows then stamped
    else
      { stamped with
        stats := { stamped.stats with
          rtpPacketsSent := (stamped.stats.rtpPacketsSent + 1) % 2 ^ 64
          bytesSent := (stamped.stats.bytesSent + nal.data.length) % 2 ^ 64 } }

/-- `send_h264_nal` counts one packet and the buffer's bytes when the guard passes and the
send does not throw, and leaves the counters alone otherwise. -/
theorem sendH264Nal_stats (peer : PeerConnection) (nal : Nal) (sendThrows : Bool) :
    (peer.sendH264Nal nal sendThrows).stats =
      if peer.passesGuard && !sendThrows then
        { peer.stats with
          rtpPacketsSent := (peer.stats.rtpPacketsSent + 1) % 2 ^ 64
          bytesSent := (peer.stats.bytesSent + nal.data.length) % 2 ^ 64 }
      else peer.stats := by
  unfold sendH264Nal
  cases peer.passesGuard <;> cases sendThrows <;> rfl

/-- `send_h264_nal` changes no field but the RTP timestamp and the counters. -/
theorem sendH264Nal_frame (peer : PeerConnection) (nal : Nal) (sendThrows : Bool) :
    let sent := peer.sendH264Nal nal sendThrows
    sent.serial = peer.serial ∧ sent.peerId = peer.peerId ∧ sent.ssrc = peer.ssrc ∧
      sent.connected = peer.connected ∧ sent.closed = peer.closed := by
  unfold sendH264Nal
  cases peer.passesGuard <;> cases sendThrows <;> simp

/-- The payload the `onLocalCandidate` callback hands to the signaling callback: a JSON object
written by concatenation, the candidate and its mid put between quotes as they are. -/
def localCandidatePayload (candidate mid : List Char) : List Char :=
  "\x7b\"candidate\":\"".toList ++ candidate ++ "\",\"sdpMid\":\"".toList ++ mid ++ "\"\x7d".toList

end PeerConnection

end StreamServer

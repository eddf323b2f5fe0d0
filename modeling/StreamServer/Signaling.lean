import StreamServer.Json.Roundtrip
import StreamServer.Peer.Connection

/-! # The signaling socket

The signaling server speaks JSON with each browser over one WebSocket. The callback it gives each
session, `sig_cb`, turns a description or a candidate of the session into a frame
(`StreamServer.SignalingServer.sigCb`): the object is built with `operator[]` and written with
`dump`, and a candidate's payload is first decoded with `json::parse`, its text kept as a string
where that throws. `on_client_message` decodes a frame of the browser and makes at most one call
(`StreamServer.SignalingServer.onClientMessage`); a `json::exception` met while decoding is
caught, and the frame dropped. It does what the protocol's cases say, value by value
(`StreamServer.SignalingServer.expectedActions`).

The payload of a local candidate
is written by concatenation (`StreamServer.PeerConnection.localCandidatePayload`), so the frame
carries the candidate and its mid as they are only while they hold no character that JSON
escapes.
-/

namespace StreamServer

namespace SignalingServer

/-- The object `sig_cb` builds for a message of the session: its `type`, and the payload as
`sdp` for a description, or decoded as `data` for a candidate, the text itself where it is not
JSON. -/
def signalingMessage (type payload : List Char) : List (List Char × Json) :=
  let msg := Json.setKey [] "type".toList (.string type)
  if type = "offer".toList ∨ type = "answer".toList then
    Json.setKey msg "sdp".toList (.string payload)
  else if type = "candidate".toList then
    Json.setKey msg "data".toList
      (match Json.parse payload with
        | .ok data => data
        | .error _ => .string payload)
  else msg

/-- `sig_cb`: the frame it sends, none when the socket is gone and `ws_weak.lock()` fails. -/
def sigCb (socketAlive : Bool) (type payload : List Char) : Option (List Char) :=
  if socketAlive then some (Json.dump (.object (signalingMessage type payload))) else none

/-- The `onLocalCandidate` callback of a session: its payload handed to `sig_cb`. -/
def onLocalCandidate (socketAlive : Bool) (candidate mid : List Char) : Option (List Char) :=
  sigCb socketAlive "candidate".toList (PeerConnection.localCandidatePayload candidate mid)

/-- A candidate and a mid of plain characters: the payload is the `dump` of the object it
spells. -/
theorem localCandidatePayload_eq_dump {candidate mid : List Char}
    (plainCandidate : ∀ c ∈ candidate, Json.plainChar c = true)
    (plainMid : ∀ c ∈ mid, Json.plainChar c = true) :
    PeerConnection.localCandidatePayload candidate mid =
      Json.dump (Json.ofMembers [("candidate".toList, .string candidate), ("sdpMid".toList, .string mid)]) := by
  show _ = Json.dump (.object [("candidate".toList, .string candidate), ("sdpMid".toList, .string mid)])
  simp only [PeerConnection.localCandidatePayload, Json.dump, Json.dump.dumpMembers,
    Json.escapeString_of_plain plainCandidate, Json.escapeString_of_plain plainMid,
    List.append_assoc, List.cons_append, List.singleton_append, List.nil_append]
  rfl

/-- The object of a candidate's data is one that `parse` reads back from its `dump`. -/
theorem candidateData_canonical (candidate mid : List Char) :
    Json.Canonical
      (Json.ofMembers [("candidate".toList, .string candidate), ("sdpMid".toList, .string mid)]) := by
  show Json.Canonical (.object [("candidate".toList, .string candidate), ("sdpMid".toList, .string mid)])
  exact .object_pair (by decide) (.string candidate) (.string mid)

/-- For a candidate, `sig_cb` puts the decoded payload, or its text, beside the type. -/
theorem signalingMessage_candidate (payload : List Char) :
    signalingMessage "candidate".toList payload =
      [("data".toList, match Json.parse payload with
          | .ok data => data
          | .error _ => .string payload),
        ("type".toList, .string "candidate".toList)] :=
  rfl

theorem localCandidate_frame_reads_back {candidate mid : List Char}
    (plainCandidate : ∀ c ∈ candidate, Json.plainChar c = true)
    (plainMid : ∀ c ∈ mid, Json.plainChar c = true) :
    ∃ frame, onLocalCandidate true candidate mid = some frame ∧
      Json.parse frame = .ok (Json.ofMembers [("type".toList, .string "candidate".toList),
        ("data".toList, Json.ofMembers
          [("candidate".toList, .string candidate), ("sdpMid".toList, .string mid)])]) := by
  refine ⟨_, rfl, ?_⟩
  show Json.parse (Json.dump (.object (signalingMessage _ _))) = _
  rw [signalingMessage_candidate, localCandidatePayload_eq_dump plainCandidate plainMid,
    Json.parse_dump (candidateData_canonical candidate mid)]
  exact Json.parse_dump (.object_pair (by decide) (candidateData_canonical candidate mid) (.string _))

theorem quoted_candidate_frame :
    ∃ frame, onLocalCandidate true ['a', '"'] ['0'] = some frame ∧
      Json.parse frame = .ok (Json.ofMembers [("type".toList, .string "candidate".toList),
        ("data".toList, .string (PeerConnection.localCandidatePayload ['a', '"'] ['0']))]) ∧
      Json.parse frame ≠ .ok (Json.ofMembers [("type".toList, .string "candidate".toList),
        ("data".toList, Json.ofMembers
          [("candidate".toList, .string ['a', '"']), ("sdpMid".toList, .string ['0'])])]) := by
  have rejected :
      Json.parse (PeerConnection.localCandidatePayload ['a', '"'] ['0']) = .error .parseError :=
    rfl
  have parsed : Json.parse (Json.dump (.object (signalingMessage "candidate".toList
      (PeerConnection.localCandidatePayload ['a', '"'] ['0'])))) =
      .ok (Json.ofMembers [("type".toList, .string "candidate".toList),
        ("data".toList, .string (PeerConnection.localCandidatePayload ['a', '"'] ['0']))]) := by
    rw [signalingMessage_candidate, rejected]
    exact Json.parse_dump (.object_pair (by decide) (.string _) (.string _))
  refine ⟨_, rfl, parsed, ?_⟩
  rw [parsed]
  intro same
  cases same

theorem host_candidate_frame_reads_back :
    (∀ c ∈ "candidate:1 1 UDP 2122317823 192.168.1.2 50000 typ host".toList,
        Json.plainChar c = true) ∧
      (∀ c ∈ "0".toList, Json.plainChar c = true) ∧
      ∃ frame, onLocalCandidate true "candidate:1 1 UDP 2122317823 192.168.1.2 50000 typ host".toList
          "0".toList = some frame ∧
        Json.parse frame = .ok (Json.ofMembers [("type".toList, .string "candidate".toList),
          ("data".toList, Json.ofMembers
            [("candidate".toList, .string "candidate:1 1 UDP 2122317823 192.168.1.2 50000 typ host".toList),
              ("sdpMid".toList, .string "0".toList)])]) :=
  ⟨by decide, by decide, localCandidate_frame_reads_back (by decide) (by decide)⟩

/-- A call `on_client_message` makes. -/
inductive Action
  /-- `webrtc_server_.handle_answer(peer_id, sdp)`. -/
  | handleAnswer (peerId sdp : List Char)
  /-- `webrtc_server_.handle_candidate(peer_id, candidate, mid)`. -/
  | handleCandidate (peerId candidate mid : List Char)
  /-- `ws->send(frame)`. -/
  | send (frame : List Char)
deriving DecidableEq, Repr

/-- The body of `on_client_message`'s `try`: the calls it makes, or the `json::exception` that
ends it. -/
def onClientMessageBody (peerId message : List Char) : Except JsonException (List Action) := do
  let msg ← Json.parse message
  let type ← msg.valueString "type".toList []
  if type = "answer".toList then
    let sdp ← msg.valueString "sdp".toList []
    return if sdp.isEmpty then [] else [.handleAnswer peerId sdp]
  else if type = "candidate".toList then
    let data ← msg.valueJson "data".toList (.object [])
    let candidate ← data.valueString "candidate".toList []
    let mid ← data.valueString "sdpMid".toList "0".toList
    return if candidate.isEmpty then [] else [.handleCandidate peerId candidate mid]
  else if type = "ping".toList then
    return [.send (Json.dump (.object (Json.setKey [] "type".toList (.string "pong".toList))))]
  else
    return []

/-- `on_client_message`: a `json::exception` is logged and the frame dropped. -/
def onClientMessage (peerId message : List Char) : List Action :=
  match onClientMessageBody peerId message with
  | .ok actions => actions
  | .error _ => []

/-- What the protocol says a frame of the browser leads to: an object whose `type` is `answer`
and whose `sdp` is a non-empty string hands that answer over; one whose `type` is `candidate`
and whose `data` is an object with a non-empty string `candidate` hands the candidate over, with
the string `sdpMid` of the data or `0` where it has none; `ping` is answered with `pong`; every
other frame leads to nothing. -/
def expectedActions (peerId message : List Char) : List Action :=
  match Json.parse message with
  | .ok (.object msg) =>
      match Json.find msg "type".toList with
      | some (.string type) =>
          if type = "answer".toList then
            match Json.find msg "sdp".toList with
            | some (.string (c :: sdp)) => [.handleAnswer peerId (c :: sdp)]
            | _ => []
          else if type = "candidate".toList then
            match Json.find msg "data".toList with
            | some (.object data) =>
                match Json.find data "candidate".toList, Json.find data "sdpMid".toList with
                | some (.string (c :: candidate)), some (.string mid) =>
                    [.handleCandidate peerId (c :: candidate) mid]
                | some (.string (c :: candidate)), none =>
                    [.handleCandidate peerId (c :: candidate) "0".toList]
                | _, _ => []
            | _ => []
          else if type = "ping".toList then [.send "\x7b\"type\":\"pong\"\x7d".toList]
          else []
      | _ => []
  | _ => []

theorem onClientMessage_eq_expectedActions (peerId message : List Char) :
    onClientMessage peerId message = expectedActions peerId message := by
  unfold onClientMessage onClientMessageBody expectedActions
  cases Json.parse message with
  | error e => rfl
  | ok msg =>
      cases msg with
      | object members =>
          simp only [bind, Except.bind, pure, Except.pure, Json.valueString, Json.valueJson]
          cases Json.find members "type".toList with
          | none => rfl
          | some type =>
              cases type with
              | string type =>
                  dsimp only
                  split_ifs with answer candidate ping
                  · cases Json.find members "sdp".toList with
                    | none => rfl
                    | some sdp =>
                        cases sdp with
                        | string sdp => cases sdp <;> rfl
                        | _ => rfl
                  · cases Json.find members "data".toList with
                    | none => rfl
                    | some data =>
                        cases data with
                        | object data =>
                            simp only [Option.getD_some]
                            cases Json.find data "candidate".toList with
                            | none =>
                                cases Json.find data "sdpMid".toList with
                                | none => rfl
                                | some mid => cases mid <;> rfl
                            | some candidate =>
                                cases candidate with
                                | string candidate =>
                                    cases Json.find data "sdpMid".toList with
                                    | none => cases candidate <;> rfl
                                    | some mid => cases mid <;> cases candidate <;> rfl
                                | _ => rfl
                        | _ => rfl
                  · rfl
                  · rfl
              | _ => rfl
      | _ => rfl

end SignalingServer

end StreamServer

import UniverEscrow.Js.IntegerText
import UniverEscrow.Js.Throw
import UniverEscrow.Lib.Except
import UniverEscrow.Lib.Run
import UniverEscrow.Merkle.Sha256
import UniverEscrow.Security.RateLimit

/-!
# Frames of a connection

Each chunk that a socket receives is handed to the event handlers in a numbered frame with a
checksum.  The number is counted up, and the clock read again, before the checksum is computed.
-/

namespace UniverEscrow.Infrastructure

open UniverEscrow.Js UniverEscrow.Merkle UniverEscrow.Lib
open UniverEscrow.Security (counterValue counterValue_succ)

/-! ## Frames -/

/-- A frame without its checksum. -/
structure UncheckedFrame where
  connectionId : String
  sequenceNumber : JsNumber
  payload : List UInt8
  timestamp : ℤ

structure VsockFrame extends UncheckedFrame where
  checksum : String

def FRAME_DOMAIN : String := "VSOCK_FRAME_V1"

/-- `Buffer.from(s)`. -/
def bufferFrom (s : String) : List UInt8 := s.toList.flatMap String.utf8EncodeChar

/-- What the checksum is computed from. -/
def checksumData (frame : UncheckedFrame) : List UInt8 :=
  bufferFrom FRAME_DOMAIN ++ bufferFrom frame.connectionId ++
    bufferFrom frame.sequenceNumber.toText ++ frame.payload ++
      bufferFrom (JsNumber.ofInt frame.timestamp).toText

variable (sha256 : List UInt8 → HexDigest)

/-- The first sixteen digits of a hash. -/
def shortHash (data : List UInt8) : String := String.ofList ((sha256 data).text.toList.take 16)

def computeChecksum (frame : UncheckedFrame) : String := shortHash sha256 (checksumData frame)

/-! ## Connections -/

inductive VsockChannelState where
  | CONNECTING | CONNECTED | DISCONNECTED | ERROR
deriving DecidableEq

inductive VsockEventType where
  | CONNECTED | DISCONNECTED | ERROR | DATA | KEEPALIVE
deriving DecidableEq

structure VsockChannelEvent where
  type : VsockEventType
  connectionId : String
  timestamp : ℤ
  data : Option VsockFrame := none
  error : Option String := none

structure InternalConnection where
  id : String
  remoteCid : JsNumber
  remotePort : JsNumber
  state : VsockChannelState
  createdAt : ℤ
  lastActivityAt : ℤ
  sequenceNumber : JsNumber

/-- A connection, whether the adapter still lists it, and what its handlers have been given. -/
structure VsockChannel where
  connection : InternalConnection
  listed : Bool
  emitted : List VsockChannelEvent

def generateConnectionId (remoteCid remotePort : JsNumber) (unique : String) : String :=
  remoteCid.toText ++ "-" ++ remotePort.toText ++ "-" ++ unique

def isValidCid (cid : JsNumber) : Bool :=
  cid.isInteger && (JsNumber.ofInt 0).le cid && cid.le (.ofInt 0xffffffff)

def isValidPort (port : JsNumber) : Bool :=
  port.isInteger && (JsNumber.ofInt 1).le port && port.le (.ofInt 0xffff)

/-- `connect` up to the socket: the connection that the handlers are then attached to. -/
def VsockBridgeAdapter.connect (isRunning : Bool) (remoteCid remotePort : JsNumber)
    (unique : String) (createdMs activityMs : ℤ) : Except String VsockChannel := do
  throwUnless isRunning "VsockBridgeAdapter not started"
  throwUnless (isValidCid remoteCid) ("Invalid VSOCK CID: " ++ remoteCid.toText)
  throwUnless (isValidPort remotePort) ("Invalid VSOCK port: " ++ remotePort.toText)
  return {
    connection := {
      id := generateConnectionId remoteCid remotePort unique
      remoteCid := remoteCid
      remotePort := remotePort
      state := .CONNECTING
      createdAt := createdMs
      lastActivityAt := activityMs
      sequenceNumber := .ofInt 0 }
    listed := true
    emitted := [] }

/-- A chunk, and the clock as the handler reads it, reading after reading. -/
structure DataChunk where
  data : List UInt8
  activityMs : ℤ
  frameMs : ℤ
  checksumMs : ℤ
  eventMs : ℤ

/-- What happens to a connection: the events of the socket, the callback and the timer of
`connect`, and the adapter closing it. -/
inductive SocketEvent where
  | connect (activityMs eventMs : ℤ)
  | error (message : String) (eventMs : ℤ)
  | close (eventMs : ℤ)
  | data (chunk : DataChunk)
  | opened
  | timeout
  | closeConnection (emit : Bool) (eventMs : ℤ)

namespace VsockChannel

def emitEvent (channel : VsockChannel) (event : VsockChannelEvent) : VsockChannel :=
  { channel with emitted := channel.emitted ++ [event] }

def setState (channel : VsockChannel) (state : VsockChannelState) : VsockChannel :=
  { channel with connection := { channel.connection with state := state } }

/-- The frame of the next chunk: the number is read before it is counted up, the checksum has it
after that. -/
def nextFrame (channel : VsockChannel) (chunk : DataChunk) : VsockFrame where
  connectionId := channel.connection.id
  sequenceNumber := channel.connection.sequenceNumber
  payload := chunk.data
  timestamp := chunk.frameMs
  checksum := computeChecksum sha256 {
    connectionId := channel.connection.id
    sequenceNumber := channel.connection.sequenceNumber.add (.ofInt 1)
    payload := chunk.data
    timestamp := chunk.checksumMs }

def step (channel : VsockChannel) : SocketEvent → VsockChannel
  | .connect activityMs eventMs =>
      emitEvent { channel with
        connection := { channel.connection with
          state := .CONNECTED, lastActivityAt := activityMs } }
        { type := .CONNECTED, connectionId := channel.connection.id, timestamp := eventMs }
  | .error message eventMs =>
      (channel.setState .ERROR).emitEvent
        { type := .ERROR, connectionId := channel.connection.id, timestamp := eventMs,
          error := some message }
  | .close eventMs =>
      let closed := { channel.setState .DISCONNECTED with listed := false }
      if channel.connection.state ≠ .DISCONNECTED then
        closed.emitEvent
          { type := .DISCONNECTED, connectionId := channel.connection.id, timestamp := eventMs }
      else closed
  | .data chunk =>
      emitEvent { channel with
        connection := { channel.connection with
          lastActivityAt := chunk.activityMs
          sequenceNumber := channel.connection.sequenceNumber.add (.ofInt 1) } }
        { type := .DATA, connectionId := channel.connection.id, timestamp := chunk.eventMs,
          data := some (channel.nextFrame sha256 chunk) }
  | .opened => channel.setState .CONNECTED
  | .timeout => channel.setState .ERROR
  | .closeConnection emit eventMs =>
      if channel.listed then
        let closed := { channel.setState .DISCONNECTED with listed := false }
        if emit then
          closed.emitEvent
            { type := .DISCONNECTED, connectionId := channel.connection.id, timestamp := eventMs }
        else closed
      else channel

/-- The frames that the handlers have been given. -/
def frames (channel : VsockChannel) : List VsockFrame := channel.emitted.filterMap (·.data)

end VsockChannel

/-- The chunk of a data event. -/
def SocketEvent.chunk? : SocketEvent → Option DataChunk
  | .data chunk => some chunk
  | _ => none

def chunksOf (events : List SocketEvent) : List DataChunk := events.filterMap SocketEvent.chunk?

/-! ## What the frames are -/

/-- The frame of chunk `n`, without its checksum. -/
def ownFrame (connectionId : String) (n : ℕ) (chunk : DataChunk) : UncheckedFrame :=
  ⟨connectionId, counterValue n, chunk.data, chunk.frameMs⟩

/-- What its checksum is computed from. -/
def checkedFrame (connectionId : String) (n : ℕ) (chunk : DataChunk) : UncheckedFrame :=
  ⟨connectionId, counterValue (n + 1), chunk.data, chunk.checksumMs⟩

def frameOf (connectionId : String) (p : DataChunk × ℕ) : VsockFrame :=
  ⟨ownFrame connectionId p.2 p.1, computeChecksum sha256 (checkedFrame connectionId p.2 p.1)⟩

section Run
variable {sha256} {channel : VsockChannel} {n : ℕ}

theorem frames_emitEvent (event : VsockChannelEvent) :
    (channel.emitEvent event).frames = channel.frames ++ event.data.toList := by
  unfold VsockChannel.frames VsockChannel.emitEvent
  rw [List.filterMap_append]
  cases hdata : event.data with
  | none => simp [hdata]
  | some frame => simp [hdata]

theorem frames_emitEvent_none {event : VsockChannelEvent} (h : event.data = none) :
    (channel.emitEvent event).frames = channel.frames := by
  rw [frames_emitEvent, h, Option.toList_none, List.append_nil]

/-- A chunk is counted and handed on. -/
theorem step_data (chunk : DataChunk)
    (hcount : channel.connection.sequenceNumber = counterValue n) :
    (channel.step sha256 (.data chunk)).connection.id = channel.connection.id ∧
      (channel.step sha256 (.data chunk)).connection.sequenceNumber = counterValue (n + 1) ∧
        (channel.step sha256 (.data chunk)).frames =
          channel.frames ++ [frameOf sha256 channel.connection.id (chunk, n)] := by
  refine ⟨rfl, ?_, ?_⟩
  · rw [← counterValue_succ, ← hcount]
    rfl
  · rw [VsockChannel.step, frames_emitEvent]
    simp only [VsockChannel.nextFrame, frameOf, ownFrame, checkedFrame, hcount, counterValue_succ,
      Option.toList_some]
    rfl

/-- Nothing else counts or is handed on. -/
theorem step_other {event : SocketEvent} (h : event.chunk? = none) :
    (channel.step sha256 event).connection.id = channel.connection.id ∧
      (channel.step sha256 event).connection.sequenceNumber = channel.connection.sequenceNumber ∧
        (channel.step sha256 event).frames = channel.frames := by
  cases event with
  | data chunk => cases h
  | connect activityMs eventMs => exact ⟨rfl, rfl, frames_emitEvent_none rfl⟩
  | error message eventMs => exact ⟨rfl, rfl, frames_emitEvent_none rfl⟩
  | close eventMs =>
      rw [VsockChannel.step]
      split_ifs
      · exact ⟨rfl, rfl, frames_emitEvent_none rfl⟩
      · exact ⟨rfl, rfl, rfl⟩
  | opened => exact ⟨rfl, rfl, rfl⟩
  | timeout => exact ⟨rfl, rfl, rfl⟩
  | closeConnection emit eventMs =>
      rw [VsockChannel.step]
      split_ifs
      · exact ⟨rfl, rfl, frames_emitEvent_none rfl⟩
      · exact ⟨rfl, rfl, rfl⟩
      · exact ⟨rfl, rfl, rfl⟩

/-- The frames of a run are those of its chunks, numbered on. -/
theorem frames_run (events : List SocketEvent)
    (hcount : channel.connection.sequenceNumber = counterValue n) :
    (Run.run (VsockChannel.step sha256) channel events).frames =
      channel.frames ++
        ((chunksOf events).zipIdx n).map (frameOf sha256 channel.connection.id) := by
  induction events generalizing channel n with
  | nil => exact (List.append_nil _).symm
  | cons event events ih =>
      rw [Run.run_cons, chunksOf, List.filterMap_cons]
      cases hchunk : event.chunk? with
      | none =>
          obtain ⟨hid, hsame, hframes⟩ := @step_other sha256 channel event hchunk
          rw [ih (hsame.trans hcount), hid, hframes]
          rfl
      | some chunk =>
          cases event with
          | data chunk' =>
              cases hchunk
              obtain ⟨hid, hnext, hframes⟩ := @step_data sha256 channel n chunk hcount
              rw [ih hnext, hid, hframes, List.append_assoc]
              rfl
          | _ => cases hchunk

end Run

/-! ## What the checksums are computed from -/

theorem digit_bounds {c : Char} (h : isDigitOf 10 c = true) : 48 ≤ c.toNat ∧ c.toNat ≤ 57 := by
  have hlt : digitValue c < 10 := of_decide_eq_true h
  unfold digitValue at hlt
  split_ifs at hlt with hdigit hlower hupper
  · exact ⟨hdigit.1, hdigit.2⟩
  · omega
  · omega
  · omega

/-- A digit is one byte, from which it can be told. -/
theorem utf8EncodeChar_digit {c : Char} (h : isDigitOf 10 c = true) :
    (String.utf8EncodeChar c).map (fun b => Char.ofNat b.toNat) = [c] := by
  obtain ⟨-, hhigh⟩ := digit_bounds h
  have hsize : c.utf8Size = 1 := by
    rw [Char.utf8Size_eq_one_iff, UInt32.le_iff_toNat_le]
    exact hhigh.trans (by decide)
  have hbyte : c.val.toUInt8.toNat = c.toNat := by
    rw [UInt32.toNat_toUInt8]
    exact Nat.mod_eq_of_lt (lt_of_le_of_lt hhigh (by norm_num))
  rw [String.utf8EncodeChar_eq_singleton hsize, List.map_singleton, hbyte, Char.ofNat_toNat]

theorem map_bufferFrom {s : String} (h : ∀ c ∈ s.toList, isDigitOf 10 c = true) :
    (bufferFrom s).map (fun b => Char.ofNat b.toNat) = s.toList := by
  unfold bufferFrom
  generalize s.toList = cs at h
  induction cs with
  | nil => rfl
  | cons c cs ih =>
      rw [List.flatMap_cons, List.map_append, utf8EncodeChar_digit (h c (List.mem_cons_self ..)),
        ih fun d hd => h d (List.mem_cons_of_mem _ hd)]
      rfl

/-- Two bytes sequences that begin with the texts of successive integers differ. -/
theorem bufferFrom_append_ne {n : ℕ} (h : n < 2 ^ 53) (left right : List UInt8) :
    bufferFrom (JsNumber.ofInt n).toText ++ left ≠
      bufferFrom (JsNumber.ofInt ((n + 1 : ℕ) : ℤ)).toText ++ right := by
  intro heq
  have hthis := map_bufferFrom (writtenInDigits_ofInt h.le).digits
  have hnext := map_bufferFrom (writtenInDigits_ofInt (n := n + 1) h).digits
  obtain ⟨hforward, hbackward⟩ := not_prefix_succ h
  rcases List.prefix_or_prefix_of_prefix ⟨left, heq⟩ ⟨right, rfl⟩ with hprefix | hprefix
  · have hchars := hprefix.map fun b => Char.ofNat b.toNat
    rw [hthis, hnext] at hchars
    exact hforward hchars
  · have hchars := hprefix.map fun b => Char.ofNat b.toNat
    rw [hthis, hnext] at hchars
    exact hbackward hchars

theorem counterValue_of_le {n : ℕ} (h : n ≤ 2 ^ 53) : counterValue n = .ofInt n := by
  rw [counterValue, Nat.min_eq_left h]

/-- The checksum of a frame is computed from other bytes than those of the frame. -/
theorem checksumData_ne {connectionId : String} {n : ℕ} {chunk : DataChunk} (h : n < 2 ^ 53) :
    checksumData (checkedFrame connectionId n chunk) ≠
      checksumData (ownFrame connectionId n chunk) := by
  intro heq
  simp only [checksumData, checkedFrame, ownFrame, List.append_assoc] at heq
  have hrest := List.append_cancel_left (List.append_cancel_left heq)
  rw [counterValue_of_le h.le, counterValue_of_le (Nat.succ_le_of_lt h)] at hrest
  exact bufferFrom_append_ne h _ _ hrest.symm

/-! ## Emitted frames verify -/

/-- Numbered 0, 1, 2, … in the order of arrival, and each has the checksum of itself. -/
structure FramesVerify (sha256 : List UInt8 → HexDigest) (chunks : List DataChunk)
    (frames : List VsockFrame) : Prop where
  payloads : frames.map (·.payload) = chunks.map (·.data)
  numbered : ∀ (n : ℕ) frame, frames[n]? = some frame →
    ∃ x, frame.sequenceNumber = .fin x ∧ x.val = n
  checked : ∀ frame ∈ frames, frame.checksum = computeChecksum sha256 frame.toUncheckedFrame

/-- The bytes of chunk `n` and those its checksum is computed from, which differ as long as the
counter counts, have hashes that begin with the same sixteen digits. -/
structure ChecksumsCollide (sha256 : List UInt8 → HexDigest) (connectionId : String) (n : ℕ)
    (chunk : DataChunk) : Prop where
  different : n < 2 ^ 53 → checksumData (checkedFrame connectionId n chunk) ≠
    checksumData (ownFrame connectionId n chunk)
  collide : shortHash sha256 (checksumData (checkedFrame connectionId n chunk)) =
    shortHash sha256 (checksumData (ownFrame connectionId n chunk))

section
variable {sha256} {connectionId : String} {chunks : List DataChunk}

theorem getElem?_framesOf (n : ℕ) :
    (chunks.zipIdx.map (frameOf sha256 connectionId))[n]? =
      chunks[n]?.map fun chunk => frameOf sha256 connectionId (chunk, n) := by
  rw [List.getElem?_map, List.getElem?_zipIdx, Option.map_map, Nat.zero_add]
  rfl

theorem numbered_counterValue {n : ℕ} :
    (∃ x : Binary64, counterValue n = .fin x ∧ x.val = n) ↔ n ≤ 2 ^ 53 := by
  have hfin := JsNumber.ofInt_eq_fin (Security.abs_counter_le n)
  have hval (x : Binary64) (hx : counterValue n = .fin x) : x.val = (min n (2 ^ 53) : ℕ) := by
    rw [counterValue, hfin] at hx
    cases hx
    exact Int.cast_natCast _
  constructor
  · rintro ⟨x, hx, hn⟩
    rw [hval x hx] at hn
    have hmin : min n (2 ^ 53) = n := by exact_mod_cast hn
    omega
  · intro hn
    refine ⟨_, hfin, ?_⟩
    rw [hval _ hfin, Nat.min_eq_left hn]

/-- The frames of chunks verify where the counter counts them and the checksums collide. -/
theorem framesVerify_framesOf :
    FramesVerify sha256 chunks (chunks.zipIdx.map (frameOf sha256 connectionId)) ↔
      chunks.length ≤ 2 ^ 53 + 1 ∧ ∀ (n : ℕ) chunk, chunks[n]? = some chunk →
        ChecksumsCollide sha256 connectionId n chunk := by
  constructor
  · intro hverify
    refine ⟨?_, ?_⟩
    · by_contra hlong
      have hlast : 2 ^ 53 + 1 < chunks.length := not_le.1 hlong
      have hframe := @getElem?_framesOf sha256 connectionId chunks (2 ^ 53 + 1)
      rw [List.getElem?_eq_getElem hlast, Option.map_some] at hframe
      have := numbered_counterValue.1 (hverify.numbered _ _ hframe)
      omega
    · intro n chunk hchunk
      have hframe := @getElem?_framesOf sha256 connectionId chunks n
      rw [hchunk, Option.map_some] at hframe
      exact ⟨checksumData_ne, hverify.checked _ (List.mem_of_getElem? hframe)⟩
  · rintro ⟨hlength, hcollide⟩
    refine ⟨?_, ?_, ?_⟩
    · have hdata : (fun frame : VsockFrame => frame.payload) ∘ frameOf sha256 connectionId =
          DataChunk.data ∘ Prod.fst := rfl
      rw [List.map_map, hdata, ← List.map_map, List.zipIdx_map_fst]
    · intro n frame hframe
      rw [getElem?_framesOf] at hframe
      obtain ⟨chunk, hchunk, rfl⟩ := Option.map_eq_some_iff.1 hframe
      have hn := (List.getElem?_eq_some_iff.1 hchunk).1
      exact numbered_counterValue.2 (by omega)
    · intro frame hframe
      obtain ⟨n, hn⟩ := List.mem_iff_getElem?.1 hframe
      rw [getElem?_framesOf] at hn
      obtain ⟨chunk, hchunk, rfl⟩ := Option.map_eq_some_iff.1 hn
      exact (hcollide n chunk hchunk).collide

end

/-- Every run of a connection: its frames verify exactly if the counter counts its chunks and all
their checksums collide. -/
theorem framesVerify_iff {sha256 : List UInt8 → HexDigest} {isRunning : Bool}
    {remoteCid remotePort : JsNumber} {unique : String} {createdMs activityMs : ℤ}
    {channel : VsockChannel}
    (hconnect : VsockBridgeAdapter.connect isRunning remoteCid remotePort unique createdMs
      activityMs = .ok channel) (events : List SocketEvent) :
    FramesVerify sha256 (chunksOf events)
        (Run.run (VsockChannel.step sha256) channel events).frames ↔
      (chunksOf events).length ≤ 2 ^ 53 + 1 ∧
        ∀ (n : ℕ) chunk, (chunksOf events)[n]? = some chunk →
          ChecksumsCollide sha256 channel.connection.id n chunk := by
  simp only [VsockBridgeAdapter.connect, bind_eq_ok] at hconnect
  obtain ⟨-, -, -, -, -, -, heq⟩ := hconnect
  cases heq
  rw [frames_run (n := 0) events rfl]
  exact framesVerify_framesOf

/-! ### A sample -/

def hiChunk : DataChunk where
  data := bufferFrom "hi"
  activityMs := 1767225600000
  frameMs := 1767225600000
  checksumMs := 1767225600000
  eventMs := 1767225600000

def hiConnection : Except String VsockChannel :=
  VsockBridgeAdapter.connect true (.ofInt 3) (.ofInt 5000) "0011223344556677" 1767225599000
    1767225599000

def firstFrameDigest : HexDigest :=
  ⟨"95e2f95b8d9423dc8c0aa1186253566a407d75ababf60d4d66cee3eb2e2ac465", by decide +kernel⟩

def secondFrameDigest : HexDigest :=
  ⟨"d7dcad9f2db128950b1eca1b1afb554d66b88ba6142812631d96b01dc1f27f56", by decide +kernel⟩

/-- SHA-256 on the bytes of the frame, and on those with the next number. -/
def hiSha256 (data : List UInt8) : HexDigest :=
  if data = bufferFrom "VSOCK_FRAME_V13-5000-00112233445566770hi1767225600000" then
    firstFrameDigest
  else secondFrameDigest

/-- The checksum of the frame, and the one computed from the frame. -/
theorem hiConnection_checksums :
    (hiConnection.toOption.map fun channel =>
      ((channel.step hiSha256 (.data hiChunk)).frames.map fun frame =>
        (frame.checksum, computeChecksum hiSha256 frame.toUncheckedFrame))) =
      some [("d7dcad9f2db12895", "95e2f95b8d9423dc")] := by
  decide +kernel

theorem hiConnection_opens :
    ∃ channel, hiConnection = .ok channel ∧
      ((channel.step hiSha256 (.data hiChunk)).frames.map fun frame =>
        (frame.checksum, computeChecksum hiSha256 frame.toUncheckedFrame)) =
          [("d7dcad9f2db12895", "95e2f95b8d9423dc")] := by
  obtain ⟨channel, hchannel, hframes⟩ := Option.map_eq_some_iff.1 hiConnection_checksums
  refine ⟨channel, ?_, hframes⟩
  cases hconnect : hiConnection with
  | error message =>
      rw [hconnect] at hchannel
      cases hchannel
  | ok other =>
      rw [hconnect] at hchannel
      rw [← Option.some.inj hchannel]

theorem framesVerify_iff_hi :
    ∃ channel, hiConnection = .ok channel ∧
      (FramesVerify hiSha256 [hiChunk]
          (Run.run (VsockChannel.step hiSha256) channel [.data hiChunk]).frames ↔
        [hiChunk].length ≤ 2 ^ 53 + 1 ∧ ∀ (n : ℕ) chunk, [hiChunk][n]? = some chunk →
          ChecksumsCollide hiSha256 channel.connection.id n chunk) := by
  obtain ⟨channel, hconnect, -⟩ := hiConnection_opens
  exact ⟨channel, hconnect, framesVerify_iff hconnect [.data hiChunk]⟩

/-- The frame of the first chunk, at one reading of the clock, does not have its own checksum. -/
theorem hiFrame_unverified :
    ∃ channel, hiConnection = .ok channel ∧
      ¬FramesVerify hiSha256 (chunksOf [.data hiChunk])
        (Run.run (VsockChannel.step hiSha256) channel [.data hiChunk]).frames := by
  obtain ⟨channel, hconnect, hframes⟩ := hiConnection_opens
  refine ⟨channel, hconnect, ?_⟩
  intro hverify
  obtain ⟨frame, hframe⟩ := List.exists_mem_of_ne_nil _
    (List.ne_nil_of_length_pos (l := (channel.step hiSha256 (.data hiChunk)).frames)
      (by rw [← List.length_map, hframes]; decide))
  have hpair := List.mem_map_of_mem (f := fun frame : VsockFrame =>
    (frame.checksum, computeChecksum hiSha256 frame.toUncheckedFrame)) hframe
  rw [hframes, List.mem_singleton, Prod.mk.injEq] at hpair
  have hsame := hverify.checked frame hframe
  rw [hpair.1, hpair.2] at hsame
  exact absurd hsame (by decide)

end UniverEscrow.Infrastructure

import Lampshade.SendBuffer.Window
import Lampshade.ReceiveBuffer.Acking

/-! A `sendBuffer` and the `receiveBuffer` it feeds, made with one window. The data frames
`sendLoop` writes reach `submit` in order, re-framed by the session as header, length and
payload and called by the one session reader, and the ACKs `read` emits reach the sender's
`window.add` in order. Nobody calls `close` on either buffer. -/
namespace Lampshade

/-- Modelled from the spec: a frame's header is its type byte and its three-byte stream id. -/
def frameHeaderSize : Nat := 4

/-- Modelled from the spec (`encode_data`): type `0`, the stream id, the payload's length in two
big-endian bytes, then the payload. -/
def encodeData (header payload : List UInt8) : List UInt8 :=
  withFrameType header frameTypeData ++ [UInt8.ofNat (payload.length / 256),UInt8.ofNat payload.length] ++ payload

/-- Modelled from the spec: `sendLoop` writes the payload with the stream's header appended; the
session writer sends header, length and payload, and the session reader parses them and submits
the whole data frame. -/
def relay (frame : List UInt8) : List UInt8 :=
  encodeData (frame.drop (frame.length - frameHeaderSize)) (frame.take (frame.length - frameHeaderSize))

theorem relay_append {payload header : List UInt8} (four : header.length = frameHeaderSize) :
    relay (payload ++ header) = encodeData header payload := by
  simp [relay,four]

/-- The receiver's `frame[dataHeaderSize:]` of a relayed frame is the payload `send` accepted. -/
theorem payload_encodeData {header payload : List UInt8} (four : header.length = frameHeaderSize) :
    ReceiveBuffer.payload (encodeData header payload) = payload := by
  have front : (withFrameType header frameTypeData ++
      [UInt8.ofNat (payload.length / 256),UInt8.ofNat payload.length]).length = dataHeaderSize := by
    simp [withFrameType,four,frameHeaderSize,dataHeaderSize]
  exact List.drop_left' front

/-- The two buffers, with how many data frames written to `out` have been handed to `submit`
and how many ACKs have reached the window. -/
structure Pair where
  sender : SendBuffer
  receiver : ReceiveBuffer
  delivered : Nat
  acked : Nat
  deriving DecidableEq, Repr

inductive PairAction
  | send (a : SendAction)
  | deliver
  | receive (a : ReceiveAction)
  | ack
  deriving DecidableEq, Repr

namespace Pair

/-- Both buffers made with `windowSize`; the receiver has one submitter, the session reader,
and no closer. -/
def new (senderHeader receiverHeader : List UInt8) (windowSize callers : Nat) : Pair :=
  ⟨newSendBuffer senderHeader windowSize callers,newReceiveBuffer receiverHeader windowSize 1 0,0,0⟩

/-- Modelled from the spec: the session's reader and writer, which are not in the source. The
writer hands each data frame, re-framed by `relay`, and each ACK on in order; the reader calls
`submit` with the next data frame, and `window.add` with the count of the next ACK. -/
def step (p : Pair) : PairAction → Option Pair
  | .send a => if a.internal then (p.sender.step a).map fun s => { p with sender := s } else none
  | .deliver =>
    match (SendBuffer.dataOut p.sender.out)[p.delivered]? with
    | some frame =>
      (p.receiver.submit 0 (relay frame)).map fun r => { p with receiver := r, delivered := p.delivered + 1 }
    | none => none
  | .receive a => if a.internal then (p.receiver.step a).map fun r => { p with receiver := r } else none
  | .ack =>
    match p.receiver.ack[p.acked]? with
    | some ack => some { p with sender := p.sender.windowAdd ack.frames, acked := p.acked + 1 }
    | none => none

abbrev Reaches (p q : Pair) : Prop := Lampshade.Reaches step p q

abbrev steps (p : Pair) (actions : List PairAction) : Option Pair := runSteps step p actions

variable {p q : Pair}

theorem step_send {a : SendAction} (h : p.step (.send a) = some q) :
    a.internal ∧ ∃ s, p.sender.step a = some s ∧ q = { p with sender := s } := by
  simp only [step] at h
  split at h
  · obtain ⟨s,stepped,rfl⟩ := Option.map_eq_some'.mp h
    exact ⟨‹_›,s,stepped,rfl⟩
  · cases h

theorem step_deliver (h : p.step .deliver = some q) :
    ∃ frame r, (SendBuffer.dataOut p.sender.out)[p.delivered]? = some frame ∧ p.receiver.submit 0 (relay frame) = some r ∧
      q = { p with receiver := r, delivered := p.delivered + 1 } := by
  simp only [step] at h
  split at h
  · rename_i frame next
    obtain ⟨r,submitted,rfl⟩ := Option.map_eq_some'.mp h
    exact ⟨frame,r,next,submitted,rfl⟩
  · cases h

theorem step_receive {a : ReceiveAction} (h : p.step (.receive a) = some q) :
    a.internal ∧ ∃ r, p.receiver.step a = some r ∧ q = { p with receiver := r } := by
  simp only [step] at h
  split at h
  · obtain ⟨r,stepped,rfl⟩ := Option.map_eq_some'.mp h
    exact ⟨‹_›,r,stepped,rfl⟩
  · cases h

theorem step_ack (h : p.step .ack = some q) :
    ∃ ack, p.receiver.ack[p.acked]? = some ack ∧
      q = { p with sender := p.sender.windowAdd ack.frames, acked := p.acked + 1 } := by
  simp only [step] at h
  split at h
  · exact ⟨_,‹_›,(Option.some.inj h).symm⟩
  · cases h

end Pair

end Lampshade

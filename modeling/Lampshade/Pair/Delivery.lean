import Lampshade.Pair.Flow
import Lampshade.ReceiveBuffer.Stream

/-! Frames end to end. The session re-frames each data frame `sendLoop` writes as header,
length and payload and hands it to `submit` in order, and the one reader's blocked `submit` is
the only way into the receiver's `in`. So the frames the receiver has accepted, with the one its
reader holds, are exactly the written frames handed over so far. No close runs, so
`closeTimedOut` never drops a frame: the frames the receiver accepts are the data frames of the
payloads `send` accepted, in order, none lost, none repeated, none made up, and the bytes `read`
returns are those payloads' bytes, in order. -/
namespace Lampshade

namespace SendBuffer

variable {s : SendBuffer}

theorem Ordered.out_prefix (ordered : s.Ordered) (fresh : s.closeTimedOut = false) :
    dataOut s.out <+: acceptedFrames s := by
  obtain ⟨taken,split,-,whole⟩ := ordered.taken
  rw [acceptedFrames,split,framesOf_append,← whole fresh,List.append_assoc]
  exact List.prefix_append _ _

/-- The bytes of the payloads `send` accepted, in order; a nil payload writes no frame. -/
def acceptedBytes (s : SendBuffer) : List UInt8 := (s.accepted.filterMap id).flatten

end SendBuffer

namespace ReceiveBuffer

variable {r t : ReceiveBuffer}

/-- The frames held by `submit`s blocked on `buf.in <- frame`, in the submitters' order. -/
def blocked (r : ReceiveBuffer) : List (List UInt8) :=
  r.submitters.filterMap fun | .enqueue frame => some frame | .idle => none

theorem payloads_prefix {frames more : List (List UInt8)} (before : frames <+: more) :
    payloads frames <+: payloads more := by
  obtain ⟨rest,rfl⟩ := before
  rw [payloads_append]
  exact List.prefix_append _ _

theorem receiveFrame_handed {u : ReceiveBuffer} {frame : List UInt8} (h : u.receiveFrame frame = some t) :
    t.submitters = u.submitters ∧ t.accepted = u.accepted ∧ t.closed = u.closed := by
  rcases receiveFrame_some h with ⟨_,_,_,-,rfl⟩ | ⟨_,_,-,rfl⟩ <;> exact ⟨rfl,rfl,rfl⟩

/-- With one session reader, `read`'s steps and the enqueue of its blocked `submit` at most move
its frame from `blocked` to `accepted`, and leave `closed` alone. -/
theorem step_handed {pc : SubmitPc} (single : r.submitters = [pc]) {a : ReceiveAction} (internal : a.internal)
    (h : r.step a = some t) :
    (∃ pc, t.submitters = [pc]) ∧ t.closed = r.closed ∧ t.accepted ++ t.blocked = r.accepted ++ r.blocked := by
  have taken : ∀ {frame : List UInt8}, pc = .enqueue frame →
      (r.setSubmitter 0 .idle).submitters = [.idle] ∧
        (r.accepted ++ [frame]) ++ (r.setSubmitter 0 .idle).blocked = r.accepted ++ r.blocked := by
    rintro frame rfl
    simp [setSubmitter,blocked,single]
  cases a with
  | read => obtain ⟨-,rfl⟩ := step_read h; exact ⟨⟨pc,single⟩,rfl,rfl⟩
  | readFrame =>
    obtain ⟨_,_,-,received⟩ := step_readFrame h
    obtain ⟨submitters,accepted,closed⟩ := receiveFrame_handed received
    refine ⟨⟨pc,submitters.trans single⟩,closed,?_⟩
    rw [blocked,submitters,accepted]
    rfl
  | readFrom =>
    obtain ⟨frame,-,-,waiting,received⟩ := step_readFrom h
    obtain ⟨submitters,accepted,closed⟩ := receiveFrame_handed received
    rw [single] at waiting
    obtain ⟨rfl,held⟩ := single_getElem? waiting
    obtain ⟨idle,moved⟩ := taken held
    exact ⟨⟨.idle,submitters.trans idle⟩,closed,by rw [blocked,submitters,accepted]; exact moved⟩
  | readEOF => obtain ⟨-,-,⟨_,_,_,-,rfl⟩ | ⟨_,_,-,rfl⟩⟩ := step_readEOF h <;> exact ⟨⟨pc,single⟩,rfl,rfl⟩
  | readDefault =>
    obtain ⟨_,_,_,-,-,-,⟨-,rfl⟩ | ⟨-,⟨-,rfl⟩ | ⟨-,rfl⟩⟩⟩ := step_readDefault h <;> exact ⟨⟨pc,single⟩,rfl,rfl⟩
  | readTimeout => obtain ⟨_,-,rfl⟩ := step_readTimeout h; exact ⟨⟨pc,single⟩,rfl,rfl⟩
  | readReturn =>
    obtain ⟨_,_,_,-,⟨-,rfl⟩ | ⟨-,rfl⟩⟩ := step_readReturn h <;> exact ⟨⟨pc,single⟩,rfl,rfl⟩
  | expire => obtain ⟨_,_,-,rfl⟩ := step_expire h; exact ⟨⟨pc,single⟩,rfl,rfl⟩
  | enqueue =>
    obtain ⟨frame,waiting,⟨-,rfl⟩ | ⟨-,-,rfl⟩⟩ := step_enqueue h
    · exact ⟨⟨pc,single⟩,rfl,rfl⟩
    · rw [single] at waiting
      obtain ⟨rfl,held⟩ := single_getElem? waiting
      obtain ⟨idle,moved⟩ := taken held
      exact ⟨⟨.idle,idle⟩,rfl,moved⟩
  | submit | close | lock => simp [ReceiveAction.internal] at internal

end ReceiveBuffer

namespace Pair

variable {p q : Pair}

theorem relay_frames {header : List UInt8} (four : header.length = frameHeaderSize) (payloads : List Payload) :
    (SendBuffer.framesOf header payloads).map relay = (payloads.filterMap id).map (encodeData header) := by
  simp [SendBuffer.framesOf,relay_append four]

theorem payloads_encodeData {header : List UInt8} (four : header.length = frameHeaderSize)
    (payloads : List (List UInt8)) : ReceiveBuffer.payloads (payloads.map (encodeData header)) = payloads.flatten := by
  have each : ∀ b ∈ payloads, (ReceiveBuffer.payload ∘ encodeData header) b = id b :=
    fun _ _ => payload_encodeData four
  rw [ReceiveBuffer.payloads,List.map_map,List.map_congr_left each,List.map_id]

theorem step_senderHeader {a : PairAction} (h : p.step a = some q) : q.sender.defaultHeader = p.sender.defaultHeader := by
  cases a with
  | send a => obtain ⟨-,_,stepped,rfl⟩ := step_send h; exact SendBuffer.step_defaultHeader stepped
  | deliver => obtain ⟨_,_,-,-,rfl⟩ := step_deliver h; rfl
  | receive a => obtain ⟨-,_,-,rfl⟩ := step_receive h; rfl
  | ack => obtain ⟨_,-,rfl⟩ := step_ack h; rfl

/-- The sender keeps its order and is never closed; the receiver keeps its byte stream, has its
one reader and stays open; and what it has accepted, with the frame its reader holds, is the
written frames up to `delivered`. -/
structure Delivery (p : Pair) : Prop where
  sender : p.sender.Ordered
  unclosed : p.sender.Unclosed
  receiver : p.receiver.Streamed
  reader : ∃ pc, p.receiver.submitters = [pc]
  opened : p.receiver.closed = false
  written : p.delivered ≤ (SendBuffer.dataOut p.sender.out).length
  handed : p.receiver.accepted ++ ReceiveBuffer.blocked p.receiver =
    ((SendBuffer.dataOut p.sender.out).take p.delivered).map relay

theorem step_delivery (delivery : p.Delivery) {a : PairAction} (h : p.step a = some q) : q.Delivery := by
  obtain ⟨sender,unclosed,receiver,⟨pc,single⟩,opened,written,handed⟩ := delivery
  cases a with
  | send a =>
    obtain ⟨internal,s,stepped,rfl⟩ := step_send h
    obtain ⟨more,grown⟩ := SendBuffer.step_out stepped
    refine ⟨SendBuffer.step_ordered sender stepped,SendBuffer.step_unclosed unclosed internal stepped,receiver,
      ⟨pc,single⟩,opened,?_,?_⟩
    · simp only [← grown,SendBuffer.dataOut_append,List.length_append]
      omega
    · rw [← grown,SendBuffer.dataOut_append,List.take_append_of_le_length written]
      exact handed
  | deliver =>
    obtain ⟨frame,r,next,submitted,rfl⟩ := step_deliver h
    have stepped : p.receiver.step (.submit 0 (relay frame)) = some r := submitted
    obtain ⟨idle,-,⟨closed,-⟩ | ⟨-,rfl⟩⟩ := ReceiveBuffer.step_submit stepped
    · simp [opened] at closed
    · rw [single] at idle
      obtain ⟨-,rfl⟩ := ReceiveBuffer.single_getElem? idle
      refine ⟨sender,unclosed,ReceiveBuffer.step_streamed receiver stepped,⟨.enqueue (relay frame),?_⟩,opened,
        (List.getElem?_eq_some_iff.mp next).1,?_⟩
      · simp [ReceiveBuffer.setSubmitter,single]
      · rw [List.take_succ,next,List.map_append,← handed]
        simp [ReceiveBuffer.blocked,ReceiveBuffer.setSubmitter,single]
  | receive a =>
    obtain ⟨internal,r,stepped,rfl⟩ := step_receive h
    obtain ⟨reader,closed,moved⟩ := ReceiveBuffer.step_handed single internal stepped
    exact ⟨sender,unclosed,ReceiveBuffer.step_streamed receiver stepped,reader,closed.trans opened,written,
      moved.trans handed⟩
  | ack =>
    obtain ⟨ack,-,rfl⟩ := step_ack h
    have credited : p.sender.step (.credit ack.frames) = some (p.sender.windowAdd ack.frames) := rfl
    exact ⟨SendBuffer.step_ordered sender credited,unclosed,receiver,⟨pc,single⟩,opened,written,handed⟩

theorem delivery_new (senderHeader receiverHeader : List UInt8) (windowSize callers : Nat) :
    (Pair.new senderHeader receiverHeader windowSize callers).Delivery :=
  ⟨SendBuffer.ordered_new _ _ _,⟨rfl,rfl,rfl,rfl,rfl⟩,ReceiveBuffer.streamed_new _ _ _ _,⟨.idle,rfl⟩,rfl,
    Nat.zero_le _,rfl⟩

/-- Over every interleaving of sends, `sendLoop`'s steps, deliveries, reads and ACKs, with any
window and a four-byte stream header: the frames the receiver has accepted, then the one its
reader holds in `submit`, are the written frames handed over so far, as the session re-frames
them; the frames the receiver has accepted are the data frames of the payloads `send` accepted,
in order, from the first; and the bytes `read` has returned are those payloads' bytes, in order,
from the first. -/
theorem frames_arrive_in_send_order {senderHeader receiverHeader : List UInt8} {windowSize callers : Nat}
    (four : senderHeader.length = frameHeaderSize)
    (reach : (Pair.new senderHeader receiverHeader windowSize callers).Reaches p) :
    p.receiver.accepted ++ ReceiveBuffer.blocked p.receiver =
        ((SendBuffer.dataOut p.sender.out).take p.delivered).map relay ∧
      p.receiver.accepted <+: (p.sender.accepted.filterMap id).map (encodeData senderHeader) ∧
      p.receiver.delivered <+: SendBuffer.acceptedBytes p.sender := by
  have delivery := Reaches.induction (fun _ delivery h => step_delivery delivery h) (delivery_new _ _ _ _) reach
  have header : p.sender.defaultHeader = senderHeader :=
    @Reaches.induction _ _ _ (fun q : Pair => q.sender.defaultHeader = senderHeader)
      (fun _ same h => (step_senderHeader h).trans same) _ _ rfl reach
  have accepted : p.receiver.accepted <+: (p.sender.accepted.filterMap id).map (encodeData senderHeader) :=
    calc p.receiver.accepted
      _ <+: p.receiver.accepted ++ ReceiveBuffer.blocked p.receiver := List.prefix_append _ _
      _ = ((SendBuffer.dataOut p.sender.out).take p.delivered).map relay := delivery.handed
      _ <+: (SendBuffer.dataOut p.sender.out).map relay := (List.take_prefix _ _).map relay
      _ <+: (SendBuffer.acceptedFrames p.sender).map relay :=
        (delivery.sender.out_prefix delivery.unclosed.2.2.1).map relay
      _ = (p.sender.accepted.filterMap id).map (encodeData senderHeader) := by
        rw [SendBuffer.acceptedFrames,header,relay_frames four]
  refine ⟨delivery.handed,accepted,?_⟩
  calc p.receiver.delivered
    _ <+: p.receiver.delivered ++ p.receiver.current ++ ReceiveBuffer.payloads p.receiver.queue.items := by
      rw [List.append_assoc]
      exact List.prefix_append _ _
    _ = ReceiveBuffer.payloads p.receiver.accepted := delivery.receiver.bytes
    _ <+: ReceiveBuffer.payloads ((p.sender.accepted.filterMap id).map (encodeData senderHeader)) :=
      ReceiveBuffer.payloads_prefix accepted
    _ = SendBuffer.acceptedBytes p.sender := payloads_encodeData four _

/-- A sender and receiver with one window of frames, one data frame and one ACK around the
loop. -/
def roundTrip : List PairAction :=
  [.send (.send 0 (some [1,2,3,4,5,6,7]) .zero),.send (.enqueue 0),.send .receive,.send .windowAvailable,
    .send .writeOut,.deliver,.receive (.enqueue 0),.receive (.read 8 .zero),.receive .readFrame,
    .receive .readDefault,.receive .readReturn,.ack]

theorem round_trip_arrives_in_send_order :
    ∃ p, (Pair.new [0,0,0,1] [0,0,0,1] 1 1).steps roundTrip = some p ∧
      p.receiver.accepted = [[0,0,0,1,0,7,1,2,3,4,5,6,7]] ∧ p.receiver.delivered = [1,2,3,4,5,6,7] ∧
      ([0,0,0,1].length = frameHeaderSize ∧
        p.receiver.accepted ++ ReceiveBuffer.blocked p.receiver =
          ((SendBuffer.dataOut p.sender.out).take p.delivered).map relay ∧
        p.receiver.accepted <+: (p.sender.accepted.filterMap id).map (encodeData [0,0,0,1]) ∧
        p.receiver.delivered <+: SendBuffer.acceptedBytes p.sender) := by
  refine ⟨_,rfl,rfl,rfl,rfl,?_⟩
  exact @frames_arrive_in_send_order _ [0,0,0,1] [0,0,0,1] 1 1 rfl (Reaches.of_runSteps roundTrip rfl)

end Pair

end Lampshade

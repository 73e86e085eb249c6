import Lampshade.Pair.Model

/-! Flow control around the loop a sender and its receiver make. The frames written and not
yet submitted, those in a blocked `submit`, in `in`, counted in `unacked`, and acknowledged by
ACKs still on their way back, with the sender's credit and the frame it holds, always make up
the window. The window therefore bounds what is written beyond the credit delivered, `in` never
fills under a `submit`, and each ACK count stays within the window. A sender waiting for credit
with nothing moving would leave a whole window in `unacked`, which an idle reader has flushed. -/
namespace Lampshade.Pair

variable {windowSize : Nat} {p q : Pair}

structure Flow (windowSize : Nat) (p : Pair) : Prop where
  sender : p.sender.Credited windowSize
  receiver : p.receiver.Acking windowSize
  written : p.delivered ≤ (SendBuffer.dataOut p.sender.out).length
  submitted : p.delivered = ReceiveBuffer.pending p.receiver + p.receiver.accepted.length
  credited : p.sender.credited = ReceiveBuffer.ackSum (p.receiver.ack.take p.acked)
  acked : p.acked ≤ p.receiver.ack.length

theorem Flow.conserved (flow : p.Flow windowSize) :
    (((SendBuffer.dataOut p.sender.out).length - p.delivered : Nat) : Int) + ReceiveBuffer.pending p.receiver +
      p.receiver.queue.items.length + p.receiver.unacked + ReceiveBuffer.ackSum (p.receiver.ack.drop p.acked) +
      (p.sender.credit + p.sender.held.length) = windowSize := by
  have split := ReceiveBuffer.ackSum_append (p.receiver.ack.take p.acked) (p.receiver.ack.drop p.acked)
  rw [List.take_append_drop] at split
  have balance := flow.sender.balance
  have taken := flow.receiver.taken
  have submitted := flow.submitted
  have credited := flow.credited
  have written := flow.written
  omega

theorem Flow.inFlight_nonneg (flow : p.Flow windowSize) :
    0 ≤ ReceiveBuffer.ackSum (p.receiver.ack.drop p.acked) :=
  ReceiveBuffer.ackSum_nonneg fun ack mem => by
    have := (flow.receiver.ackRange ack (List.mem_of_mem_drop mem)).1
    omega

theorem Flow.unacked_le (flow : p.Flow windowSize) : p.receiver.unacked ≤ windowSize := by
  have total := flow.conserved
  have acks := flow.inFlight_nonneg
  have held := flow.sender.loopCredit.held_credit
  omega

theorem step_flow (fits : windowSize ≤ 255) (flow : p.Flow windowSize) {a : PairAction}
    (h : p.step a = some q) : q.Flow windowSize := by
  cases a with
  | send a =>
    obtain ⟨internal,s,stepped,rfl⟩ := step_send h
    obtain ⟨credited,same,longer⟩ := SendBuffer.step_credited flow.sender internal stepped
    exact ⟨credited,flow.receiver,flow.written.trans longer,flow.submitted,same.trans flow.credited,flow.acked⟩
  | deliver =>
    obtain ⟨frame,r,next,submitted,rfl⟩ := step_deliver h
    obtain ⟨acking,handed,ack⟩ := ReceiveBuffer.submit_acking flow.receiver submitted
    have written := (List.getElem?_eq_some_iff.mp next).1
    have before := flow.submitted
    refine ⟨flow.sender,acking,written,by dsimp only; omega,?_,?_⟩
    · rw [ack]
      exact flow.credited
    · rw [ack]
      exact flow.acked
  | receive a =>
    obtain ⟨internal,r,stepped,rfl⟩ := step_receive h
    obtain ⟨acking,handed,more,extended⟩ :=
      ReceiveBuffer.step_acking flow.receiver flow.unacked_le fits internal stepped
    refine ⟨flow.sender,acking,flow.written,by rw [flow.submitted,handed],?_,?_⟩
    · rw [← extended,List.take_append_of_le_length flow.acked]
      exact flow.credited
    · have := flow.acked
      simp only [← extended,List.length_append]
      omega
  | ack =>
    obtain ⟨ack,next,rfl⟩ := step_ack h
    have nonneg : 0 ≤ ack.frames := by
      have := (flow.receiver.ackRange ack (List.getElem?_mem next)).1
      omega
    refine ⟨flow.sender.windowAdd nonneg,flow.receiver,flow.written,flow.submitted,?_,
      (List.getElem?_eq_some_iff.mp next).1⟩
    simp only [SendBuffer.windowAdd,List.take_succ,next,Option.toList,ReceiveBuffer.ackSum_append,
      ReceiveBuffer.ackSum_singleton,flow.credited]

theorem flow_new (senderHeader receiverHeader : List UInt8) (windowSize callers : Nat) :
    (Pair.new senderHeader receiverHeader windowSize callers).Flow windowSize :=
  ⟨SendBuffer.credited_new _ _ _,ReceiveBuffer.acking_new _ _,le_refl _,rfl,rfl,le_refl _⟩

theorem flow_reaches {senderHeader receiverHeader : List UInt8} {callers : Nat}
    (fits : windowSize ≤ 255) (reach : (Pair.new senderHeader receiverHeader windowSize callers).Reaches p) :
    p.Flow windowSize :=
  Reaches.induction (fun _ flow h => step_flow fits flow h) (flow_new _ _ _ _) reach

/-- Over every interleaving of sends, `sendLoop`'s steps, deliveries, reads and ACKs: at most
the window plus the credit delivered has been written; `in` holds at most the window and a
`submit` blocked on it can always complete; every ACK carries between `ackInterval` and the
window frames, and the count a flush would encode is exact in `int16`. -/
theorem window_bounds_frames_in_flight {senderHeader receiverHeader : List UInt8} {callers : Nat}
    (fits : windowSize ≤ 255) (reach : (Pair.new senderHeader receiverHeader windowSize callers).Reaches p) :
    ((SendBuffer.dataOut p.sender.out).length : Int) ≤ windowSize + p.sender.credited ∧
      p.receiver.queue.items.length ≤ windowSize ∧
      (∀ i frame, p.receiver.submitters[i]? = some (.enqueue frame) → (p.receiver.step (.enqueue i)).isSome) ∧
      (∀ ack ∈ p.receiver.ack, (p.receiver.ackInterval : Int) ≤ ack.frames ∧ ack.frames ≤ windowSize) ∧
      int16 p.receiver.unacked = p.receiver.unacked := by
  have flow := flow_reaches fits reach
  have total := flow.conserved
  have acks := flow.inFlight_nonneg
  have held := flow.sender.loopCredit.held_credit
  have balance := flow.sender.balance
  obtain ⟨pc,single⟩ := flow.receiver.reader
  obtain ⟨-,-,inOpen⟩ := flow.receiver.unclosed
  refine ⟨by omega,by omega,fun i frame blocked => ?_,flow.receiver.ackRange,
    int16_of_lt (by have := flow.unacked_le; omega)⟩
  rw [single] at blocked
  obtain ⟨rfl,rfl⟩ := ReceiveBuffer.single_getElem? blocked
  have submitting : ReceiveBuffer.pending p.receiver = 1 := by simp [ReceiveBuffer.pending,single]
  have room : p.receiver.queue.items.length < p.receiver.windowSize := by
    rw [flow.receiver.capacity]
    omega
  simp [ReceiveBuffer.step,ReceiveBuffer.enqueue,single,inOpen,room]

/-- Window 1: a first frame is written and handed to the session, whose `submit` blocks on `in`;
`sendLoop` takes a second frame and waits for credit. -/
def waitForCredit : List PairAction :=
  [.send (.send 0 (some [1]) .zero),.send (.enqueue 0),.send .receive,.send .windowAvailable,.send .writeOut,
    .send (.send 0 (some [2]) .zero),.send (.enqueue 0),.send .receive,.deliver]

theorem round_trip_bounds_frames_in_flight :
    ∃ p, (Pair.new [0,0,0,1] [0,0,0,1] 1 1).steps waitForCredit = some p ∧ p.sender.loop = .window [2] ∧
      p.sender.credit = -1 ∧ p.receiver.submitters = [.enqueue [0,0,0,1,0,1,1]] ∧
      (1 ≤ 255 ∧
        ((SendBuffer.dataOut p.sender.out).length : Int) ≤ 1 + p.sender.credited ∧
        p.receiver.queue.items.length ≤ 1 ∧
        (∀ i frame, p.receiver.submitters[i]? = some (.enqueue frame) → (p.receiver.step (.enqueue i)).isSome) ∧
        (∀ ack ∈ p.receiver.ack, (p.receiver.ackInterval : Int) ≤ ack.frames ∧ ack.frames ≤ 1) ∧
        int16 p.receiver.unacked = p.receiver.unacked) :=
  ⟨_,rfl,rfl,rfl,rfl,by decide,
    @window_bounds_frames_in_flight 1 _ [0,0,0,1] [0,0,0,1] 1 (by decide) (Reaches.of_runSteps waitForCredit rfl)⟩

/-- `sendLoop` holds a frame it cannot send for want of credit while nothing moves: every data
frame written has reached `in` (none is on its way, none in a blocked `submit`), every ACK
emitted has reached the window, `in` and `current` are empty, and no `read` is in progress. -/
def Stalled (p : Pair) : Prop :=
  (∃ frame, p.sender.loop = .window frame) ∧ p.sender.credit < 0 ∧
    p.delivered = (SendBuffer.dataOut p.sender.out).length ∧ ReceiveBuffer.pending p.receiver = 0 ∧
    p.acked = p.receiver.ack.length ∧ p.receiver.queue.items = [] ∧ p.receiver.current = [] ∧
    p.receiver.reader = .idle

/-- No reachable state of a sender and its receiver is a stall: once the reader has consumed
all it was sent, its ACKs have left the sender with credit. -/
theorem flow_never_stalls {senderHeader receiverHeader : List UInt8} {callers : Nat}
    (positive : 1 ≤ windowSize) (fits : windowSize ≤ 255)
    (reach : (Pair.new senderHeader receiverHeader windowSize callers).Reaches p) : ¬ p.Stalled := by
  rintro ⟨⟨frame,window⟩,short,written,idle,acked,empty,-,reading⟩
  have flow := flow_reaches fits reach
  have total := flow.conserved
  have loopCredit := flow.sender.loopCredit
  simp only [SendBuffer.LoopCredit,window] at loopCredit
  have held : p.sender.held.length = 1 := by simp [SendBuffer.held,window]
  have interval := flow.receiver.interval
  have flushed := flow.receiver.flushed reading
  simp only [written,Nat.sub_self,idle,acked,List.drop_length,ReceiveBuffer.ackSum_nil,empty,
    List.length_nil,held] at total
  omega

/-- The receiver then enqueues and reads the first frame and flushes its ACK, which has not
reached the window yet: all but that ACK is as in a stall. -/
def ackInFlight : List PairAction :=
  waitForCredit ++ [.receive (.enqueue 0),.receive (.read 8 .zero),.receive .readFrame,.receive .readDefault,
    .receive .readReturn]

theorem round_trip_never_stalls :
    ∃ p, (Pair.new [0,0,0,1] [0,0,0,1] 1 1).steps ackInFlight = some p ∧ p.sender.loop = .window [2] ∧
      p.sender.credit = -1 ∧ p.receiver.reader = .idle ∧ p.receiver.queue.items = [] ∧ p.receiver.current = [] ∧
      p.delivered = 1 ∧ p.receiver.ack.length = 1 ∧ p.acked = 0 ∧
      (1 ≤ 1 ∧ 1 ≤ 255 ∧ ¬ p.Stalled) :=
  ⟨_,rfl,rfl,rfl,rfl,rfl,rfl,rfl,rfl,rfl,by decide,by decide,
    @flow_never_stalls 1 _ [0,0,0,1] [0,0,0,1] 1 (by decide) (by decide) (Reaches.of_runSteps ackInFlight rfl)⟩

end Lampshade.Pair

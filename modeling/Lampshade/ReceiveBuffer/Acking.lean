import Lampshade.ReceiveBuffer.Steps

/-! The ACK books of a receive buffer fed by one session reader and never closed. Every frame
`submit` enqueues is in `in`, counted in `unacked` once `read` takes it, or acknowledged by an
ACK already emitted; each ACK carries at least `ackInterval` frames, and an idle reader has
flushed any count that reached `ackInterval`. -/
namespace Lampshade

/-- The receiver's own steps: those of `read`, and the enqueue of a blocked `submit`. Not
`submit` itself, which the session reader's delivery calls, and not `close`. -/
def ReceiveAction.internal : ReceiveAction → Bool
  | .submit _ _ | .close _ | .lock _ => false
  | _ => true

namespace ReceiveBuffer

variable {windowSize : Nat} {r t : ReceiveBuffer}

def ackSum (acks : List AckFrame) : Int := (acks.map (·.frames)).sum

def pending (r : ReceiveBuffer) : Nat := (r.submitters.filter (· ≠ .idle)).length

@[simp] theorem ackSum_nil : ackSum [] = 0 := rfl

@[simp] theorem ackSum_append (acks more : List AckFrame) : ackSum (acks ++ more) = ackSum acks + ackSum more := by
  simp [ackSum,List.sum_append]

@[simp] theorem ackSum_singleton (ack : AckFrame) : ackSum [ack] = ack.frames := by simp [ackSum]

theorem ackSum_nonneg {acks : List AckFrame} (nonneg : ∀ ack ∈ acks, 0 ≤ ack.frames) : 0 ≤ ackSum acks :=
  List.sum_nonneg fun _ mem => by
    obtain ⟨ack,member,rfl⟩ := List.mem_map.mp mem
    exact nonneg ack member

structure Acking (windowSize : Nat) (r : ReceiveBuffer) : Prop where
  reader : ∃ pc, r.submitters = [pc]
  unclosed : r.closers = [] ∧ r.closed = false ∧ r.queue.closed = false
  capacity : r.windowSize = windowSize
  interval : r.ackInterval = (windowSize + 9) / 10
  taken : (r.accepted.length : Int) = r.queue.items.length + r.unacked + ackSum r.ack
  ackRange : ∀ ack ∈ r.ack, (r.ackInterval : Int) ≤ ack.frames ∧ ack.frames ≤ windowSize
  flushed : r.reader = .idle → r.unacked < r.ackInterval ∨ r.unacked = 0

def ackView (r : ReceiveBuffer) :=
  (r.submitters,r.closers,r.closed,r.queue.closed,r.windowSize,r.ackInterval,r.accepted,r.queue.items,
    r.unacked,r.ack)

theorem Acking.of_view (acking : r.Acking windowSize) (same : t.ackView = r.ackView)
    (flushed : t.reader = .idle → t.unacked < t.ackInterval ∨ t.unacked = 0) : t.Acking windowSize := by
  simp only [ackView,Prod.mk.injEq] at same
  obtain ⟨submitters,closers,closed,queueClosed,capacity,interval,accepted,items,unacked,ack⟩ := same
  obtain ⟨reader,unclosed,capacity',interval',taken,ackRange,-⟩ := acking
  refine ⟨submitters ▸ reader,closers ▸ closed ▸ queueClosed ▸ unclosed,capacity ▸ capacity',
    interval ▸ interval',by rw [accepted,items,unacked,ack]; exact taken,by rw [ack,interval]; exact ackRange,
    flushed⟩

theorem copy_reader_ne_idle (size : Nat) (got : List UInt8) (deadline : Deadline) :
    (r.copy size got deadline).reader ≠ .idle := by
  unfold copy
  dsimp only
  split <;> simp

theorem single_getElem? {pc x : SubmitPc} {i : Nat} (h : [pc][i]? = some x) : i = 0 ∧ pc = x := by
  cases i <;> simp_all

theorem Acking.moved (acking : r.Acking windowSize) (same : t.ackView = r.ackView)
    (flushed : t.reader = .idle → t.unacked < t.ackInterval ∨ t.unacked = 0) :
    t.Acking windowSize ∧ pending t + t.accepted.length = pending r + r.accepted.length ∧ r.ack <+: t.ack := by
  have kept := acking.of_view same flushed
  simp only [ackView,Prod.mk.injEq] at same
  obtain ⟨submitters,-,-,-,-,-,accepted,-,-,ack⟩ := same
  exact ⟨kept,by simp only [pending,submitters,accepted],by rw [ack]⟩

theorem Acking.receiveFrame {u : ReceiveBuffer} {frame : List UInt8} (h : u.receiveFrame frame = some t)
    (reader : ∃ pc, u.submitters = [pc]) (unclosed : u.closers = [] ∧ u.closed = false ∧ u.queue.closed = false)
    (capacity : u.windowSize = windowSize) (interval : u.ackInterval = (windowSize + 9) / 10)
    (taken : (u.accepted.length : Int) = u.queue.items.length + (u.unacked + 1) + ackSum u.ack)
    (ackRange : ∀ ack ∈ u.ack, (u.ackInterval : Int) ≤ ack.frames ∧ ack.frames ≤ windowSize) :
    t.Acking windowSize ∧ t.submitters = u.submitters ∧ t.accepted = u.accepted ∧ t.ack = u.ack := by
  rcases receiveFrame_some h with ⟨_,_,_,-,rfl⟩ | ⟨_,_,-,rfl⟩
  all_goals
    refine ⟨⟨reader,unclosed,capacity,interval,?_,ackRange,fun idle => absurd idle (copy_reader_ne_idle _ _ _)⟩,
      rfl,rfl,rfl⟩
    simp only [copy,onFrame]
    push_cast
    omega

/-- The reader's steps and the enqueue of a blocked `submit` keep the books and the frames the
session reader has handed over, and only add ACKs. A flush encodes a count of at most the
window, which `int16` keeps. -/
theorem step_acking (acking : r.Acking windowSize) (bound : r.unacked ≤ windowSize) (fits : windowSize ≤ 255)
    {a : ReceiveAction} (internal : a.internal) (h : r.step a = some t) :
    t.Acking windowSize ∧ pending t + t.accepted.length = pending r + r.accepted.length ∧ r.ack <+: t.ack := by
  obtain ⟨pc,single⟩ := acking.reader
  obtain ⟨-,-,inOpen⟩ := acking.unclosed
  have taken := acking.taken
  have notIdle : ∀ {u : ReceiveBuffer} {pc : ReadPc}, pc ≠ .idle →
      ({ u with reader := pc } : ReceiveBuffer).reader = .idle → u.unacked < u.ackInterval ∨ u.unacked = 0 :=
    fun away idle => absurd idle away
  cases a with
  | read => obtain ⟨-,rfl⟩ := step_read h; exact acking.moved rfl (absurd · (copy_reader_ne_idle _ _ _))
  | readFrame =>
    obtain ⟨frame,rest,items,received⟩ := step_readFrame h
    obtain ⟨kept,submitters,accepted,ack⟩ := Acking.receiveFrame received acking.reader acking.unclosed
      acking.capacity acking.interval (by dsimp only; rw [items,List.length_cons] at taken; push_cast at taken; omega)
      acking.ackRange
    exact ⟨kept,by simp only [pending,submitters,accepted],by rw [ack]⟩
  | readFrom i =>
    obtain ⟨frame,-,-,enqueued,received⟩ := step_readFrom h
    rw [single] at enqueued
    obtain ⟨rfl,rfl⟩ := single_getElem? enqueued
    obtain ⟨kept,submitters,accepted,ack⟩ := Acking.receiveFrame received ⟨.idle,by simp [setSubmitter,single]⟩
      acking.unclosed acking.capacity acking.interval
      (by simp only [setSubmitter,List.length_append,List.length_singleton]; push_cast; omega) acking.ackRange
    refine ⟨kept,?_,by rw [ack]; exact List.prefix_refl _⟩
    rw [pending,pending,submitters,accepted]
    simp [setSubmitter,single,Nat.add_comm]
  | readEOF => obtain ⟨-,closed,-⟩ := step_readEOF h; simp [inOpen] at closed
  | readDefault =>
    obtain ⟨_,_,_,-,-,-,⟨-,rfl⟩ | ⟨-,⟨-,rfl⟩ | ⟨-,rfl⟩⟩⟩ := step_readDefault h <;>
      exact acking.moved rfl (notIdle (by simp))
  | readTimeout => obtain ⟨_,-,rfl⟩ := step_readTimeout h; exact acking.moved rfl (notIdle (by simp))
  | readReturn =>
    obtain ⟨size,got,err,-,⟨flush,rfl⟩ | ⟨below,rfl⟩⟩ := step_readReturn h
    · have exact : int16 r.unacked = r.unacked := int16_of_lt (by omega)
      refine ⟨⟨⟨pc,single⟩,acking.unclosed,acking.capacity,acking.interval,?_,fun ack mem => ?_,fun _ => .inr rfl⟩,
        rfl,List.prefix_append _ _⟩
      · simp only [ackSum_append,ackSum_singleton,ackWithFrames,exact]
        omega
      · rcases List.mem_append.mp mem with old | new
        · exact acking.ackRange ack old
        · simp only [List.mem_singleton] at new
          simp only [new,ackWithFrames,exact]
          omega
    · exact acking.moved rfl fun _ => .inl below
  | expire => obtain ⟨_,_,-,rfl⟩ := step_expire h; exact acking.moved rfl (notIdle (by simp))
  | submit => simp [ReceiveAction.internal] at internal
  | enqueue i =>
    obtain ⟨frame,enqueued,⟨closed,-⟩ | ⟨-,-,rfl⟩⟩ := step_enqueue h
    · simp [inOpen] at closed
    · rw [single] at enqueued
      obtain ⟨rfl,rfl⟩ := single_getElem? enqueued
      refine ⟨⟨⟨.idle,by simp [setSubmitter,single]⟩,acking.unclosed,acking.capacity,acking.interval,?_,
        acking.ackRange,acking.flushed⟩,?_,List.prefix_refl _⟩
      · simp only [setSubmitter,List.length_append,List.length_singleton]
        push_cast
        omega
      · simp [pending,setSubmitter,single,Nat.add_comm]
  | close => simp [ReceiveAction.internal] at internal
  | lock => simp [ReceiveAction.internal] at internal

/-- The session reader hands a frame to `submit`: it blocks on `buf.in <- frame`. -/
theorem submit_acking (acking : r.Acking windowSize) {frame : List UInt8} (h : r.submit 0 frame = some t) :
    t.Acking windowSize ∧ pending t + t.accepted.length = pending r + r.accepted.length + 1 ∧ t.ack = r.ack := by
  obtain ⟨pc,single⟩ := acking.reader
  obtain ⟨idle,-,⟨closed,-⟩ | ⟨-,rfl⟩⟩ := step_submit (show r.step (.submit 0 frame) = some t from h)
  · simp [acking.unclosed.2.1] at closed
  · rw [single] at idle
    obtain ⟨-,rfl⟩ := single_getElem? idle
    exact ⟨⟨⟨.enqueue frame,by simp [setSubmitter,single]⟩,acking.unclosed,acking.capacity,acking.interval,
      acking.taken,acking.ackRange,acking.flushed⟩,by simp [pending,setSubmitter,single,Nat.add_comm],rfl⟩

theorem acking_new (defaultHeader : List UInt8) (windowSize : Nat) :
    (newReceiveBuffer defaultHeader windowSize 1 0).Acking windowSize :=
  ⟨⟨.idle,rfl⟩,⟨rfl,rfl,rfl⟩,rfl,rfl,by simp [newReceiveBuffer],by simp [newReceiveBuffer],
    fun _ => .inr rfl⟩

end ReceiveBuffer

end Lampshade

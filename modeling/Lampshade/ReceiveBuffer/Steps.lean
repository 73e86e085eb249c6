import Lampshade.ReceiveBuffer.Model

/-! What each step of the receive buffer can do: an enabled step's guard and the state it
leaves, stated once for the invariants of the later modules. -/
namespace Lampshade.ReceiveBuffer

variable {r t : ReceiveBuffer}

theorem receiveFrame_some {frame : List UInt8} (h : r.receiveFrame frame = some t) :
    (∃ size got deadline, r.reader = .select size got deadline ∧ t = (r.onFrame frame).copy size got deadline) ∨
      ∃ size deadline, r.reader = .wait size deadline ∧ t = (r.onFrame frame).copy size [] deadline := by
  unfold receiveFrame at h
  split at h
  · exact .inl ⟨_,_,_,‹_›,(Option.some.inj h).symm⟩
  · exact .inr ⟨_,_,‹_›,(Option.some.inj h).symm⟩
  · cases h

theorem step_read {size : Nat} {deadline : Deadline} (h : r.step (.read size deadline) = some t) :
    r.reader = .idle ∧ t = r.copy size [] deadline := by
  simp only [step,read] at h
  split at h
  · exact ⟨‹_›,(Option.some.inj h).symm⟩
  · cases h

theorem step_readFrame (h : r.step .readFrame = some t) :
    ∃ frame rest, r.queue.items = frame :: rest ∧
      ({ r with queue := { r.queue with items := rest } } : ReceiveBuffer).receiveFrame frame = some t := by
  simp only [step,readFrame] at h
  split at h
  · exact ⟨_,_,‹_›,h⟩
  · cases h

theorem step_readFrom {i : Nat} (h : r.step (.readFrom i) = some t) :
    ∃ frame, r.queue.items = [] ∧ r.queue.closed = false ∧ r.submitters[i]? = some (.enqueue frame) ∧
      ({ r.setSubmitter i .idle with accepted := r.accepted ++ [frame] } : ReceiveBuffer).receiveFrame frame =
        some t := by
  simp only [step,readFrom] at h
  split at h
  · exact ⟨_,‹_›,‹_›,‹_›,h⟩
  · cases h

theorem step_readEOF (h : r.step .readEOF = some t) :
    r.queue.items = [] ∧ r.queue.closed = true ∧
      ((∃ size got deadline, r.reader = .select size got deadline ∧
        t = { r with reader := .returning size got .eof }) ∨
      ∃ size deadline, r.reader = .wait size deadline ∧ t = { r with reader := .returning size [] .eof }) := by
  simp only [step,readEOF] at h
  split at h
  · exact ⟨‹_›,‹_›,.inl ⟨_,_,_,‹_›,(Option.some.inj h).symm⟩⟩
  · exact ⟨‹_›,‹_›,.inr ⟨_,_,‹_›,(Option.some.inj h).symm⟩⟩
  · cases h

theorem step_readDefault (h : r.step .readDefault = some t) :
    ∃ size got deadline, r.reader = .select size got deadline ∧ r.queue.items = [] ∧
      r.queue.closed = false ∧
      (got.length > 0 ∧ t = { r with reader := .returning size got .none } ∨
        got = [] ∧ (deadline = .past ∧ t = { r with reader := .returning size [] .none } ∨
          deadline ≠ .past ∧ t = { r with reader := .wait size deadline })) := by
  simp only [step,readDefault] at h
  split at h
  · rename_i size got deadline reader items closed
    refine ⟨size,got,deadline,reader,items,closed,?_⟩
    split at h
    · exact .inl ⟨‹_›,(Option.some.inj h).symm⟩
    · have empty : got = [] := List.eq_nil_of_length_eq_zero (by omega)
      split at h
      · exact .inr ⟨empty,.inl ⟨rfl,(Option.some.inj h).symm⟩⟩
      · exact .inr ⟨empty,.inr ⟨‹_›,(Option.some.inj h).symm⟩⟩
  · cases h

theorem step_readTimeout (h : r.step .readTimeout = some t) :
    ∃ size, r.reader = .wait size .future ∧ t = { r with reader := .returning size [] .timeout } := by
  simp only [step,readTimeout] at h
  split at h
  · exact ⟨_,‹_›,(Option.some.inj h).symm⟩
  · cases h

theorem step_readReturn (h : r.step .readReturn = some t) :
    ∃ size got err, r.reader = .returning size got err ∧
      let done : ReceiveBuffer := { r with reader := .idle, reads := r.reads ++ [⟨got,size,err⟩] }
      (r.ackInterval ≤ r.unacked ∧
          t = { done with ack := r.ack ++ [ackWithFrames r.defaultHeader (int16 r.unacked)], unacked := 0 } ∨
        r.unacked < r.ackInterval ∧ t = done) := by
  simp only [step,readReturn] at h
  split at h
  · refine ⟨_,_,_,‹_›,?_⟩
    split at h
    · exact .inl ⟨‹_›,(Option.some.inj h).symm⟩
    · exact .inr ⟨by omega,(Option.some.inj h).symm⟩
  · cases h

theorem step_expire (h : r.step .expire = some t) :
    ∃ size got, r.reader = .select size got .future ∧ t = { r with reader := .select size got .past } := by
  simp only [step,expire] at h
  split at h
  · exact ⟨_,_,‹_›,(Option.some.inj h).symm⟩
  · cases h

theorem step_submit {i : Nat} {frame : List UInt8} (h : r.step (.submit i frame) = some t) :
    r.submitters[i]? = some .idle ∧ CloserPc.lock ∉ r.closers ∧
      (r.closed = true ∧ t = r ∨ r.closed = false ∧ t = r.setSubmitter i (.enqueue frame)) := by
  simp only [step,submit] at h
  split at h
  · cases h
  split at h
  · split at h
    · cases h
    · rename_i pending
      refine ⟨‹_›,by simpa using pending,?_⟩
      split at h
      · exact .inl ⟨‹_›,(Option.some.inj h).symm⟩
      · rename_i opened
        exact .inr ⟨by simpa using opened,(Option.some.inj h).symm⟩
  · cases h

theorem step_submit_header {i : Nat} {frame : List UInt8} (h : r.step (.submit i frame) = some t) :
    dataHeaderSize ≤ frame.length := by
  simp only [step,submit] at h
  split at h
  · cases h
  · omega

theorem step_enqueue {i : Nat} (h : r.step (.enqueue i) = some t) :
    ∃ frame, r.submitters[i]? = some (.enqueue frame) ∧
      (r.queue.closed = true ∧ t = { r with panicked := true } ∨
        r.queue.closed = false ∧ r.queue.items.length < r.windowSize ∧
          t = { r.setSubmitter i .idle with
            queue := { r.queue with items := r.queue.items ++ [frame] }, accepted := r.accepted ++ [frame] }) := by
  simp only [step,enqueue] at h
  split at h
  · refine ⟨_,‹_›,?_⟩
    split at h
    · exact .inl ⟨‹_›,(Option.some.inj h).symm⟩
    · rename_i opened
      split at h
      · exact .inr ⟨by simpa using opened,‹_›,(Option.some.inj h).symm⟩
      · cases h
  · cases h

theorem step_close {j : Nat} (h : r.step (.close j) = some t) :
    r.closers[j]? = some .idle ∧ t = r.setCloser j .lock := by
  simp only [step,close] at h
  split at h
  · exact ⟨‹_›,(Option.some.inj h).symm⟩
  · cases h

theorem step_lock {j : Nat} (h : r.step (.lock j) = some t) :
    r.closers[j]? = some .lock ∧ (∀ pc ∈ r.submitters, pc = .idle) ∧
      (r.closed = true ∧ t = r.setCloser j .idle ∨
        r.closed = false ∧ t = { r.setCloser j .idle with
          closed := true, queue := { r.queue with closed := true },
          panicked := r.panicked || r.queue.closed }) := by
  simp only [step,lock] at h
  split at h
  · split at h
    · rename_i idle
      refine ⟨‹_›,by simpa using idle,?_⟩
      split at h
      · exact .inl ⟨‹_›,(Option.some.inj h).symm⟩
      · rename_i opened
        exact .inr ⟨by simpa using opened,(Option.some.inj h).symm⟩
    · cases h
  · cases h

theorem receiveFrame_accepted {frame : List UInt8} (h : r.receiveFrame frame = some t) :
    t.accepted = r.accepted := by
  rcases receiveFrame_some h with ⟨_,_,_,-,rfl⟩ | ⟨_,_,-,rfl⟩ <;> rfl

theorem step_accepted {a : ReceiveAction} (h : r.step a = some t) :
    t.accepted = r.accepted ∨ ∃ i frame, (a = .enqueue i ∨ a = .readFrom i) ∧
      r.submitters[i]? = some (.enqueue frame) ∧ r.queue.closed = false := by
  cases a with
  | read => obtain ⟨-,rfl⟩ := step_read h; exact .inl rfl
  | readFrame =>
    obtain ⟨_,_,-,received⟩ := step_readFrame h
    have same := receiveFrame_accepted received
    exact .inl same
  | readFrom i =>
    obtain ⟨frame,-,opened,pc,-⟩ := step_readFrom h
    exact .inr ⟨i,frame,.inr rfl,pc,opened⟩
  | readEOF => obtain ⟨-,-,⟨_,_,_,-,rfl⟩ | ⟨_,_,-,rfl⟩⟩ := step_readEOF h <;> exact .inl rfl
  | readDefault =>
    obtain ⟨_,_,_,-,-,-,⟨-,rfl⟩ | ⟨-,⟨-,rfl⟩ | ⟨-,rfl⟩⟩⟩ := step_readDefault h <;> exact .inl rfl
  | readTimeout => obtain ⟨_,-,rfl⟩ := step_readTimeout h; exact .inl rfl
  | readReturn => obtain ⟨_,_,_,-,⟨-,rfl⟩ | ⟨-,rfl⟩⟩ := step_readReturn h <;> exact .inl rfl
  | expire => obtain ⟨_,_,-,rfl⟩ := step_expire h; exact .inl rfl
  | submit => obtain ⟨-,-,⟨-,rfl⟩ | ⟨-,rfl⟩⟩ := step_submit h <;> exact .inl rfl
  | enqueue i =>
    obtain ⟨frame,pc,⟨-,rfl⟩ | ⟨opened,-,-⟩⟩ := step_enqueue h
    · exact .inl rfl
    · exact .inr ⟨i,frame,.inl rfl,pc,opened⟩
  | close => obtain ⟨-,rfl⟩ := step_close h; exact .inl rfl
  | lock => obtain ⟨-,-,⟨-,rfl⟩ | ⟨-,rfl⟩⟩ := step_lock h <;> exact .inl rfl

theorem step_reads {a : ReceiveAction} (h : r.step a = some t) :
    t.reads = r.reads ∨ ∃ size got err, r.reader = .returning size got err ∧ t.reader = .idle ∧
      t.reads = r.reads ++ [⟨got,size,err⟩] ∧ t.queue = r.queue ∧ t.current = r.current := by
  cases a with
  | read => obtain ⟨-,rfl⟩ := step_read h; exact .inl rfl
  | readFrame =>
    obtain ⟨_,_,-,received⟩ := step_readFrame h
    rcases receiveFrame_some received with ⟨_,_,_,-,rfl⟩ | ⟨_,_,-,rfl⟩ <;> exact .inl rfl
  | readFrom =>
    obtain ⟨_,-,-,-,received⟩ := step_readFrom h
    rcases receiveFrame_some received with ⟨_,_,_,-,rfl⟩ | ⟨_,_,-,rfl⟩ <;> exact .inl rfl
  | readEOF => obtain ⟨-,-,⟨_,_,_,-,rfl⟩ | ⟨_,_,-,rfl⟩⟩ := step_readEOF h <;> exact .inl rfl
  | readDefault =>
    obtain ⟨_,_,_,-,-,-,⟨-,rfl⟩ | ⟨-,⟨-,rfl⟩ | ⟨-,rfl⟩⟩⟩ := step_readDefault h <;> exact .inl rfl
  | readTimeout => obtain ⟨_,-,rfl⟩ := step_readTimeout h; exact .inl rfl
  | readReturn =>
    obtain ⟨size,got,err,returning,⟨-,rfl⟩ | ⟨-,rfl⟩⟩ := step_readReturn h <;>
      exact .inr ⟨size,got,err,returning,rfl,rfl,rfl,rfl⟩
  | expire => obtain ⟨_,_,-,rfl⟩ := step_expire h; exact .inl rfl
  | submit => obtain ⟨-,-,⟨-,rfl⟩ | ⟨-,rfl⟩⟩ := step_submit h <;> exact .inl rfl
  | enqueue => obtain ⟨_,-,⟨-,rfl⟩ | ⟨-,-,rfl⟩⟩ := step_enqueue h <;> exact .inl rfl
  | close => obtain ⟨-,rfl⟩ := step_close h; exact .inl rfl
  | lock => obtain ⟨-,-,⟨-,rfl⟩ | ⟨-,rfl⟩⟩ := step_lock h <;> exact .inl rfl

end Lampshade.ReceiveBuffer

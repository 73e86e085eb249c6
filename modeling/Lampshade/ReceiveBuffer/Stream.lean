import Lampshade.ReceiveBuffer.Steps

/-! `read` hands out the accepted payloads as one byte stream: over every interleaving of
`submit`, `close` and the steps of `read`, the bytes read so far, the rest of `current` and the
payloads still queued are the accepted payloads in order, and EOF comes only once all of them
have been read. -/
namespace Lampshade.ReceiveBuffer

variable {r t : ReceiveBuffer}

@[simp] theorem payloads_nil : payloads [] = [] := rfl

@[simp] theorem payloads_cons (frame : List UInt8) (frames : List (List UInt8)) :
    payloads (frame :: frames) = payload frame ++ payloads frames := rfl

@[simp] theorem payloads_append (frames more : List (List UInt8)) :
    payloads (frames ++ more) = payloads frames ++ payloads more := by
  simp [payloads]

/-- What the reader's place says about `current`: `select` has room left and `current`
drained, a wait has `current` drained, a return fits its destination. -/
def ReaderFits (r : ReceiveBuffer) : Prop :=
  match r.reader with
  | .idle => True
  | .select size got _ => got.length < size ∧ r.current = []
  | .wait _ _ => r.current = []
  | .returning size got _ => got.length ≤ size

structure Streamed (r : ReceiveBuffer) : Prop where
  sizes : ∀ res ∈ r.reads, res.bytes.length ≤ res.size
  bytes : r.delivered ++ r.current ++ payloads r.queue.items = payloads r.accepted
  fits : r.ReaderFits
  eof : ∀ size got, r.reader = .returning size got .eof →
    r.current = [] ∧ r.queue.items = [] ∧ r.queue.closed = true

theorem copy_got (size : Nat) (got : List UInt8) (deadline : Deadline) :
    (r.copy size got deadline).reader.got ++ (r.copy size got deadline).current = got ++ r.current := by
  by_cases short : r.current.length < size - got.length
  · simp [copy,short,ReadPc.got,List.drop_eq_nil_of_le (Nat.le_of_lt short)]
  · simp [copy,short,ReadPc.got]

theorem copy_fits {size : Nat} {got : List UInt8} (deadline : Deadline) (fits : got.length ≤ size) :
    (r.copy size got deadline).ReaderFits := by
  by_cases short : r.current.length < size - got.length
  · simp only [copy,short,if_true,ReaderFits,List.length_append,List.drop_eq_nil_iff]
    omega
  · simp only [copy,short,if_false,ReaderFits,List.length_append,List.length_take]
    omega

theorem streamed_copy {size : Nat} {got : List UInt8} (deadline : Deadline) (fits : got.length ≤ size)
    (sizes : ∀ res ∈ r.reads, res.bytes.length ≤ res.size)
    (bytes : (r.reads.map (·.bytes)).flatten ++ got ++ r.current ++ payloads r.queue.items =
      payloads r.accepted) :
    (r.copy size got deadline).Streamed where
  sizes := sizes
  eof _ _ returned := by
    simp only [copy] at returned
    split at returned <;> cases returned
  bytes := by
    have moved := @copy_got r size got deadline
    simp only [delivered,List.append_assoc] at moved bytes ⊢
    rw [← List.append_assoc _ (r.copy size got deadline).current,moved]
    simpa [copy] using bytes
  fits := copy_fits deadline fits

theorem streamed_onFrame_copy {frame got : List UInt8} {size : Nat} (deadline : Deadline)
    (fits : got.length ≤ size) (sizes : ∀ res ∈ r.reads, res.bytes.length ≤ res.size)
    (bytes : (r.reads.map (·.bytes)).flatten ++ got ++ payload frame ++ payloads r.queue.items =
      payloads r.accepted) :
    ((r.onFrame frame).copy size got deadline).Streamed :=
  streamed_copy deadline fits sizes (by simpa [onFrame] using bytes)

theorem streamed_receiveFrame {frame : List UInt8} (h : r.receiveFrame frame = some t)
    (sizes : ∀ res ∈ r.reads, res.bytes.length ≤ res.size) (fits : r.ReaderFits)
    (bytes : r.delivered ++ r.current ++ payload frame ++ payloads r.queue.items = payloads r.accepted) :
    t.Streamed := by
  rcases receiveFrame_some h with ⟨size,got,deadline,reader,rfl⟩ | ⟨size,deadline,reader,rfl⟩
  · simp only [ReaderFits,reader] at fits
    refine streamed_onFrame_copy deadline (Nat.le_of_lt fits.1) sizes ?_
    simpa [delivered,reader,ReadPc.got,fits.2] using bytes
  · simp only [ReaderFits,reader] at fits
    refine streamed_onFrame_copy deadline (Nat.zero_le _) sizes ?_
    simpa [delivered,reader,ReadPc.got,fits] using bytes

theorem step_streamed (streamed : r.Streamed) {a : ReceiveAction} (h : r.step a = some t) :
    t.Streamed := by
  obtain ⟨sizes,bytes,fits,eof⟩ := streamed
  cases a with
  | read size deadline =>
    obtain ⟨idle,rfl⟩ := step_read h
    exact streamed_copy deadline (Nat.zero_le _) sizes (by simpa [delivered,idle,ReadPc.got] using bytes)
  | readFrame =>
    obtain ⟨frame,rest,items,received⟩ := step_readFrame h
    exact streamed_receiveFrame received sizes fits (by simpa [delivered,items] using bytes)
  | readFrom i =>
    obtain ⟨frame,items,-,-,received⟩ := step_readFrom h
    have grown := congrArg (· ++ payload frame) bytes
    exact streamed_receiveFrame received sizes fits (by simpa [delivered,items,setSubmitter] using grown)
  | readEOF =>
    obtain ⟨items,closed,⟨size,got,deadline,reader,rfl⟩ | ⟨size,deadline,reader,rfl⟩⟩ := step_readEOF h
    all_goals
      simp only [ReaderFits,reader] at fits
      refine ⟨sizes,by simpa [delivered,reader,ReadPc.got] using bytes,?_,?_⟩
      · simp only [ReaderFits,List.length_nil]
        omega
      · intro _ _ returned
        simp_all
  | readDefault =>
    obtain ⟨size,got,deadline,reader,items,closed,⟨_,rfl⟩ | ⟨rfl,⟨_,rfl⟩ | ⟨_,rfl⟩⟩⟩ := step_readDefault h
    all_goals
      simp only [ReaderFits,reader] at fits
      refine ⟨sizes,by simpa [delivered,reader,ReadPc.got] using bytes,?_,by simp⟩
    · exact Nat.le_of_lt fits.1
    · exact Nat.zero_le _
    · exact fits.2
  | readTimeout =>
    obtain ⟨size,reader,rfl⟩ := step_readTimeout h
    exact ⟨sizes,by simpa [delivered,reader,ReadPc.got] using bytes,by simp [ReaderFits],by simp⟩
  | readReturn =>
    obtain ⟨size,got,err,reader,⟨_,rfl⟩ | ⟨_,rfl⟩⟩ := step_readReturn h
    all_goals
      simp only [ReaderFits,reader] at fits
      refine ⟨fun res mem => ?_,by simpa [delivered,reader,ReadPc.got] using bytes,by simp [ReaderFits],
        by simp⟩
      rcases List.mem_append.mp mem with mem | single
      · exact sizes res mem
      · rw [List.mem_singleton.mp single]
        exact fits
  | expire =>
    obtain ⟨size,got,reader,rfl⟩ := step_expire h
    simp only [ReaderFits,reader] at fits
    exact ⟨sizes,by simpa [delivered,reader,ReadPc.got] using bytes,fits,by simp⟩
  | submit i frame =>
    obtain ⟨-,-,⟨-,rfl⟩ | ⟨-,rfl⟩⟩ := step_submit h
    · exact ⟨sizes,bytes,fits,eof⟩
    · exact ⟨sizes,bytes,fits,eof⟩
  | enqueue i =>
    obtain ⟨frame,-,⟨-,rfl⟩ | ⟨opened,-,rfl⟩⟩ := step_enqueue h
    · exact ⟨sizes,bytes,fits,eof⟩
    · refine ⟨sizes,?_,fits,fun size got returned => ?_⟩
      · have grown := congrArg (· ++ payload frame) bytes
        simpa [delivered,setSubmitter] using grown
      · simp [(eof size got returned).2.2] at opened
  | close j =>
    obtain ⟨-,rfl⟩ := step_close h
    exact ⟨sizes,bytes,fits,eof⟩
  | lock j =>
    obtain ⟨-,-,⟨-,rfl⟩ | ⟨-,rfl⟩⟩ := step_lock h
    · exact ⟨sizes,bytes,fits,eof⟩
    · refine ⟨sizes,bytes,fits,fun size got returned => ?_⟩
      have drained := eof size got returned
      exact ⟨drained.1,drained.2.1,rfl⟩

theorem streamed_new (defaultHeader : List UInt8) (windowSize submitters closers : Nat) :
    (newReceiveBuffer defaultHeader windowSize submitters closers).Streamed :=
  ⟨by simp [newReceiveBuffer],rfl,trivial,by simp [newReceiveBuffer]⟩

/-- Over every interleaving of `submit`, `close` and `read`'s steps: every read fits its
destination; the bytes read so far (the finished reads, then the one in progress), the rest of
`current` and the queued payloads are the accepted payloads in order; and EOF is returned only
once every accepted byte has been read. -/
theorem read_returns_accepted_bytes {defaultHeader : List UInt8} {windowSize submitters closers : Nat}
    {r : ReceiveBuffer} (reach : (newReceiveBuffer defaultHeader windowSize submitters closers).Reaches r) :
    (∀ res ∈ r.reads, res.bytes.length ≤ res.size) ∧
      (r.reads.map (·.bytes)).flatten ++ r.reader.got ++ r.current ++ payloads r.queue.items =
        payloads r.accepted ∧
      ∀ size got, r.reader = .returning size got .eof →
        (r.reads.map (·.bytes)).flatten ++ got = payloads r.accepted := by
  have streamed := Reaches.induction (fun _ streamed h => step_streamed streamed h) (streamed_new _ _ _ _) reach
  refine ⟨streamed.sizes,streamed.bytes,fun size got returned => ?_⟩
  obtain ⟨drained,empty,-⟩ := streamed.eof size got returned
  simpa [delivered,returned,ReadPc.got,drained,empty] using streamed.bytes

/-- One frame with a two-byte payload is submitted and the buffer closed; a one-byte read,
then a four-byte read that ends in EOF. -/
def readToEOF : List ReceiveAction :=
  [.submit 0 [0,0,0,1,0,2,7,8],.enqueue 0,.close 0,.lock 0,.read 1 .zero,.readFrame,.readReturn,
    .read 4 .zero,.readEOF]

theorem read_to_eof_returns_accepted_bytes :
    ∃ r, (newReceiveBuffer [0,0,0,1] 4 1 1).steps readToEOF = some r ∧
      r.reader = .returning 4 [8] .eof ∧
      ((∀ res ∈ r.reads, res.bytes.length ≤ res.size) ∧
        (r.reads.map (·.bytes)).flatten ++ r.reader.got ++ r.current ++ payloads r.queue.items =
          payloads r.accepted ∧
        ∀ size got, r.reader = .returning size got .eof →
          (r.reads.map (·.bytes)).flatten ++ got = payloads r.accepted) :=
  ⟨_,rfl,rfl,@read_returns_accepted_bytes [0,0,0,1] 4 1 1 _ (Reaches.of_runSteps readToEOF rfl)⟩

end Lampshade.ReceiveBuffer

import Mathlib.Algebra.BigOperators.Ring
import Lampshade.ReceiveBuffer.Pool
import Lampshade.ReceiveBuffer.Acking

/-! The batches `read` acknowledges, over every interleaving of `submit`, `close` and `read`'s
steps. `onFrame` counts each frame taken from `in` in `unacked`, and the deferred function
flushes `unacked` once it reaches `ackInterval`. So the values flushed, each at least
`ackInterval`, and `unacked` add up to the frames taken, and `unacked` stays below
`ackInterval` between reads. An ACK carries `int16` of its value, which wraps once a value
reaches `2^15`; in a session the window keeps every value below that. `onFrame` counts a frame
when `read` takes it, before its payload has been copied out, so the flush of a `read` that
filled its destination may acknowledge a frame still partly in `current`. -/
namespace Lampshade.ReceiveBuffer

variable {r t : ReceiveBuffer}

/-- The ACK books: the values of `unacked` flushed so far, one per ACK, and what lies between
reads. -/
structure Batched (r : ReceiveBuffer) : Prop where
  interval : 0 < r.ackInterval
  flushes : ∃ flushed : List Nat, r.ack.map (·.frames) = flushed.map int16 ∧
    (∀ v ∈ flushed, r.ackInterval ≤ v) ∧ r.taken.length = r.unacked + flushed.sum
  between : r.reader = .idle → r.unacked < r.ackInterval

def batchView (r : ReceiveBuffer) := (r.ackInterval,r.ack,r.unacked,r.taken)

theorem Batched.of_view (batched : r.Batched) (same : t.batchView = r.batchView)
    (between : t.reader = .idle → t.unacked < t.ackInterval) : t.Batched := by
  simp only [batchView,Prod.mk.injEq] at same
  obtain ⟨interval,ack,unacked,taken⟩ := same
  obtain ⟨flushed,carried,large,total⟩ := batched.flushes
  exact ⟨interval ▸ batched.interval,⟨flushed,ack ▸ carried,interval ▸ large,by rw [taken,unacked]; exact total⟩,
    between⟩

theorem Batched.receiveFrame (batched : r.Batched) {frame : List UInt8} (h : r.receiveFrame frame = some t) :
    t.Batched := by
  obtain ⟨flushed,carried,large,total⟩ := batched.flushes
  rcases receiveFrame_some h with ⟨_,_,_,-,rfl⟩ | ⟨_,_,-,rfl⟩ <;>
    refine ⟨batched.interval,⟨flushed,carried,large,?_⟩,fun idle => absurd idle (copy_reader_ne_idle _ _ _)⟩ <;>
    show (r.taken ++ [frame]).length = r.unacked + 1 + flushed.sum <;>
    rw [List.length_append,total,List.length_singleton,Nat.add_right_comm]

theorem step_batched (batched : r.Batched) {a : ReceiveAction} (h : r.step a = some t) : t.Batched := by
  have inside : ∀ pc : ReadPc, pc ≠ .idle → ({ r with reader := pc } : ReceiveBuffer).Batched :=
    fun _ away => batched.of_view rfl (absurd · away)
  cases a with
  | read => obtain ⟨-,rfl⟩ := step_read h; exact batched.of_view rfl (absurd · (copy_reader_ne_idle _ _ _))
  | readFrame =>
    obtain ⟨_,_,-,received⟩ := step_readFrame h
    refine Batched.receiveFrame ?_ received
    exact batched.of_view rfl batched.between
  | readFrom =>
    obtain ⟨_,-,-,-,received⟩ := step_readFrom h
    refine Batched.receiveFrame ?_ received
    exact batched.of_view rfl batched.between
  | readEOF => obtain ⟨-,-,⟨_,_,_,-,rfl⟩ | ⟨_,_,-,rfl⟩⟩ := step_readEOF h <;> exact inside _ (by simp)
  | readDefault =>
    obtain ⟨_,_,_,-,-,-,⟨-,rfl⟩ | ⟨-,⟨-,rfl⟩ | ⟨-,rfl⟩⟩⟩ := step_readDefault h <;> exact inside _ (by simp)
  | readTimeout => obtain ⟨_,-,rfl⟩ := step_readTimeout h; exact inside _ (by simp)
  | readReturn =>
    obtain ⟨_,_,_,-,⟨flush,rfl⟩ | ⟨below,rfl⟩⟩ := step_readReturn h
    · obtain ⟨flushed,carried,large,total⟩ := batched.flushes
      refine ⟨batched.interval,⟨flushed ++ [r.unacked],?_,?_,?_⟩,fun _ => batched.interval⟩
      · simp [carried,ackWithFrames]
      · simp only [List.mem_append,List.mem_singleton]
        exact fun v mem => mem.elim (large v) fun same => same ▸ flush
      · simp only [taken,List.sum_append,List.sum_singleton] at total ⊢
        omega
    · exact batched.of_view rfl fun _ => below
  | expire => obtain ⟨_,_,-,rfl⟩ := step_expire h; exact inside _ (by simp)
  | submit => obtain ⟨-,-,⟨-,rfl⟩ | ⟨-,rfl⟩⟩ := step_submit h <;> exact batched.of_view rfl batched.between
  | enqueue =>
    obtain ⟨_,-,⟨-,rfl⟩ | ⟨-,-,rfl⟩⟩ := step_enqueue h <;> exact batched.of_view rfl batched.between
  | close => obtain ⟨-,rfl⟩ := step_close h; exact batched.of_view rfl batched.between
  | lock => obtain ⟨-,-,⟨-,rfl⟩ | ⟨-,rfl⟩⟩ := step_lock h <;> exact batched.of_view rfl batched.between

theorem batched_new (defaultHeader : List UInt8) {windowSize : Nat} (positive : 1 ≤ windowSize)
    (submitters closers : Nat) : (newReceiveBuffer defaultHeader windowSize submitters closers).Batched :=
  ⟨by simp only [newReceiveBuffer]; omega,⟨[],rfl,by simp,rfl⟩,fun _ => by simp only [newReceiveBuffer]; omega⟩

/-- `n` frames, each handed to `submit` by the session reader, enqueued, and taken by the read in
progress. -/
def feedFrames (frame : List UInt8) : Nat → List ReceiveAction
  | 0 => []
  | n + 1 => .submit 0 frame :: .enqueue 0 :: .readFrame :: feedFrames frame n

def feedView (r : ReceiveBuffer) :=
  (r.defaultHeader,r.windowSize,r.ackInterval,r.ack,r.queue,r.current,r.submitters,r.closers,r.closed)

theorem feed_one {frame : List UInt8} {x : UInt8} (single : payload frame = [x]) {size : Nat} {got : List UInt8}
    {deadline : Deadline} (reader : r.reader = .select size got deadline) (room : got.length + 1 < size)
    (drained : r.current = []) (submitters : r.submitters = [.idle]) (closers : r.closers = [])
    (closed : r.closed = false) (queue : r.queue = ⟨[],false⟩) (capacity : 0 < r.windowSize) :
    ∃ t, r.steps [.submit 0 frame,.enqueue 0,.readFrame] = some t ∧ t.feedView = r.feedView ∧
      t.reader = .select size (got ++ [x]) deadline ∧ t.unacked = r.unacked + 1 ∧ t.taken.length = r.taken.length + 1 := by
  have header : ¬ frame.length < dataHeaderSize := by
    have one := congrArg List.length single
    simp only [payload,List.length_drop,List.length_singleton] at one
    omega
  simp only [steps,runSteps,step,submit,header,submitters,closers,closed,List.getElem?_cons_zero,List.any_nil,
    Bool.false_eq_true,if_false,Option.bind_eq_bind,Option.some_bind,enqueue,setSubmitter,List.set_cons_zero,
    queue,List.length_nil,capacity,if_true,readFrame,List.nil_append,receiveFrame,reader]
  have short : [x].length < size - got.length := by simp only [List.length_singleton]; omega
  refine ⟨_,rfl,?_,?_,rfl,?_⟩
  · simp only [feedView,copy,onFrame,single,drained,queue,submitters,closers,closed,
      List.drop_eq_nil_of_le (Nat.le_of_lt short)]
  · simp only [copy,onFrame,single,short,if_true]
  · simp only [copy,onFrame,taken,List.length_append,Option.toList_some,List.length_singleton]

/-- `n` frames with one-byte payloads fed to a read with room for more: each is counted in
`unacked` and its byte copied. -/
theorem feed_frames {frame : List UInt8} {x : UInt8} (single : payload frame = [x]) (n : Nat) {size : Nat}
    {got : List UInt8} {deadline : Deadline} (reader : r.reader = .select size got deadline)
    (room : got.length + n < size) (drained : r.current = []) (submitters : r.submitters = [.idle])
    (closers : r.closers = []) (closed : r.closed = false) (queue : r.queue = ⟨[],false⟩)
    (capacity : 0 < r.windowSize) :
    ∃ t, r.steps (feedFrames frame n) = some t ∧ t.feedView = r.feedView ∧
      t.reader = .select size (got ++ List.replicate n x) deadline ∧ t.unacked = r.unacked + n ∧
      t.taken.length = r.taken.length + n := by
  induction n generalizing r got with
  | zero => exact ⟨r,rfl,rfl,by simp [reader],rfl,rfl⟩
  | succ n ih =>
    obtain ⟨u,first,view,reader',unacked,taken⟩ :=
      feed_one single reader (by omega) drained submitters closers closed queue capacity
    have same := view
    simp only [feedView,Prod.mk.injEq] at same
    obtain ⟨-,window,-,-,queue',current',submitters',closers',closed'⟩ := same
    obtain ⟨t,rest,view',reader'',unacked',taken'⟩ :=
      @ih u (got ++ [x]) reader' (by simp only [List.length_append,List.length_singleton]; omega)
        (current' ▸ drained) (submitters' ▸ submitters) (closers' ▸ closers) (closed' ▸ closed)
        (queue' ▸ queue) (window ▸ capacity)
    refine ⟨t,?_,view'.trans view,by rw [reader'',List.append_assoc,List.singleton_append,List.replicate_succ],
      by omega,by omega⟩
    show runSteps step r ([.submit 0 frame,.enqueue 0,.readFrame] ++ feedFrames frame n) = some t
    rw [runSteps_append,show runSteps step r _ = some u from first,Option.bind_eq_bind,Option.some_bind]
    exact rest

/-- Window 1: one read into a destination of `n + 1` bytes takes `n` frames with one-byte
payloads, then finds `in` empty and returns. -/
def wideRead (n : Nat) : List ReceiveAction :=
  .read (n + 1) .zero :: feedFrames [0,0,0,1,0,1,7] n ++ [.readDefault,.readReturn]

/-- The read's flush carries `int16` of the `n` frames it took. -/
theorem wide_read_acks (defaultHeader : List UInt8) {n : Nat} (positive : 1 ≤ n) :
    ∃ r, (newReceiveBuffer defaultHeader 1 1 0).steps (wideRead n) = some r ∧ r.taken.length = n ∧
      r.unacked = 0 ∧ r.ackInterval = 1 ∧ r.ack = [ackWithFrames defaultHeader (int16 n)] := by
  have start : (newReceiveBuffer defaultHeader 1 1 0).step (.read (n + 1) .zero) =
      some { newReceiveBuffer defaultHeader 1 1 0 with reader := .select (n + 1) [] .zero } := by
    simp [step,read,copy,newReceiveBuffer]
  obtain ⟨u,fed,view,reader,unacked,took⟩ :=
    @feed_frames { newReceiveBuffer defaultHeader 1 1 0 with reader := .select (n + 1) [] .zero }
      [0,0,0,1,0,1,7] 7 rfl n (n + 1) [] .zero rfl (by simp) rfl rfl rfl rfl rfl Nat.one_pos
  simp only [feedView,Prod.mk.injEq] at view
  obtain ⟨header,-,interval,ack,queue,-⟩ := view
  have ran : (newReceiveBuffer defaultHeader 1 1 0).steps (wideRead n) = u.steps [.readDefault,.readReturn] := by
    show runSteps step _ ([.read (n + 1) .zero] ++ feedFrames [0,0,0,1,0,1,7] n ++ [.readDefault,.readReturn]) = _
    rw [runSteps_append,runSteps_append]
    simp only [runSteps,start,Option.bind_eq_bind,Option.some_bind]
    rw [show runSteps step _ _ = some u from fed,Option.some_bind]
  simp only [newReceiveBuffer,Nat.reduceAdd,Nat.zero_lt_succ,Nat.div_self,List.replicate_one,List.replicate_zero,
    zero_add,taken,List.length_append,Option.toList_none,List.append_nil,List.length_nil,
    List.nil_append] at header interval ack queue unacked took reader
  rw [ran]
  simp only [steps,runSteps,step,readDefault,reader,queue,Chan.empty,List.length_replicate,gt_iff_lt,
    show 0 < n from positive,if_true,Option.bind_eq_bind,Option.some_bind,readReturn,interval,unacked,positive]
  exact ⟨_,rfl,by simpa [taken] using took,rfl,rfl,by rw [ack,header]; rfl⟩

/-- Over every interleaving of `submit`, `close` and `read`'s steps on a buffer with
`windowSize ≥ 1`: the values of `unacked` flushed, one per ACK, each at least `ackInterval`, and
the current `unacked` add up to the frames `read` has taken from `in`; each ACK carries `int16`
of its value, so while no value reaches `2^15` the ACK counts themselves add up and are at least
`ackInterval`. Between reads `unacked` is below `ackInterval`, so a read into an empty
destination emits no ACK. -/
theorem ack_batches_count_taken_frames {defaultHeader : List UInt8} {windowSize submitters closers : Nat}
    (positive : 1 ≤ windowSize) (reach : (newReceiveBuffer defaultHeader windowSize submitters closers).Reaches r) :
    (∃ flushed : List Nat, r.ack.map (·.frames) = flushed.map int16 ∧ (∀ v ∈ flushed, r.ackInterval ≤ v) ∧
      (r.pool ++ r.poolable.toList).length = r.unacked + flushed.sum ∧
      ((∀ v ∈ flushed, v < 2^15) →
        ackSum r.ack + r.unacked = (r.pool ++ r.poolable.toList).length ∧
          ∀ ack ∈ r.ack, (r.ackInterval : Int) ≤ ack.frames)) ∧
    (r.reader = .idle → r.unacked < r.ackInterval ∧
      ∀ deadline t u, r.step (.read 0 deadline) = some t → t.step .readReturn = some u → u.ack = r.ack) := by
  have batched := Reaches.induction (fun _ batched h => step_batched batched h) (batched_new _ positive _ _) reach
  obtain ⟨flushed,carried,large,total⟩ := batched.flushes
  refine ⟨⟨flushed,carried,large,total,fun small => ?_⟩,fun idle => ⟨batched.between idle,?_⟩⟩
  · have exact : r.ack.map (·.frames) = flushed.map ((↑) : Nat → Int) := by
      rw [carried]
      exact List.map_congr_left fun v mem => int16_of_lt (small v mem)
    refine ⟨?_,fun ack mem => ?_⟩
    · have sum := congrArg List.sum exact
      rw [← Nat.cast_list_sum] at sum
      rw [ackSum,sum,← taken,total,Nat.cast_add,add_comm]
    · have frames : ack.frames ∈ flushed.map ((↑) : Nat → Int) := by
        rw [← exact]
        exact List.mem_map_of_mem _ mem
      obtain ⟨v,member,same⟩ := List.mem_map.mp frames
      rw [← same]
      exact_mod_cast large v member
  · intro deadline t u read returned
    obtain ⟨-,rfl⟩ := step_read read
    obtain ⟨_,_,_,-,⟨flush,rfl⟩ | ⟨-,rfl⟩⟩ := step_readReturn returned
    · exact absurd flush (Nat.not_le.mpr (batched.between idle))
    · rfl

/-- The read of `twoFrameRead` goes on to take the second frame and returns two bytes. -/
def twoFrameAck : List ReceiveAction := twoFrameRead ++ [.readFrame,.readDefault,.readReturn]

theorem two_frame_read_acks_both :
    ∃ r, (newReceiveBuffer [0,0,0,1] 2 1 0).steps twoFrameAck = some r ∧ r.ack.map (·.frames) = [2] ∧
      (1 ≤ 2 ∧
        (∃ flushed : List Nat, r.ack.map (·.frames) = flushed.map int16 ∧ (∀ v ∈ flushed, r.ackInterval ≤ v) ∧
          (r.pool ++ r.poolable.toList).length = r.unacked + flushed.sum ∧
          ((∀ v ∈ flushed, v < 2^15) →
            ackSum r.ack + r.unacked = (r.pool ++ r.poolable.toList).length ∧
              ∀ ack ∈ r.ack, (r.ackInterval : Int) ≤ ack.frames)) ∧
        (r.reader = .idle → r.unacked < r.ackInterval ∧
          ∀ deadline t u, r.step (.read 0 deadline) = some t → t.step .readReturn = some u → u.ack = r.ack)) :=
  ⟨_,rfl,rfl,by decide,
    @ack_batches_count_taken_frames _ [0,0,0,1] 2 1 0 (by decide) (Reaches.of_runSteps twoFrameAck rfl)⟩

def ackedFrames (r : ReceiveBuffer) : Int := (r.ack.map (·.frames)).sum

/-- How many of `frames`, in order, have their payload within the first `n` bytes. -/
def wholeFrames : List (List UInt8) → Nat → Nat
  | [], _ => 0
  | frame :: frames, n =>
    if (payload frame).length ≤ n then wholeFrames frames (n - (payload frame).length) + 1 else 0

/-- The frames `read` has taken from `in` whose payload has been copied out in full. -/
def fullyRead (r : ReceiveBuffer) : Nat := wholeFrames r.taken r.delivered.length

/-- Window 1, so `ackInterval` is 1: one frame with a two-byte payload, read into a one-byte
destination. -/
def partialRead : List ReceiveAction :=
  [.submit 0 [0,0,0,1,0,2,7,8],.enqueue 0,.read 1 .zero,.readFrame,.readReturn]

theorem ack_precedes_full_read :
    ∃ r, (newReceiveBuffer [0,0,0,1] 1 1 0).steps partialRead = some r ∧
      r.reader = .idle ∧ r.current = [8] ∧ ackedFrames r = 1 ∧ fullyRead r = 0 :=
  ⟨_,rfl,rfl,rfl,rfl,rfl⟩

end Lampshade.ReceiveBuffer

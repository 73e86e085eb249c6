import Lampshade.ReceiveBuffer.Stream

/-! The frame buffers `read` hands back with `pool.Put`. `onFrame` puts back the buffer it held
before it takes the next frame, and it runs only at `read`'s `select` or wait, where `current`
has been copied out. So the buffers handed back, then the one held, then those still in `in`
are the accepted frames in order, each once, and when a buffer goes back every byte of its
payload has been read. -/
namespace Lampshade.ReceiveBuffer

variable {r t : ReceiveBuffer}

/-- The frames `read` has taken from `in`, in order: those handed back to the pool, then the one
`poolable` holds. -/
def taken (r : ReceiveBuffer) : List (List UInt8) := r.pool ++ r.poolable.toList

def poolView (r : ReceiveBuffer) := (r.pool,r.poolable,r.queue.items,r.accepted)

theorem receiveFrame_pool {frame : List UInt8} (h : r.receiveFrame frame = some t) (fits : r.ReaderFits) :
    r.current = [] ∧ t.pool = r.taken ∧ t.taken = r.taken ++ [frame] ∧ t.queue = r.queue ∧
      t.accepted = r.accepted := by
  rcases receiveFrame_some h with ⟨_,_,_,reader,rfl⟩ | ⟨_,_,reader,rfl⟩ <;>
    simp only [ReaderFits,reader] at fits
  · exact ⟨fits.2,rfl,rfl,rfl,rfl⟩
  · exact ⟨fits,rfl,rfl,rfl,rfl⟩

/-- A step keeps the frames taken, then those queued, equal to the accepted ones, and it changes
the pool only by handing back the buffer held, with `current` drained. -/
theorem step_pool (order : r.taken ++ r.queue.items = r.accepted) (fits : r.ReaderFits) {a : ReceiveAction}
    (h : r.step a = some t) :
    t.taken ++ t.queue.items = t.accepted ∧ (t.pool = r.pool ∨ r.current = [] ∧ t.pool = r.taken) := by
  have same : t.poolView = r.poolView →
      t.taken ++ t.queue.items = t.accepted ∧ (t.pool = r.pool ∨ r.current = [] ∧ t.pool = r.taken) := by
    simp only [poolView,Prod.mk.injEq]
    rintro ⟨pool,poolable,items,accepted⟩
    exact ⟨by simpa only [taken,pool,poolable,items,accepted] using order,.inl pool⟩
  cases a with
  | read => obtain ⟨-,rfl⟩ := step_read h; exact same rfl
  | readFrame =>
    obtain ⟨frame,rest,items,received⟩ := step_readFrame h
    obtain ⟨drained,pool,moved,queue,accepted⟩ := receiveFrame_pool received fits
    refine ⟨?_,.inr ⟨drained,pool⟩⟩
    rw [moved,queue,accepted,← order,items]
    simp [taken]
  | readFrom =>
    obtain ⟨frame,empty,-,-,received⟩ := step_readFrom h
    obtain ⟨drained,pool,moved,queue,accepted⟩ := receiveFrame_pool received fits
    refine ⟨?_,.inr ⟨drained,pool⟩⟩
    rw [moved,queue,accepted]
    simp only [setSubmitter,empty,List.append_nil] at order ⊢
    rw [← order]
    rfl
  | readEOF => obtain ⟨-,-,⟨_,_,_,-,rfl⟩ | ⟨_,_,-,rfl⟩⟩ := step_readEOF h <;> exact same rfl
  | readDefault =>
    obtain ⟨_,_,_,-,-,-,⟨-,rfl⟩ | ⟨-,⟨-,rfl⟩ | ⟨-,rfl⟩⟩⟩ := step_readDefault h <;> exact same rfl
  | readTimeout => obtain ⟨_,-,rfl⟩ := step_readTimeout h; exact same rfl
  | readReturn => obtain ⟨_,_,_,-,⟨-,rfl⟩ | ⟨-,rfl⟩⟩ := step_readReturn h <;> exact same rfl
  | expire => obtain ⟨_,_,-,rfl⟩ := step_expire h; exact same rfl
  | submit => obtain ⟨-,-,⟨-,rfl⟩ | ⟨-,rfl⟩⟩ := step_submit h <;> exact same rfl
  | enqueue =>
    obtain ⟨frame,-,⟨-,rfl⟩ | ⟨-,-,rfl⟩⟩ := step_enqueue h
    · exact same rfl
    · refine ⟨?_,.inl rfl⟩
      simp only [taken,setSubmitter] at order ⊢
      rw [← List.append_assoc,order]
  | close => obtain ⟨-,rfl⟩ := step_close h; exact same rfl
  | lock => obtain ⟨-,-,⟨-,rfl⟩ | ⟨-,rfl⟩⟩ := step_lock h <;> exact same rfl

theorem pool_reaches {defaultHeader : List UInt8} {windowSize submitters closers : Nat}
    (reach : (newReceiveBuffer defaultHeader windowSize submitters closers).Reaches r) :
    r.Streamed ∧ r.taken ++ r.queue.items = r.accepted :=
  @Reaches.induction _ _ _ (fun r : ReceiveBuffer => r.Streamed ∧ r.taken ++ r.queue.items = r.accepted)
    (fun _ books h => ⟨step_streamed books.1 h,(step_pool books.2 books.1.fits h).1⟩) _ _
    ⟨streamed_new _ _ _ _,rfl⟩ reach

/-- Over every interleaving of `submit`, `close` and `read`'s steps: the buffers handed back to
the pool, then the one `poolable` holds, then the frames still in `in`, are the accepted frames
in order, so each frame taken from `in` goes back at most once; and a step that hands a buffer
back runs with `current` drained, hands back exactly the buffer held, and finds every byte of
the buffers handed back, that one included, already read. -/
theorem pool_takes_read_frames_once {defaultHeader : List UInt8} {windowSize submitters closers : Nat}
    (reach : (newReceiveBuffer defaultHeader windowSize submitters closers).Reaches r) :
    r.pool ++ r.poolable.toList ++ r.queue.items = r.accepted ∧
      ∀ a t, r.step a = some t → t.pool ≠ r.pool →
        r.current = [] ∧ t.pool = r.pool ++ r.poolable.toList ∧ payloads t.pool = r.delivered := by
  obtain ⟨streamed,order⟩ := pool_reaches reach
  refine ⟨order,fun a t h changed => ?_⟩
  rcases (step_pool order streamed.fits h).2 with same | ⟨drained,pool⟩
  · exact absurd same changed
  refine ⟨drained,pool,?_⟩
  have bytes := streamed.bytes
  rw [← order,drained,List.append_nil,payloads_append] at bytes
  rw [pool]
  exact (List.append_cancel_right bytes).symm

/-- Window 2: two frames with one-byte payloads are queued, and a read into four bytes takes the
first; the reader is at its `select`, holding it. -/
def twoFrameRead : List ReceiveAction :=
  [.submit 0 [0,0,0,1,0,1,7],.enqueue 0,.submit 0 [0,0,0,1,0,1,8],.enqueue 0,.read 4 .zero,.readFrame]

theorem two_frame_read_pools_first :
    ∃ r t, (newReceiveBuffer [0,0,0,1] 2 1 0).steps twoFrameRead = some r ∧ r.reader = .select 4 [7] .zero ∧
      r.poolable = some [0,0,0,1,0,1,7] ∧ r.step .readFrame = some t ∧ t.pool = [[0,0,0,1,0,1,7]] ∧
      (r.pool ++ r.poolable.toList ++ r.queue.items = r.accepted ∧
        ∀ a t, r.step a = some t → t.pool ≠ r.pool →
          r.current = [] ∧ t.pool = r.pool ++ r.poolable.toList ∧ payloads t.pool = r.delivered) :=
  ⟨_,_,rfl,rfl,rfl,rfl,rfl,@pool_takes_read_frames_once _ [0,0,0,1] 2 1 0 (Reaches.of_runSteps twoFrameRead rfl)⟩

end Lampshade.ReceiveBuffer

import Lampshade.ReceiveBuffer.Stream

/-! End of stream is final. A `read` returns `io.EOF` only once `in` is closed and drained and
`current` is empty, and nothing refills them: `submit` on a closed buffer returns at once, and
no `close` reopens `in`. So every later `read` returns at once, with no bytes and with `io.EOF`,
or with `(0, nil)` for an empty destination. -/
namespace Lampshade.ReceiveBuffer

variable {r t : ReceiveBuffer}

/-- What an ended stream's `read` returns: no bytes, and EOF unless the destination is empty. -/
def endedErr (size : Nat) : ReadErr := if size = 0 then .none else .eof

/-- `in` is closed and drained and `current` is empty. The reader is idle, at a `select` with
nothing read into a non-empty destination, or returning nothing with `endedErr`. -/
structure Ended (r : ReceiveBuffer) : Prop where
  drained : r.queue.items = [] ∧ r.queue.closed = true ∧ r.current = []
  reader : r.reader = .idle ∨ (∃ size deadline, 0 < size ∧ r.reader = .select size [] deadline) ∨
    ∃ size, r.reader = .returning size [] (endedErr size)

def endView (r : ReceiveBuffer) := (r.queue.items,r.queue.closed,r.current,r.reader)

theorem Ended.of_view (ended : r.Ended) (same : t.endView = r.endView) : t.Ended := by
  simp only [endView,Prod.mk.injEq] at same
  obtain ⟨items,closed,current,reader⟩ := same
  exact ⟨by rw [items,closed,current]; exact ended.drained,by rw [reader]; exact ended.reader⟩

theorem Ended.not_wait (ended : r.Ended) (size : Nat) (deadline : Deadline) : r.reader ≠ .wait size deadline := by
  rcases ended.reader with idle | ⟨_,_,-,select⟩ | ⟨_,returning⟩ <;> simp [*]

theorem Ended.of_select (ended : r.Ended) {size : Nat} {got : List UInt8} {deadline : Deadline}
    (place : r.reader = .select size got deadline) : got = [] ∧ 0 < size := by
  rcases ended.reader with idle | ⟨_,_,positive,select⟩ | ⟨_,returning⟩
  · exact nomatch place.symm.trans idle
  · obtain ⟨rfl,rfl,-⟩ := ReadPc.select.inj (place.symm.trans select)
    exact ⟨rfl,positive⟩
  · exact nomatch place.symm.trans returning

theorem Ended.of_returning (ended : r.Ended) {size : Nat} {got : List UInt8} {err : ReadErr}
    (place : r.reader = .returning size got err) : got = [] ∧ err = endedErr size := by
  rcases ended.reader with idle | ⟨_,_,-,select⟩ | ⟨_,returning⟩
  · exact nomatch place.symm.trans idle
  · exact nomatch place.symm.trans select
  · obtain ⟨rfl,rfl,rfl⟩ := ReadPc.returning.inj (place.symm.trans returning)
    exact ⟨rfl,rfl⟩

theorem Ended.copied (ended : r.Ended) (size : Nat) (deadline : Deadline) : (r.copy size [] deadline).Ended := by
  obtain ⟨⟨empty,closed,drained⟩,-⟩ := ended
  refine ⟨⟨empty,closed,by simp [copy,drained]⟩,.inr ?_⟩
  rcases Nat.eq_zero_or_pos size with rfl | positive
  · exact .inr ⟨0,by simp [copy,drained,endedErr]⟩
  · exact .inl ⟨size,deadline,positive,by simp [copy,drained,positive]⟩

theorem step_ended (ended : r.Ended) {a : ReceiveAction} (h : r.step a = some t) : t.Ended := by
  obtain ⟨empty,closed,-⟩ := ended.drained
  cases a with
  | read => obtain ⟨-,rfl⟩ := step_read h; exact ended.copied _ _
  | readFrame => obtain ⟨_,_,items,-⟩ := step_readFrame h; simp [empty] at items
  | readFrom => obtain ⟨_,-,opened,-⟩ := step_readFrom h; simp [closed] at opened
  | readEOF =>
    obtain ⟨-,-,⟨size,got,deadline,place,rfl⟩ | ⟨size,deadline,place,rfl⟩⟩ := step_readEOF h
    · obtain ⟨rfl,positive⟩ := ended.of_select place
      exact ⟨ended.drained,.inr (.inr ⟨size,by simp [endedErr,Nat.pos_iff_ne_zero.mp positive]⟩)⟩
    · exact absurd place (ended.not_wait size deadline)
  | readDefault => obtain ⟨_,_,_,-,-,opened,-⟩ := step_readDefault h; simp [closed] at opened
  | readTimeout => obtain ⟨size,wait,-⟩ := step_readTimeout h; exact absurd wait (ended.not_wait size _)
  | readReturn =>
    obtain ⟨_,_,_,-,⟨-,rfl⟩ | ⟨-,rfl⟩⟩ := step_readReturn h <;> exact ⟨ended.drained,.inl rfl⟩
  | expire =>
    obtain ⟨size,_,place,rfl⟩ := step_expire h
    obtain ⟨rfl,positive⟩ := ended.of_select place
    exact ⟨ended.drained,.inr (.inl ⟨size,_,positive,rfl⟩)⟩
  | submit => obtain ⟨-,-,⟨-,rfl⟩ | ⟨-,rfl⟩⟩ := step_submit h <;> exact ended.of_view rfl
  | enqueue =>
    obtain ⟨_,-,⟨-,rfl⟩ | ⟨opened,-,-⟩⟩ := step_enqueue h
    · exact ended.of_view rfl
    · simp [closed] at opened
  | close => obtain ⟨-,rfl⟩ := step_close h; exact ended.of_view rfl
  | lock =>
    obtain ⟨-,-,⟨-,rfl⟩ | ⟨-,rfl⟩⟩ := step_lock h
    · exact ended.of_view rfl
    · exact ended.of_view (by simp [endView,setCloser,closed])

theorem ended_reads (ended : r.Ended) {a : ReceiveAction} (h : r.step a = some t) :
    t.reads = r.reads ∨ ∃ size, t.reads = r.reads ++ [⟨[],size,endedErr size⟩] := by
  rcases step_reads h with same | ⟨size,got,err,returning,-,grown,-⟩
  · exact .inl same
  · obtain ⟨rfl,rfl⟩ := ended.of_returning returning
    exact .inr ⟨size,grown⟩

theorem ended_reaches (ended : r.Ended) (later : r.Reaches t) :
    t.Ended ∧ ∃ more, t.reads = r.reads ++ more ∧ ∀ res ∈ more, res.bytes = [] ∧ res.err = endedErr res.size := by
  refine @Reaches.induction _ _ _ (fun u : ReceiveBuffer => u.Ended ∧ ∃ more, u.reads = r.reads ++ more ∧
    ∀ res ∈ more, res.bytes = [] ∧ res.err = endedErr res.size) (fun _ kept h => ?_) r t
    ⟨ended,[],by simp,by simp⟩ later
  obtain ⟨ended,more,grown,nothing⟩ := kept
  refine ⟨step_ended ended h,?_⟩
  rcases ended_reads ended h with same | ⟨size,next⟩
  · exact ⟨more,same.trans grown,nothing⟩
  · exact ⟨more ++ [⟨[],size,endedErr size⟩],by rw [next,grown,List.append_assoc],
      List.forall_mem_append.mpr ⟨nothing,by simp⟩⟩

/-- The reader of an ended stream never waits: whatever it is doing, its next step is ready. -/
theorem Ended.ready (ended : r.Ended) (busy : r.reader ≠ .idle) :
    (∃ u, r.step .readEOF = some u) ∨ ∃ u, r.step .readReturn = some u := by
  obtain ⟨⟨empty,closed,-⟩,reader⟩ := ended
  rcases reader with idle | ⟨_,_,-,select⟩ | ⟨_,returning⟩
  · exact absurd idle busy
  · refine .inl ?_
    simp only [step,readEOF,select,empty,closed]
    exact ⟨_,rfl⟩
  · refine .inr ?_
    simp only [step,readReturn,returning]
    split <;> exact ⟨_,rfl⟩

/-- A `read` that returns EOF leaves the stream ended: EOF comes only with `in` closed and
drained and `current` empty. -/
theorem eof_ends {defaultHeader : List UInt8} {windowSize submitters closers : Nat}
    (reach : (newReceiveBuffer defaultHeader windowSize submitters closers).Reaches r)
    (eof : ∃ res ∈ r.reads, res.err = .eof) : r.Ended := by
  refine (@Reaches.induction _ _ _ (fun u : ReceiveBuffer => u.Streamed ∧ ((∃ res ∈ u.reads, res.err = .eof) → u.Ended))
    (fun _ kept h => ?_) _ r ⟨streamed_new _ _ _ _,fun ⟨_,mem,_⟩ => by simp [newReceiveBuffer] at mem⟩ reach).2 eof
  obtain ⟨streamed,seen⟩ := kept
  refine ⟨step_streamed streamed h,fun ⟨res,mem,isEof⟩ => ?_⟩
  rcases step_reads h with same | ⟨size,got,err,returning,idle,grown,queue,current⟩
  · exact step_ended (seen ⟨res,same ▸ mem,isEof⟩) h
  · rw [grown] at mem
    rcases List.mem_append.mp mem with old | single
    · exact step_ended (seen ⟨res,old,isEof⟩) h
    · rw [List.mem_singleton.mp single] at isEof
      obtain ⟨drained,empty,closed⟩ := streamed.eof size got (isEof ▸ returning)
      exact ⟨⟨queue ▸ empty,queue ▸ closed,current ▸ drained⟩,.inl idle⟩

/-- Over every interleaving of `submit`, `close` and `read`'s steps: once a `read` has returned
`io.EOF`, every later `read` returns no bytes, with `io.EOF` for a non-empty destination and
`nil` for an empty one, and a `read` in progress never blocks. -/
theorem reads_after_eof_return_nothing {defaultHeader : List UInt8} {windowSize submitters closers : Nat}
    (reach : (newReceiveBuffer defaultHeader windowSize submitters closers).Reaches r)
    (eof : ∃ res ∈ r.reads, res.err = .eof) (later : r.Reaches t) :
    (∃ more, t.reads = r.reads ++ more ∧
        ∀ res ∈ more, res.bytes = [] ∧ res.err = if res.size = 0 then .none else .eof) ∧
      (t.reader ≠ .idle → (∃ u, t.step .readEOF = some u) ∨ ∃ u, t.step .readReturn = some u) := by
  obtain ⟨ended,more⟩ := ended_reaches (eof_ends reach eof) later
  exact ⟨more,ended.ready⟩

/-- After the run that ends in EOF has returned, a read into an empty destination and a read
with a deadline ahead. -/
def readsAfterEOF : List ReceiveAction := [.read 0 .zero,.readReturn,.read 3 .future,.readEOF,.readReturn]

theorem reads_after_eof_in_run :
    ∃ r t, (newReceiveBuffer [0,0,0,1] 4 1 1).steps (readToEOF ++ [.readReturn]) = some r ∧
      r.steps readsAfterEOF = some t ∧ t.reads = r.reads ++ [⟨[],0,.none⟩,⟨[],3,.eof⟩] ∧
      (∃ res ∈ r.reads, res.err = .eof) ∧
      ((∃ more, t.reads = r.reads ++ more ∧
          ∀ res ∈ more, res.bytes = [] ∧ res.err = if res.size = 0 then .none else .eof) ∧
        (t.reader ≠ .idle → (∃ u, t.step .readEOF = some u) ∨ ∃ u, t.step .readReturn = some u)) := by
  refine ⟨_,_,rfl,rfl,rfl,by decide,?_⟩
  exact @reads_after_eof_return_nothing _ _ [0,0,0,1] 4 1 1 (Reaches.of_runSteps (readToEOF ++ [ReceiveAction.readReturn]) rfl) (by decide)
    (Reaches.of_runSteps readsAfterEOF rfl)

end Lampshade.ReceiveBuffer

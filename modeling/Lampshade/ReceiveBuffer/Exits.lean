import Lampshade.ReceiveBuffer.Steps

/-! The exits of `read`'s loop and what each returns. The copy at the loop's head returns only
once the destination is full, the EOF and timer exits return an error, and the `default` case
returns the bytes read so far; with none read and the deadline found past it returns `(0, nil)`.
Only a `read` given a deadline can find one past: with zero deadlines no `read` into a non-empty
destination ever returns `(0, nil)`. -/
namespace Lampshade

/-- The deadline the reader's loop compares the clock with; zero outside the loop. -/
def ReadPc.deadline : ReadPc → Deadline
  | .select _ _ deadline | .wait _ deadline => deadline
  | _ => .zero

namespace ReceiveBuffer

variable {r t : ReceiveBuffer}

theorem copy_returns_nothing {size size' : Nat} {got : List UInt8} {deadline : Deadline} {err : ReadErr}
    (returned : (r.copy size got deadline).reader = .returning size' [] err) : size' = 0 := by
  simp only [copy] at returned
  split at returned
  · cases returned
  · rename_i full
    obtain ⟨rfl,empty,-⟩ := ReadPc.returning.inj returned
    obtain ⟨rfl,taken⟩ := List.append_eq_nil.mp empty
    rw [List.take_eq_nil_iff] at taken
    rcases taken with none | drained
    · simpa using none
    · simp [drained] at full
      omega

theorem receiveFrame_returns_nothing {frame : List UInt8} {size : Nat} {err : ReadErr}
    (h : r.receiveFrame frame = some t) (returned : t.reader = .returning size [] err) : size = 0 := by
  rcases receiveFrame_some h with ⟨_,_,_,-,rfl⟩ | ⟨_,_,-,rfl⟩ <;> exact copy_returns_nothing returned

/-- A step that makes `read` return `(0, nil)` for a non-empty destination is the `default` case
at a deadline found past, with nothing read: every other exit returns bytes or an error. -/
theorem empty_read_only_at_past_deadline {a : ReceiveAction} {size : Nat} (h : r.step a = some t)
    (moved : r.reader ≠ t.reader) (returned : t.reader = .returning size [] .none) (positive : 0 < size) :
    a = .readDefault ∧ r.reader = .select size [] .past := by
  cases a with
  | read => obtain ⟨-,rfl⟩ := step_read h; exact absurd (copy_returns_nothing returned) (by omega)
  | readFrame =>
    obtain ⟨_,_,-,received⟩ := step_readFrame h
    exact absurd (receiveFrame_returns_nothing received returned) (by omega)
  | readFrom =>
    obtain ⟨_,-,-,-,received⟩ := step_readFrom h
    exact absurd (receiveFrame_returns_nothing received returned) (by omega)
  | readEOF => obtain ⟨-,-,⟨_,_,_,-,rfl⟩ | ⟨_,_,-,rfl⟩⟩ := step_readEOF h <;> cases returned
  | readDefault =>
    obtain ⟨size',got,deadline,reader,-,-,⟨nonempty,rfl⟩ | ⟨rfl,⟨rfl,rfl⟩ | ⟨-,rfl⟩⟩⟩ := step_readDefault h
    · obtain ⟨-,rfl,-⟩ := ReadPc.returning.inj returned
      simp at nonempty
    · obtain ⟨rfl,-,-⟩ := ReadPc.returning.inj returned
      exact ⟨rfl,reader⟩
    · cases returned
  | readTimeout => obtain ⟨_,-,rfl⟩ := step_readTimeout h; cases returned
  | readReturn => obtain ⟨_,_,_,-,⟨-,rfl⟩ | ⟨-,rfl⟩⟩ := step_readReturn h <;> cases returned
  | expire => obtain ⟨_,_,-,rfl⟩ := step_expire h; cases returned
  | submit => obtain ⟨-,-,⟨-,rfl⟩ | ⟨-,rfl⟩⟩ := step_submit h <;> exact absurd rfl moved
  | enqueue =>
    obtain ⟨_,-,⟨-,rfl⟩ | ⟨-,-,rfl⟩⟩ := step_enqueue h <;> exact absurd rfl moved
  | close => obtain ⟨-,rfl⟩ := step_close h; exact absurd rfl moved
  | lock => obtain ⟨-,-,⟨-,rfl⟩ | ⟨-,rfl⟩⟩ := step_lock h <;> exact absurd rfl moved

/-- From any state with `current` drained and `in` open and empty, a `read` into a non-empty
destination with a deadline already past returns `(0, nil)`: neither bytes nor `ErrTimeout`. -/
theorem past_deadline_read_returns_nothing (idle : r.reader = .idle) (drained : r.current = [])
    (empty : r.queue.items = []) (opened : r.queue.closed = false) {size : Nat} (positive : 0 < size) :
    ∃ t, r.steps [.read size .past,.readDefault,.readReturn] = some t ∧ t.reads = r.reads ++ [⟨[],size,.none⟩] := by
  simp only [steps,runSteps,step,read,idle,if_true,copy,drained,List.length_nil,Nat.sub_zero,positive,
    Option.bind_eq_bind,Option.some_bind,readDefault,empty,opened,List.nil_append,gt_iff_lt,Nat.lt_irrefl,
    if_false,readReturn]
  split <;> exact ⟨_,rfl,rfl⟩

theorem new_buffer_past_deadline_read :
    ((newReceiveBuffer [0,0,0,1] 1 1 0).reader = .idle ∧ (newReceiveBuffer [0,0,0,1] 1 1 0).current = [] ∧
        (newReceiveBuffer [0,0,0,1] 1 1 0).queue.items = [] ∧ (newReceiveBuffer [0,0,0,1] 1 1 0).queue.closed = false ∧
        0 < 1) ∧
      ∃ t, (newReceiveBuffer [0,0,0,1] 1 1 0).steps [.read 1 .past,.readDefault,.readReturn] = some t ∧
        t.reads = [⟨[],1,.none⟩] :=
  ⟨⟨rfl,rfl,rfl,rfl,by decide⟩,past_deadline_read_returns_nothing rfl rfl rfl rfl (by decide)⟩

theorem copy_deadline (size : Nat) (got : List UInt8) : (r.copy size got .zero).reader.deadline = .zero := by
  simp only [copy]
  split <;> rfl

theorem receiveFrame_deadline {frame : List UInt8} (h : r.receiveFrame frame = some t)
    (zero : r.reader.deadline = .zero) : t.reader.deadline = .zero := by
  rcases receiveFrame_some h with ⟨_,_,_,place,rfl⟩ | ⟨_,_,place,rfl⟩ <;>
    simp only [place,ReadPc.deadline] at zero <;> subst zero <;> exact copy_deadline _ _

/-- The deadline of the reader's loop is the one its `read` was given: only `expire` turns a
deadline ahead into one found past. -/
theorem step_deadline (zero : r.reader.deadline = .zero) {a : ReceiveAction}
    (untimed : ∀ size deadline, a = .read size deadline → deadline = .zero) (h : r.step a = some t) :
    t.reader.deadline = .zero := by
  cases a with
  | read size deadline =>
    obtain ⟨-,rfl⟩ := step_read h
    rw [untimed size deadline rfl]
    exact copy_deadline _ _
  | readFrame => obtain ⟨_,_,-,received⟩ := step_readFrame h; exact receiveFrame_deadline received zero
  | readFrom => obtain ⟨_,-,-,-,received⟩ := step_readFrom h; exact receiveFrame_deadline received zero
  | readEOF => obtain ⟨-,-,⟨_,_,_,-,rfl⟩ | ⟨_,_,-,rfl⟩⟩ := step_readEOF h <;> rfl
  | readDefault =>
    obtain ⟨_,_,_,reader,-,-,⟨-,rfl⟩ | ⟨-,⟨-,rfl⟩ | ⟨-,rfl⟩⟩⟩ := step_readDefault h
    · rfl
    · rfl
    · rwa [reader] at zero
  | readTimeout => obtain ⟨_,wait,-⟩ := step_readTimeout h; rw [wait] at zero; cases zero
  | readReturn => obtain ⟨_,_,_,-,⟨-,rfl⟩ | ⟨-,rfl⟩⟩ := step_readReturn h <;> rfl
  | expire => obtain ⟨_,_,select,-⟩ := step_expire h; rw [select] at zero; cases zero
  | submit => obtain ⟨-,-,⟨-,rfl⟩ | ⟨-,rfl⟩⟩ := step_submit h <;> exact zero
  | enqueue => obtain ⟨_,-,⟨-,rfl⟩ | ⟨-,-,rfl⟩⟩ := step_enqueue h <;> exact zero
  | close => obtain ⟨-,rfl⟩ := step_close h; exact zero
  | lock => obtain ⟨-,-,⟨-,rfl⟩ | ⟨-,rfl⟩⟩ := step_lock h <;> exact zero

/-- The reader's loop has no deadline, and neither the `read` returning nor any finished `read`
into a non-empty destination returned `(0, nil)`. -/
structure Untimed (r : ReceiveBuffer) : Prop where
  zero : r.reader.deadline = .zero
  returning : ∀ size got err, r.reader = .returning size got err → 0 < size → got ≠ [] ∨ err ≠ .none
  reads : ∀ res ∈ r.reads, 0 < res.size → res.bytes ≠ [] ∨ res.err ≠ .none

theorem step_untimed (untimed : r.Untimed) {a : ReceiveAction}
    (zero : ∀ size deadline, a = .read size deadline → deadline = .zero) (h : r.step a = some t) : t.Untimed := by
  refine ⟨step_deadline untimed.zero zero h,fun size got err returning positive => ?_,?_⟩
  · by_cases moved : r.reader = t.reader
    · exact untimed.returning size got err (moved.trans returning) positive
    · refine not_and_or.mp ?_
      rintro ⟨rfl,rfl⟩
      have found := untimed.zero
      rw [(empty_read_only_at_past_deadline h moved returning positive).2] at found
      cases found
  · rcases step_reads h with same | ⟨size,got,err,returning,-,grown,-⟩
    · exact same ▸ untimed.reads
    · rw [grown]
      exact List.forall_mem_append.mpr
        ⟨untimed.reads,List.forall_mem_singleton.mpr (untimed.returning size got err returning)⟩

/-- Over every run of `submit`, `close` and `read` calls on a new receive buffer in which every
`read` is given a zero deadline, in any interleaving: every `read` into a non-empty destination
returns a byte or `io.EOF`, never `(0, nil)`. -/
theorem untimed_reads_never_return_nothing {defaultHeader : List UInt8} {windowSize submitters closers : Nat}
    {actions : List ReceiveAction} (untimed : ∀ size deadline, ReceiveAction.read size deadline ∈ actions → deadline = .zero)
    (ran : (newReceiveBuffer defaultHeader windowSize submitters closers).steps actions = some r) :
    ∀ res ∈ r.reads, 0 < res.size → res.bytes ≠ [] ∨ res.err ≠ .none := by
  have start : (newReceiveBuffer defaultHeader windowSize submitters closers).Untimed :=
    ⟨rfl,(fun _ _ _ idle => nomatch idle),by simp [newReceiveBuffer]⟩
  exact (@runSteps_induction _ _ step Untimed (fun a => ∀ size deadline, a = .read size deadline → deadline = .zero)
    (fun _ zero kept h => step_untimed kept zero h) _ _ actions start
    (fun _ mem size deadline same => untimed size deadline (same ▸ mem)) ran).reads

/-- A frame read with no deadline; then `close`, and a read that finds the end of the stream. -/
def untimedRun : List ReceiveAction :=
  [.submit 0 [0,0,0,1,0,1,7],.enqueue 0,.read 4 .zero,.readFrame,.readDefault,.readReturn,.close 0,.lock 0,
    .read 4 .zero,.readEOF,.readReturn]

theorem untimed_run_returns_bytes_then_eof :
    ∃ r, (newReceiveBuffer [0,0,0,1] 1 1 1).steps untimedRun = some r ∧ r.reads = [⟨[7],4,.none⟩,⟨[],4,.eof⟩] ∧
      ((∀ size deadline, ReceiveAction.read size deadline ∈ untimedRun → deadline = .zero) ∧
        ∀ res ∈ r.reads, 0 < res.size → res.bytes ≠ [] ∨ res.err ≠ .none) := by
  have untimed : ∀ size deadline, ReceiveAction.read size deadline ∈ untimedRun → deadline = .zero := by
    intro size deadline mem
    simp only [untimedRun,List.mem_cons,ReceiveAction.read.injEq,List.mem_nil_iff,or_false,reduceCtorEq,
      false_or] at mem
    rcases mem with ⟨-,rfl⟩ | ⟨-,rfl⟩ <;> rfl
  exact ⟨_,rfl,rfl,untimed,@untimed_reads_never_return_nothing _ [0,0,0,1] 1 1 1 untimedRun untimed rfl⟩

/-- With a deadline ahead, a frame with an empty payload, and the deadline passing before the
next `default` case, `read` returns `(0, nil)`. -/
example : ∃ r, (newReceiveBuffer [0,0,0,1] 1 1 0).steps
      [.submit 0 [0,0,0,1,0,0],.enqueue 0,.read 4 .future,.readFrame,.expire,.readDefault,.readReturn] = some r ∧
    r.reads = [⟨[],4,.none⟩] :=
  ⟨_,rfl,rfl⟩

end ReceiveBuffer

end Lampshade

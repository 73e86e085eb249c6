import Lampshade.SendBuffer.Steps
import Lampshade.ReceiveBuffer.Steps

/-! The closing discipline of both buffers. `in` is closed only under the write side of the
buffer's lock, after every `send` or `submit` holding the read side has returned, and a call
that takes the read side afterwards sees the flag and leaves without touching `in`. So no
value is ever sent on a closed `in`, which in Go would panic. -/
namespace Lampshade

theorem getElem?_set_of_some {α : Type} {l : List α} {i : Nat} {x y : α} (present : l[i]? = some x) :
    (l.set i y)[i]? = some y := by
  simp [List.getElem?_set,(List.getElem?_eq_some_iff.mp present).1]

namespace SendBuffer

variable {s t : SendBuffer}

/-- `closing` and the closed `in` go together, the `signalClose` goroutine sets both, and once
they are set no sender holds the read lock. -/
structure Guarded (s : SendBuffer) : Prop where
  closed_eq : s.queue.closed = s.closing
  closing_iff : s.closing = true ↔ s.signal = .sleep ∨ s.signal = .done
  idle_of_closing : s.closing = true → ∀ pc ∈ s.senders, pc.isIdle
  not_panicked : s.panicked = false

theorem Guarded.open_of_busy (guarded : s.Guarded) {i : Nat} {pc : SendPc}
    (present : s.senders[i]? = some pc) (busy : pc.isIdle = false) : s.closing = false := by
  cases closing : s.closing
  · rfl
  · have idle := guarded.idle_of_closing closing pc (List.getElem?_mem present)
    simp [busy] at idle

def guardView (s : SendBuffer) := (s.queue.closed,s.closing,s.signal,s.panicked)

theorem Guarded.of_frame (guarded : s.Guarded) (same : t.guardView = s.guardView)
    (senders : ∀ pc ∈ t.senders, pc ∈ s.senders ∨ pc.isIdle) : t.Guarded := by
  simp only [guardView,Prod.mk.injEq] at same
  obtain ⟨closed,closing,signal,panicked⟩ := same
  refine ⟨by rw [closed,closing,guarded.closed_eq],by rw [closing,signal,guarded.closing_iff],
    fun closing' pc mem => ?_,by rw [panicked,guarded.not_panicked]⟩
  rcases senders pc mem with mem | idle
  · exact guarded.idle_of_closing (closing ▸ closing') pc mem
  · exact idle

theorem set_idle_or_mem {i : Nat} {last : Option SendResult} :
    ∀ pc ∈ s.senders.set i (.idle last), pc ∈ s.senders ∨ pc.isIdle := fun _ mem =>
  (List.mem_or_eq_of_mem_set mem).imp id fun same => by rw [same]; rfl

theorem guarded_new (defaultHeader : List UInt8) (windowSize callers : Nat) :
    (newSendBuffer defaultHeader windowSize callers).Guarded :=
  ⟨rfl,by simp [newSendBuffer],by simp [newSendBuffer],rfl⟩

theorem step_guarded (guarded : s.Guarded) {a : SendAction} (h : s.step a = some t) : t.Guarded := by
  have same : ∀ pc ∈ s.senders, pc ∈ s.senders ∨ pc.isIdle := fun _ mem => .inl mem
  cases a with
  | send i b deadline =>
    obtain ⟨-,-,rfl⟩ := step_send h
    by_cases closing : s.closing
    · refine guarded.of_frame rfl fun pc mem => ?_
      rw [setSender,doSend_closing _ _ closing] at mem
      exact set_idle_or_mem pc mem
    · exact ⟨guarded.closed_eq,guarded.closing_iff,by simp [setSender,closing],guarded.not_panicked⟩
  | enqueue i =>
    obtain ⟨b,pc,⟨closed,rfl⟩ | ⟨-,-,rfl⟩⟩ := step_enqueue h
    · have opened := pc.elim (guarded.open_of_busy · rfl) (guarded.open_of_busy · rfl)
      simp [guarded.closed_eq,opened] at closed
    · exact guarded.of_frame rfl set_idle_or_mem
  | drain i =>
    obtain ⟨b,pc,-,rfl⟩ := step_drain h
    have opened := guarded.open_of_busy pc rfl
    exact ⟨guarded.closed_eq,guarded.closing_iff,by simp [setSender,opened],guarded.not_panicked⟩
  | sendTimeout i =>
    obtain ⟨b,-,-,rfl⟩ := step_sendTimeout h
    exact guarded.of_frame rfl set_idle_or_mem
  | fire => obtain ⟨-,rfl⟩ := step_fire h; exact guarded.of_frame rfl same
  | credit n => rw [step_credit h]; exact guarded.of_frame rfl same
  | receive =>
    obtain ⟨-,⟨p,rest,-,rfl⟩ | ⟨-,-,rfl⟩⟩ := step_receive h
    · cases p <;> exact guarded.of_frame rfl same
    · exact guarded.of_frame rfl same
  | receiveFrom i =>
    obtain ⟨b,-,-,-,-,rfl⟩ := step_receiveFrom h
    cases b <;> exact guarded.of_frame rfl set_idle_or_mem
  | closeRequested =>
    obtain ⟨v,-,⟨-,rfl⟩ | ⟨frame,-,rfl⟩⟩ := step_closeRequested h <;>
    · refine ⟨guarded.closed_eq,?_,guarded.idle_of_closing,guarded.not_panicked⟩
      have iff := guarded.closing_iff
      by_cases idle : s.signal = .idle <;> simp_all [signalClose]
  | closeTimedOut =>
    obtain ⟨-,⟨-,rfl⟩ | ⟨-,rfl⟩ | ⟨-,rfl⟩⟩ := step_closeTimedOut h <;>
      exact guarded.of_frame rfl same
  | windowAvailable =>
    obtain ⟨_,-,-,rfl⟩ := step_windowAvailable h
    exact guarded.of_frame rfl same
  | writeOut =>
    obtain ⟨_,-,rfl⟩ | ⟨_,-,rfl⟩ := step_writeOut h <;> exact guarded.of_frame rfl same
  | lock =>
    obtain ⟨waiting,idle,rfl⟩ := step_lock h
    have opened : s.closing = false := by simpa [waiting] using guarded.closing_iff
    exact ⟨rfl,by simp,fun _ => idle,by simp [guarded.not_panicked,guarded.closed_eq,opened]⟩
  | sleep =>
    obtain ⟨sleeping,rfl⟩ := step_sleep h
    exact ⟨guarded.closed_eq,by simpa [sleeping] using guarded.closing_iff,guarded.idle_of_closing,
      guarded.not_panicked⟩
  | close v =>
    obtain ⟨-,⟨-,rfl⟩ | ⟨-,rfl⟩⟩ := step_close h <;> exact guarded.of_frame rfl same
  | closeDrain => obtain ⟨-,-,rfl⟩ := step_closeDrain h; exact guarded.of_frame rfl same
  | closeWait => obtain ⟨-,-,rfl⟩ := step_closeWait h; exact guarded.of_frame rfl same

theorem closing_step (guarded : s.Guarded) (closing : s.closing = true) {a : SendAction}
    (h : s.step a = some t) :
    t.accepted = s.accepted ∧
      ∀ i b deadline, a = .send i b deadline → t.senders[i]? = some (.idle (some .epipe)) := by
  refine ⟨?_,fun i b deadline sent => ?_⟩
  · rcases step_accepted h with same | ⟨i,b,-,pc⟩
    · exact same
    · have opened := pc.elim (guarded.open_of_busy · rfl) (guarded.open_of_busy · rfl)
      simp [closing] at opened
  · subst sent
    obtain ⟨⟨last,idle⟩,-,rfl⟩ := step_send h
    rw [setSender,doSend_closing _ _ closing]
    exact getElem?_set_of_some idle

theorem guarded_reaches {defaultHeader : List UInt8} {windowSize callers : Nat} {s : SendBuffer}
    (reach : (newSendBuffer defaultHeader windowSize callers).Reaches s) : s.Guarded :=
  Reaches.induction (fun _ guarded h => step_guarded guarded h) (guarded_new _ _ _) reach

end SendBuffer

namespace ReceiveBuffer

variable {r t : ReceiveBuffer}

/-- `closed` and the closed `in` go together, and once they are set no `submit` holds the read
lock. -/
structure Guarded (r : ReceiveBuffer) : Prop where
  closed_eq : r.queue.closed = r.closed
  idle_of_closed : r.closed = true → ∀ pc ∈ r.submitters, pc = .idle
  not_panicked : r.panicked = false

def guardView (r : ReceiveBuffer) := (r.queue.closed,r.closed,r.panicked)

theorem Guarded.of_frame (guarded : r.Guarded) (same : t.guardView = r.guardView)
    (submitters : ∀ pc ∈ t.submitters, pc ∈ r.submitters ∨ pc = .idle) : t.Guarded := by
  simp only [guardView,Prod.mk.injEq] at same
  obtain ⟨queueClosed,closed,panicked⟩ := same
  refine ⟨by rw [queueClosed,closed,guarded.closed_eq],fun closed' pc mem => ?_,
    by rw [panicked,guarded.not_panicked]⟩
  rcases submitters pc mem with mem | idle
  · exact guarded.idle_of_closed (closed ▸ closed') pc mem
  · exact idle

theorem set_idle_or_mem {i : Nat} :
    ∀ pc ∈ r.submitters.set i .idle, pc ∈ r.submitters ∨ pc = .idle := fun _ mem =>
  List.mem_or_eq_of_mem_set mem

theorem Guarded.receiveFrame (guarded : r.Guarded) {frame : List UInt8} (h : r.receiveFrame frame = some t) :
    t.Guarded := by
  rcases receiveFrame_some h with ⟨_,_,_,-,rfl⟩ | ⟨_,_,-,rfl⟩ <;>
    exact guarded.of_frame rfl fun _ mem => .inl mem

theorem guarded_new (defaultHeader : List UInt8) (windowSize submitters closers : Nat) :
    (newReceiveBuffer defaultHeader windowSize submitters closers).Guarded :=
  ⟨rfl,by simp [newReceiveBuffer],rfl⟩

theorem step_guarded (guarded : r.Guarded) {a : ReceiveAction} (h : r.step a = some t) : t.Guarded := by
  have same : ∀ pc ∈ r.submitters, pc ∈ r.submitters ∨ pc = .idle := fun _ mem => .inl mem
  cases a with
  | read => obtain ⟨-,rfl⟩ := step_read h; exact guarded.of_frame rfl same
  | readFrame =>
    obtain ⟨_,_,-,received⟩ := step_readFrame h
    refine Guarded.receiveFrame ?_ received
    exact guarded.of_frame rfl same
  | readFrom i =>
    obtain ⟨_,-,-,-,received⟩ := step_readFrom h
    refine Guarded.receiveFrame ?_ received
    exact guarded.of_frame rfl set_idle_or_mem
  | readEOF =>
    obtain ⟨-,-,⟨_,_,_,-,rfl⟩ | ⟨_,_,-,rfl⟩⟩ := step_readEOF h <;> exact guarded.of_frame rfl same
  | readDefault =>
    obtain ⟨_,_,_,-,-,-,⟨-,rfl⟩ | ⟨-,⟨-,rfl⟩ | ⟨-,rfl⟩⟩⟩ := step_readDefault h <;>
      exact guarded.of_frame rfl same
  | readTimeout => obtain ⟨_,-,rfl⟩ := step_readTimeout h; exact guarded.of_frame rfl same
  | readReturn =>
    obtain ⟨_,_,_,-,⟨-,rfl⟩ | ⟨-,rfl⟩⟩ := step_readReturn h <;> exact guarded.of_frame rfl same
  | expire => obtain ⟨_,_,-,rfl⟩ := step_expire h; exact guarded.of_frame rfl same
  | submit i frame =>
    obtain ⟨-,-,⟨-,rfl⟩ | ⟨opened,rfl⟩⟩ := step_submit h
    · exact guarded
    · exact ⟨guarded.closed_eq,fun closed => by simp [setSubmitter,opened] at closed,guarded.not_panicked⟩
  | enqueue i =>
    obtain ⟨frame,pc,⟨closed,rfl⟩ | ⟨-,-,rfl⟩⟩ := step_enqueue h
    · have idle := guarded.idle_of_closed (guarded.closed_eq ▸ closed) _ (List.getElem?_mem pc)
      cases idle
    · exact guarded.of_frame rfl set_idle_or_mem
  | close => obtain ⟨-,rfl⟩ := step_close h; exact guarded.of_frame rfl same
  | lock =>
    obtain ⟨-,idle,⟨-,rfl⟩ | ⟨opened,rfl⟩⟩ := step_lock h
    · exact guarded.of_frame rfl same
    · exact ⟨rfl,fun _ => idle,by simp [guarded.not_panicked,guarded.closed_eq,opened]⟩

theorem guarded_reaches {defaultHeader : List UInt8} {windowSize submitters closers : Nat} {r : ReceiveBuffer}
    (reach : (newReceiveBuffer defaultHeader windowSize submitters closers).Reaches r) : r.Guarded :=
  Reaches.induction (fun _ guarded h => step_guarded guarded h) (guarded_new _ _ _ _) reach

theorem closed_step (guarded : r.Guarded) (closed : r.closed = true) {a : ReceiveAction}
    (h : r.step a = some t) :
    t.accepted = r.accepted ∧ ∀ i frame, a = .submit i frame → t.submitters[i]? = some .idle := by
  refine ⟨?_,fun i frame submitted => ?_⟩
  · rcases step_accepted h with same | ⟨i,frame,-,-,opened⟩
    · exact same
    · simp [guarded.closed_eq,closed] at opened
  · subst submitted
    obtain ⟨idle,-,⟨-,rfl⟩ | ⟨opened,-⟩⟩ := step_submit h
    · exact idle
    · simp [closed] at opened

end ReceiveBuffer

/-- No interleaving of `send`, `close`, `sendLoop` and the `signalClose` goroutine, nor of
`submit`, `close` and `read`, sends on a closed `in`; once `closing` (`closed`) is set nothing
is enqueued, and a `send` (`submit`) returns `EPIPE` (returns) as it starts. -/
theorem in_never_sent_after_close :
    (∀ defaultHeader windowSize callers s, (newSendBuffer defaultHeader windowSize callers).Reaches s →
      s.panicked = false ∧
      (s.closing = true → ∀ a t, s.step a = some t → t.accepted = s.accepted ∧
        ∀ i b deadline, a = .send i b deadline → t.senders[i]? = some (.idle (some .epipe)))) ∧
    (∀ defaultHeader windowSize submitters closers r,
      (newReceiveBuffer defaultHeader windowSize submitters closers).Reaches r →
      r.panicked = false ∧
      (r.closed = true → ∀ a t, r.step a = some t → t.accepted = r.accepted ∧
        ∀ i frame, a = .submit i frame → t.submitters[i]? = some .idle)) :=
  ⟨fun _ _ _ _ reach => ⟨(SendBuffer.guarded_reaches reach).not_panicked,
      fun closing _ _ h => SendBuffer.closing_step (SendBuffer.guarded_reaches reach) closing h⟩,
    fun _ _ _ _ _ reach => ⟨(ReceiveBuffer.guarded_reaches reach).not_panicked,
      fun closed _ _ h => ReceiveBuffer.closed_step (ReceiveBuffer.guarded_reaches reach) closed h⟩⟩

/-- `close(false)` on a send buffer, taken by `sendLoop`, and the `signalClose` goroutine sets
`closing`; `close` on a receive buffer sets `closed`. A `send` and a `submit` can still start. -/
theorem closed_buffers_refuse_sends_and_submits :
    ∃ s r, (newSendBuffer [0,0,0,1] 1 1).steps [.close false,.closeRequested,.lock] = some s ∧ s.closing = true ∧
      (s.step (.send 0 (some [2]) .zero)).isSome ∧
      (newReceiveBuffer [0,0,0,1] 1 1 1).steps [.close 0,.lock 0] = some r ∧ r.closed = true ∧
      (r.step (.submit 0 [0,0,0,1,0,1,7])).isSome ∧
      (s.panicked = false ∧
        (s.closing = true → ∀ a t, s.step a = some t → t.accepted = s.accepted ∧
          ∀ i b deadline, a = .send i b deadline → t.senders[i]? = some (.idle (some .epipe)))) ∧
      (r.panicked = false ∧
        (r.closed = true → ∀ a t, r.step a = some t → t.accepted = r.accepted ∧
          ∀ i frame, a = .submit i frame → t.submitters[i]? = some .idle)) :=
  ⟨_,_,rfl,rfl,rfl,rfl,rfl,rfl,
    in_never_sent_after_close.1 [0,0,0,1] 1 1 _ (Reaches.of_runSteps [.close false,.closeRequested,.lock] rfl),
    in_never_sent_after_close.2 [0,0,0,1] 1 1 1 _ (Reaches.of_runSteps [.close 0,.lock 0] rfl)⟩

end Lampshade

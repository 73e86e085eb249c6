import Lampshade.SendBuffer.Order

/-! The window's books in a send buffer that no `close` reaches. Every frame `sendLoop` takes
from `in` costs one credit with `sub(1)`, and `write` runs only once that credit is granted, so
the credit, the frames written and the frame held always add up to the initial window and the
credit `add` has delivered, and the credit is never below `-1`. -/
namespace Lampshade

/-- The sender's own steps: those of the `send` callers and of `sendLoop`. Not `close`, and not
window credit, which only an ACK brings. -/
def SendAction.internal : SendAction → Bool
  | .close _ | .credit _ => false
  | _ => true

namespace SendBuffer

variable {windowSize : Nat} {s t : SendBuffer}

/-- No `close` has run: what only `close` and its consequences set is as `newSendBuffer` left it. -/
def Unclosed (s : SendBuffer) : Prop :=
  s.closeRequested = none ∧ s.signal = .idle ∧ s.closeTimedOut = false ∧ s.closer = .idle ∧
    s.queue.closed = false

/-- What `sendLoop`'s place says about the credit: at the outer `select` and in `write` the
last `sub(1)` was granted, and a frame waiting for the window lacks at most that one credit. The
places only a `close` leads to are excluded. -/
def LoopCredit (s : SendBuffer) : Prop :=
  match s.loop with
  | .select | .write _ => 0 ≤ s.credit
  | .window _ => -1 ≤ s.credit
  | _ => False

structure Credited (windowSize : Nat) (s : SendBuffer) : Prop where
  unclosed : s.Unclosed
  loopCredit : s.LoopCredit
  balance : s.credit + (dataOut s.out).length + s.held.length = windowSize + s.credited

def creditView (s : SendBuffer) :=
  (s.closeRequested,s.signal,s.closeTimedOut,s.closer,s.queue.closed,s.loop,s.credit,s.out,s.credited,
    s.defaultHeader)

theorem LoopCredit.held_credit (loopCredit : s.LoopCredit) : 0 ≤ s.credit + s.held.length := by
  unfold LoopCredit at loopCredit
  cases shape : s.loop <;> simp only [shape] at loopCredit <;> simp only [held,shape] <;> simp <;> omega

theorem Credited.of_view (credited : s.Credited windowSize) (same : t.creditView = s.creditView) :
    t.Credited windowSize := by
  simp only [creditView,Prod.mk.injEq] at same
  obtain ⟨requested,signal,timedOut,closer,closed,loop,credit,out,creditedEq,header⟩ := same
  obtain ⟨⟨requested',signal',timedOut',closer',closed'⟩,loopCredit,balance⟩ := credited
  have held : t.held = s.held := by simp only [held,loop,header]
  refine ⟨⟨requested ▸ requested',signal ▸ signal',timedOut ▸ timedOut',closer ▸ closer',
    closed ▸ closed'⟩,?_,?_⟩
  · unfold LoopCredit
    rw [loop,credit]
    exact loopCredit
  · rw [credit,out,held,creditedEq]
    exact balance

theorem Credited.keep (credited : s.Credited windowSize) (same : t.creditView = s.creditView) :
    t.Credited windowSize ∧ t.credited = s.credited ∧ (dataOut s.out).length ≤ (dataOut t.out).length := by
  have kept := credited.of_view same
  simp only [creditView,Prod.mk.injEq] at same
  obtain ⟨-,-,-,-,-,-,-,out,creditedEq,-⟩ := same
  exact ⟨kept,creditedEq,by rw [out]⟩

theorem Credited.onReceive {u : SendBuffer} (credited : u.Credited windowSize) (select : u.loop = .select)
    (p : Payload) :
    (u.onReceive p).Credited windowSize ∧ (u.onReceive p).credited = u.credited ∧
      (dataOut u.out).length ≤ (dataOut (u.onReceive p).out).length := by
  cases p with
  | none => exact credited.keep rfl
  | some frame =>
    obtain ⟨unclosed,loopCredit,balance⟩ := credited
    simp only [LoopCredit,select] at loopCredit
    simp only [held,select,List.length_nil] at balance
    refine ⟨⟨unclosed,?_,?_⟩,rfl,le_refl _⟩
    · simp only [LoopCredit,SendBuffer.onReceive]
      omega
    · simp only [SendBuffer.onReceive,held,List.length_singleton]
      push_cast
      omega

theorem step_credited (credited : s.Credited windowSize) {a : SendAction} (internal : a.internal)
    (h : s.step a = some t) :
    t.Credited windowSize ∧ t.credited = s.credited ∧ (dataOut s.out).length ≤ (dataOut t.out).length := by
  obtain ⟨requested,signal,timedOut,closer,inOpen⟩ := credited.unclosed
  have loopCredit := credited.loopCredit
  have balance := credited.balance
  cases a with
  | send => obtain ⟨-,-,rfl⟩ := step_send h; exact credited.keep rfl
  | enqueue i =>
    obtain ⟨b,-,⟨closed,-⟩ | ⟨-,-,rfl⟩⟩ := step_enqueue h
    · simp [inOpen] at closed
    · exact credited.keep rfl
  | drain => obtain ⟨_,-,-,rfl⟩ := step_drain h; exact credited.keep rfl
  | sendTimeout => obtain ⟨_,-,-,rfl⟩ := step_sendTimeout h; exact credited.keep rfl
  | fire => obtain ⟨-,rfl⟩ := step_fire h; exact credited.keep rfl
  | credit => simp [SendAction.internal] at internal
  | receive =>
    obtain ⟨select,⟨p,rest,-,rfl⟩ | ⟨-,closed,-⟩⟩ := step_receive h
    · refine Credited.onReceive ?_ ?_ p
      exacts [credited.of_view rfl,select]
    · simp [inOpen] at closed
  | receiveFrom i =>
    obtain ⟨b,select,-,-,-,rfl⟩ := step_receiveFrom h
    refine Credited.onReceive ?_ ?_ b
    exacts [credited.of_view rfl,select]
  | closeRequested => obtain ⟨_,given,-⟩ := step_closeRequested h; simp [requested] at given
  | closeTimedOut => obtain ⟨closed,-⟩ := step_closeTimedOut h; simp [timedOut] at closed
  | windowAvailable =>
    obtain ⟨frame,before,granted,rfl⟩ := step_windowAvailable h
    rcases before with window | windowClosing
    · refine ⟨⟨credited.unclosed,by simpa [LoopCredit] using granted,?_⟩,rfl,le_refl _⟩
      simpa [held,window] using balance
    · simp [LoopCredit,windowClosing] at loopCredit
  | writeOut =>
    rcases step_writeOut h with ⟨b,write,rfl⟩ | ⟨b,writeRST,-⟩
    · simp only [LoopCredit,write] at loopCredit
      refine ⟨⟨credited.unclosed,by simpa [LoopCredit] using loopCredit,?_⟩,rfl,by simp⟩
      simp only [held,write,List.length_singleton] at balance
      simp only [held,dataOut_append,dataOut_data,List.length_append,List.length_singleton,List.length_nil]
      push_cast
      omega
    · simp [LoopCredit,writeRST] at loopCredit
  | lock => obtain ⟨locking,-,-⟩ := step_lock h; simp [signal] at locking
  | sleep => obtain ⟨sleeping,-⟩ := step_sleep h; simp [signal] at sleeping
  | close => simp [SendAction.internal] at internal
  | closeDrain => obtain ⟨draining,-⟩ := step_closeDrain h; simp [closer] at draining
  | closeWait => obtain ⟨waiting,-⟩ := step_closeWait h; simp [closer] at waiting

theorem Credited.windowAdd (credited : s.Credited windowSize) {n : Int} (nonneg : 0 ≤ n) :
    (s.windowAdd n).Credited windowSize := by
  obtain ⟨unclosed,loopCredit,balance⟩ := credited
  refine ⟨unclosed,?_,?_⟩
  · unfold LoopCredit at loopCredit ⊢
    simp only [SendBuffer.windowAdd]
    split <;> simp_all only [] <;> omega
  · simp only [SendBuffer.windowAdd,held] at balance ⊢
    omega

/-- Only `close` starts the close: no other step requests it, starts the `signalClose`
goroutine, closes `closeTimedOut` or `in`, or moves `close`'s caller. -/
theorem step_unclosed (unclosed : s.Unclosed) {a : SendAction} (internal : a.internal) (h : s.step a = some t) :
    t.Unclosed := by
  obtain ⟨requested,signal,timedOut,closer,inOpen⟩ := id unclosed
  cases a with
  | send => obtain ⟨-,-,rfl⟩ := step_send h; exact unclosed
  | enqueue =>
    obtain ⟨_,-,⟨closed,-⟩ | ⟨-,-,rfl⟩⟩ := step_enqueue h
    · simp [inOpen] at closed
    · exact unclosed
  | drain => obtain ⟨_,-,-,rfl⟩ := step_drain h; exact unclosed
  | sendTimeout => obtain ⟨_,-,-,rfl⟩ := step_sendTimeout h; exact unclosed
  | fire => obtain ⟨-,rfl⟩ := step_fire h; exact unclosed
  | credit => simp [SendAction.internal] at internal
  | receive =>
    obtain ⟨-,⟨p,_,-,rfl⟩ | ⟨-,closed,-⟩⟩ := step_receive h
    · cases p <;> exact unclosed
    · simp [inOpen] at closed
  | receiveFrom => obtain ⟨b,-,-,-,-,rfl⟩ := step_receiveFrom h; cases b <;> exact unclosed
  | closeRequested => obtain ⟨_,given,-⟩ := step_closeRequested h; simp [requested] at given
  | closeTimedOut => obtain ⟨closed,-⟩ := step_closeTimedOut h; simp [timedOut] at closed
  | windowAvailable => obtain ⟨_,-,-,rfl⟩ := step_windowAvailable h; exact unclosed
  | writeOut => obtain ⟨_,-,rfl⟩ | ⟨_,-,rfl⟩ := step_writeOut h <;> exact unclosed
  | lock => obtain ⟨locking,-,-⟩ := step_lock h; simp [signal] at locking
  | sleep => obtain ⟨sleeping,-⟩ := step_sleep h; simp [signal] at sleeping
  | close => simp [SendAction.internal] at internal
  | closeDrain => obtain ⟨draining,-⟩ := step_closeDrain h; simp [closer] at draining
  | closeWait => obtain ⟨waiting,-⟩ := step_closeWait h; simp [closer] at waiting

theorem credited_new (defaultHeader : List UInt8) (windowSize callers : Nat) :
    (newSendBuffer defaultHeader windowSize callers).Credited windowSize :=
  ⟨⟨rfl,rfl,rfl,rfl,rfl⟩,by simp only [LoopCredit,newSendBuffer]; omega,by simp [newSendBuffer,held,dataOut]⟩

end SendBuffer

end Lampshade

import Lampshade.SendBuffer.Order

/-! `close` against the write timer and against a sender blocked on a full `in`. Both runs
end with `close` blocked for good: the Stop-then-drain idiom on a timer that an earlier call
already stopped, and `signalClose`'s write lock behind a read lock held across `buf.in <- b`. -/
namespace Lampshade.SendBuffer

variable {s t : SendBuffer}

/-- A stopped timer stays stopped: only an armed timer fires, and only a drained expiry re-arms
it. So a `close` waiting on `<-C` of a stopped timer waits for good. -/
theorem drain_on_stopped_timer_stays (start : s.closer = .drain) (stopped : s.writeTimer = .inactive)
    (run : s.Reaches t) : t.closer = .drain := by
  refine (@Reaches.induction _ _ _ (fun s : SendBuffer => s.closer = .drain ∧ s.writeTimer = .inactive)
    ?_ s t ⟨start,stopped⟩ run).1
  rintro s t a kept h
  obtain ⟨start,stopped⟩ := id kept
  cases a with
  | send => obtain ⟨-,-,rfl⟩ := step_send h; exact kept
  | enqueue => obtain ⟨_,-,⟨-,rfl⟩ | ⟨-,-,rfl⟩⟩ := step_enqueue h <;> exact kept
  | drain => obtain ⟨_,_,fired,_⟩ := step_drain h; simp [stopped] at fired
  | sendTimeout => obtain ⟨_,_,fired,_⟩ := step_sendTimeout h; simp [stopped] at fired
  | fire => obtain ⟨armed,_⟩ := step_fire h; simp [stopped] at armed
  | credit => rw [step_credit h]; exact kept
  | receive =>
    obtain ⟨-,⟨p,_,-,rfl⟩ | ⟨-,-,rfl⟩⟩ := step_receive h
    · cases p <;> exact kept
    · exact kept
  | receiveFrom => obtain ⟨b,-,-,-,-,rfl⟩ := step_receiveFrom h; cases b <;> exact kept
  | closeRequested => obtain ⟨_,-,⟨-,rfl⟩ | ⟨_,-,rfl⟩⟩ := step_closeRequested h <;> exact kept
  | closeTimedOut => obtain ⟨-,⟨-,rfl⟩ | ⟨-,rfl⟩ | ⟨-,rfl⟩⟩ := step_closeTimedOut h <;> exact kept
  | windowAvailable => obtain ⟨_,-,-,rfl⟩ := step_windowAvailable h; exact kept
  | writeOut => obtain ⟨_,-,rfl⟩ | ⟨_,-,rfl⟩ := step_writeOut h <;> exact kept
  | lock => obtain ⟨-,-,rfl⟩ := step_lock h; exact kept
  | sleep => obtain ⟨-,rfl⟩ := step_sleep h; exact kept
  | close => obtain ⟨idle,_⟩ := step_close h; simp [start] at idle
  | closeDrain => obtain ⟨_,fired,_⟩ := step_closeDrain h; simp [stopped] at fired
  | closeWait => obtain ⟨wait,_⟩ := step_closeWait h; simp [start] at wait

/-- `close(true)` on a fresh buffer with no sender, run until it returns, then `close(true)`
once more. -/
def closeTwice : List SendAction :=
  [.close true,.closeRequested,.lock,.receive,.writeOut,.closeWait,.close true]

theorem second_close_blocks_on_stopped_timer :
    ∃ s, (newSendBuffer [0,0,0,1] 1 0).steps closeTwice = some s ∧
      s.closer = .drain ∧ s.writeTimer = .inactive ∧ ∀ t, s.Reaches t → t.closer = .drain :=
  ⟨_,rfl,rfl,rfl,fun _ run => drain_on_stopped_timer_stays rfl rfl run⟩

/-- Window 1 and one sender: the first frame leaves on the initial credit, the second waits for
credit, the third fills `in`, and a fourth zero-deadline `send` blocks on `in` with the read lock
held. Then `close(true)`, and `sendLoop` takes the request while it waits for credit. -/
def fullQueueClose : List SendAction :=
  [.send 0 (some [1]) .zero,.enqueue 0,.receive,.windowAvailable,.writeOut,
    .send 0 (some [2]) .zero,.enqueue 0,.receive,.send 0 (some [3]) .zero,.enqueue 0,
    .send 0 (some [4]) .zero,.close true,.closeRequested]

/-- Where that run stops: `signalClose`'s goroutine waits for the write lock. -/
def stalled : SendBuffer :=
  { defaultHeader := [0,0,0,1]
    windowSize := 1
    credit := -1
    queue := ⟨[some [3]],false⟩
    closeRequested := none
    closing := false
    writeTimer := .inactive
    closeTimedOut := false
    sendRST := true
    loop := .windowClosing [2]
    signal := .lock
    closer := .wait
    senders := [.enqueue (some [4])]
    out := [.data [1,0,0,0,1]]
    accepted := [some [1],some [2],some [3]]
    credited := 0
    panicked := false }

/-- Without new credit no goroutine can move: `close` waits for `sendLoop`, which waits for
credit or `closeTimedOut`, which only the goroutine waiting for the write lock closes, behind
the sender that holds the read lock while blocked on the full `in`. -/
theorem close_deadlocks_without_credit :
    (newSendBuffer [0,0,0,1] 1 1).steps fullQueueClose = some stalled ∧ stalled.closer = .wait ∧
      ∀ a, (∀ n, a ≠ .credit n) → stalled.step a = none := by
  refine ⟨rfl,rfl,?_⟩
  intro a noCredit
  cases a with
  | credit n => exact absurd rfl (noCredit n)
  | send i | enqueue i | drain i | sendTimeout i | receiveFrom i => rcases i with _ | i <;> rfl
  | _ => rfl

/-- A `send` with a deadline waits to drain a stopped timer while it holds the read lock: the
`signalClose` goroutine never takes the write lock, so `in` is never closed, `closeTimedOut`
never fires and `sendLoop` never returns. -/
structure Wedged (i : Nat) (b : Payload) (s : SendBuffer) : Prop where
  stopped : s.writeTimer = .inactive
  draining : s.senders[i]? = some (.drain b)
  unlocked : s.signal = .idle ∨ s.signal = .lock
  unclosed : s.closing = false ∧ s.queue.closed = false ∧ s.closeTimedOut = false
  running : s.loop.returned = false

def wedgeView (s : SendBuffer) := (s.writeTimer,s.closing,s.queue.closed,s.closeTimedOut)

theorem Wedged.of_view {i : Nat} {b : Payload} (wedged : s.Wedged i b) (same : t.wedgeView = s.wedgeView)
    (draining : t.senders[i]? = some (.drain b)) (unlocked : t.signal = .idle ∨ t.signal = .lock)
    (running : t.loop.returned = false) : t.Wedged i b := by
  simp only [wedgeView,Prod.mk.injEq] at same
  obtain ⟨stopped,closing,closed,timedOut⟩ := same
  obtain ⟨stopped',-,-,⟨closing',closed',timedOut'⟩,-⟩ := wedged
  exact ⟨stopped ▸ stopped',draining,unlocked,⟨closing ▸ closing',closed ▸ closed',timedOut ▸ timedOut'⟩,
    running⟩

theorem setSender_other {i j : Nat} {pc x y : SendPc} (draining : s.senders[i]? = some x)
    (other : s.senders[j]? = some y) (differ : x ≠ y) : (s.setSender j pc).senders[i]? = some x := by
  have ne : j ≠ i := by
    rintro rfl
    exact differ (Option.some.inj (draining.symm.trans other))
  rw [setSender,List.getElem?_set_ne ne,draining]

end Lampshade.SendBuffer

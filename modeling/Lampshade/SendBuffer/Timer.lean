import Lampshade.SendBuffer.Close

/-! The write timer over whole runs. `doSend` drains `C` after a failed `Stop`, which is right
for a timer that expired unread and wrong for one whose expiry was already read: the
`case <-buf.writeTimer.C` exit of `doSend`'s `select` reads the expiry and does not re-arm. From
then on the timer is stopped for good, and every `send` with a deadline still ahead waits on
its channel for good. -/
namespace Lampshade.SendBuffer

variable {s t : SendBuffer}

theorem setSender_busy {i j : Nat} {b c : Payload} {pc : SendPc} (draining : s.senders[i]? = some (.drain b))
    (busy : s.senders[j]? = some (.enqueue c) ∨ s.senders[j]? = some (.timed c)) :
    (s.setSender j pc).senders[i]? = some (.drain b) :=
  busy.elim (setSender_other draining · (by simp)) (setSender_other draining · (by simp))

/-- On a stopped timer no step re-arms it, and a sender waiting to drain it stays where it is:
only `drain` moves it, and `drain` needs an expired timer. -/
theorem step_stopped (stopped : s.writeTimer = .inactive) {a : SendAction} (h : s.step a = some t) :
    t.writeTimer = .inactive ∧ ∀ (i : Nat) (b : Payload), s.senders[i]? = some (.drain b) → t.senders[i]? = some (.drain b) := by
  cases a with
  | send =>
    obtain ⟨⟨_,idle⟩,-,rfl⟩ := step_send h
    exact ⟨stopped,fun _ _ draining => setSender_other draining idle (by simp)⟩
  | enqueue =>
    obtain ⟨_,pc,⟨-,rfl⟩ | ⟨-,-,rfl⟩⟩ := step_enqueue h
    · exact ⟨stopped,fun _ _ => id⟩
    · exact ⟨stopped,fun _ _ draining => setSender_busy draining pc⟩
  | drain => obtain ⟨_,_,fired,_⟩ := step_drain h; simp [stopped] at fired
  | sendTimeout => obtain ⟨_,_,fired,_⟩ := step_sendTimeout h; simp [stopped] at fired
  | fire => obtain ⟨armed,_⟩ := step_fire h; simp [stopped] at armed
  | credit => rw [step_credit h]; exact ⟨stopped,fun _ _ => id⟩
  | receive =>
    obtain ⟨-,⟨p,_,-,rfl⟩ | ⟨-,-,rfl⟩⟩ := step_receive h
    · cases p <;> exact ⟨stopped,fun _ _ => id⟩
    · exact ⟨stopped,fun _ _ => id⟩
  | receiveFrom =>
    obtain ⟨b',-,-,-,pc,rfl⟩ := step_receiveFrom h
    cases b' <;> exact ⟨stopped,fun _ _ draining => setSender_busy draining pc⟩
  | closeRequested =>
    obtain ⟨_,-,⟨-,rfl⟩ | ⟨_,-,rfl⟩⟩ := step_closeRequested h <;> exact ⟨stopped,fun _ _ => id⟩
  | closeTimedOut =>
    obtain ⟨-,⟨-,rfl⟩ | ⟨-,rfl⟩ | ⟨-,rfl⟩⟩ := step_closeTimedOut h <;> exact ⟨stopped,fun _ _ => id⟩
  | windowAvailable => obtain ⟨_,-,-,rfl⟩ := step_windowAvailable h; exact ⟨stopped,fun _ _ => id⟩
  | writeOut => obtain ⟨_,-,rfl⟩ | ⟨_,-,rfl⟩ := step_writeOut h <;> exact ⟨stopped,fun _ _ => id⟩
  | lock => obtain ⟨-,-,rfl⟩ := step_lock h; exact ⟨stopped,fun _ _ => id⟩
  | sleep => obtain ⟨-,rfl⟩ := step_sleep h; exact ⟨stopped,fun _ _ => id⟩
  | close =>
    obtain ⟨-,⟨armed,-⟩ | ⟨-,rfl⟩⟩ := step_close h
    · simp [stopped] at armed
    · exact ⟨stopped,fun _ _ => id⟩
  | closeDrain => obtain ⟨-,fired,-⟩ := step_closeDrain h; simp [stopped] at fired
  | closeWait => obtain ⟨-,-,rfl⟩ := step_closeWait h; exact ⟨stopped,fun _ _ => id⟩

theorem stopped_reaches (stopped : s.writeTimer = .inactive) (run : s.Reaches t) :
    t.writeTimer = .inactive ∧ ∀ (i : Nat) (b : Payload), s.senders[i]? = some (.drain b) → t.senders[i]? = some (.drain b) := by
  refine @Reaches.induction _ _ _
    (fun u : SendBuffer => u.writeTimer = .inactive ∧ ∀ (i : Nat) (b : Payload), s.senders[i]? = some (.drain b) →
      u.senders[i]? = some (.drain b)) (fun _ kept h => ?_) s t ⟨stopped,fun _ _ => id⟩ run
  obtain ⟨stopped',moved⟩ := step_stopped kept.1 h
  exact ⟨stopped',fun i b draining => moved i b (kept.2 i b draining)⟩

/-- Once a `send` has timed out on the write timer, a `send` with a deadline still ahead that
starts at any later point before `closing` is set waits in `<-buf.writeTimer.C` for good: it
never enqueues, never times out and never returns. -/
theorem timeout_blocks_later_timed_sends {i j : Nat} {b : Payload} {u v w : SendBuffer}
    (timedOut : s.step (.sendTimeout i) = some t) (run : t.Reaches u) (opened : u.closing = false)
    (started : u.step (.send j b .future) = some v) (later : v.Reaches w) :
    w.senders[j]? = some (.drain b) := by
  obtain ⟨_,-,-,rfl⟩ := step_sendTimeout timedOut
  have stopped := (stopped_reaches rfl run).1
  obtain ⟨⟨_,idle⟩,-,rfl⟩ := step_send started
  have waiting : (u.setSender j (u.doSend b .future)).senders[j]? = some (.drain b) := by
    rw [setSender,List.getElem?_set_self (List.getElem?_eq_some_iff.mp idle).1]
    simp [doSend,opened,stopped]
  exact (stopped_reaches (show (u.setSender j _).writeTimer = .inactive from stopped) later).2 j b waiting

/-- A timed `send` whose timer expires before `in` takes its frame, then a second timed `send`
from another caller. -/
theorem timed_send_after_timeout_blocks :
    ∃ s t v, (newSendBuffer [0,0,0,1] 1 2).steps [.send 0 (some [1]) .future,.fire] = some s ∧
      s.step (.sendTimeout 0) = some t ∧ t.closing = false ∧ t.step (.send 1 (some [2]) .future) = some v ∧
      v.senders[1]? = some (.drain (some [2])) :=
  let s : SendBuffer := { (newSendBuffer [0,0,0,1] 1 2).setSender 0 (.timed (some [1])) with writeTimer := .fired }
  let t : SendBuffer := { s.setSender 0 (.idle (some .timeout)) with writeTimer := .inactive }
  ⟨s,t,_,rfl,rfl,rfl,rfl,@timeout_blocks_later_timed_sends s t 0 1 (some [2]) t _ _ rfl .refl rfl rfl .refl⟩

end Lampshade.SendBuffer

import Lampshade.SendBuffer.Model

/-! What each step of the send buffer can do, stated once: an enabled step's guard and the
state it leaves. The invariants of the later modules are case analyses over these. -/
namespace Lampshade.SendBuffer

variable {s t : SendBuffer}

theorem doSend_closing (b : Payload) (deadline : Deadline) (closing : s.closing = true) :
    s.doSend b deadline = .idle (some .epipe) := by
  simp [doSend,closing]

theorem step_send {i : Nat} {b : Payload} {deadline : Deadline} (h : s.step (.send i b deadline) = some t) :
    (∃ last, s.senders[i]? = some (.idle last)) ∧ s.signal ≠ .lock ∧
      t = s.setSender i (s.doSend b deadline) := by
  simp only [step] at h
  split at h
  · split at h
    · cases h
    · exact ⟨⟨_,‹_›⟩,‹_›,(Option.some.inj h).symm⟩
  · cases h

theorem step_enqueue {i : Nat} (h : s.step (.enqueue i) = some t) :
    ∃ b, (s.senders[i]? = some (.enqueue b) ∨ s.senders[i]? = some (.timed b)) ∧
      (s.queue.closed = true ∧ t = { s with panicked := true } ∨
        s.queue.closed = false ∧ s.queue.items.length < s.windowSize ∧
          t = { s.setSender i (.idle (some (.ok b.len))) with
            queue := { s.queue with items := s.queue.items ++ [b] }, accepted := s.accepted ++ [b] }) := by
  simp only [step,enqueue] at h
  split at h
  all_goals first
    | cases h
    | rename_i b pc
      refine ⟨b,by simp [pc],?_⟩
      split at h
      · exact .inl ⟨‹_›,(Option.some.inj h).symm⟩
      · rename_i opened
        split at h
        · exact .inr ⟨by simpa using opened,‹_›,(Option.some.inj h).symm⟩
        · cases h

theorem step_drain {i : Nat} (h : s.step (.drain i) = some t) :
    ∃ b, s.senders[i]? = some (.drain b) ∧ s.writeTimer = .fired ∧
      t = { s.setSender i (.timed b) with writeTimer := .armed } := by
  simp only [step,drain] at h
  split at h
  · exact ⟨_,‹_›,‹_›,(Option.some.inj h).symm⟩
  · cases h

theorem step_sendTimeout {i : Nat} (h : s.step (.sendTimeout i) = some t) :
    ∃ b, s.senders[i]? = some (.timed b) ∧ s.writeTimer = .fired ∧
      t = { s.setSender i (.idle (some .timeout)) with writeTimer := .inactive } := by
  simp only [step,sendTimeout] at h
  split at h
  · exact ⟨_,‹_›,‹_›,(Option.some.inj h).symm⟩
  · cases h

theorem step_fire (h : s.step .fire = some t) :
    s.writeTimer = .armed ∧ t = { s with writeTimer := .fired } := by
  simp only [step] at h
  split at h
  · exact ⟨‹_›,(Option.some.inj h).symm⟩
  · cases h

theorem step_credit {n : Int} (h : s.step (.credit n) = some t) :
    t = { s with credit := s.credit + n, credited := s.credited + n } :=
  (Option.some.inj h).symm

theorem step_receive (h : s.step .receive = some t) :
    s.loop = .select ∧
      ((∃ p rest, s.queue.items = p :: rest ∧
        t = ({ s with queue := { s.queue with items := rest } } : SendBuffer).onReceive p) ∨
      s.queue.items = [] ∧ s.queue.closed = true ∧ t = s.returned) := by
  simp only [step,receive] at h
  split at h
  · exact ⟨‹_›,.inl ⟨_,_,‹_›,(Option.some.inj h).symm⟩⟩
  · split at h
    · exact ⟨‹_›,.inr ⟨‹_›,‹_›,(Option.some.inj h).symm⟩⟩
    · cases h
  · cases h

theorem step_receiveFrom {i : Nat} (h : s.step (.receiveFrom i) = some t) :
    ∃ b, s.loop = .select ∧ s.queue.items = [] ∧ s.queue.closed = false ∧
      (s.senders[i]? = some (.enqueue b) ∨ s.senders[i]? = some (.timed b)) ∧
      t = ({ s.setSender i (.idle (some (.ok b.len))) with accepted := s.accepted ++ [b] } :
        SendBuffer).onReceive b := by
  simp only [step,receiveFrom] at h
  split at h
  · exact ⟨_,‹_›,‹_›,‹_›,.inl ‹_›,(Option.some.inj h).symm⟩
  · exact ⟨_,‹_›,‹_›,‹_›,.inr ‹_›,(Option.some.inj h).symm⟩
  · cases h

theorem step_closeRequested (h : s.step .closeRequested = some t) :
    ∃ v, s.closeRequested = some v ∧
      (s.loop = .select ∧ t = ({ s with sendRST := v, closeRequested := none } : SendBuffer).signalClose ∨
        ∃ frame, s.loop = .window frame ∧
          t = ({ s with sendRST := v, closeRequested := none, loop := .windowClosing frame } :
            SendBuffer).signalClose) := by
  simp only [step,takeCloseRequest] at h
  split at h
  · exact ⟨_,‹_›,.inl ⟨‹_›,(Option.some.inj h).symm⟩⟩
  · exact ⟨_,‹_›,.inr ⟨_,‹_›,(Option.some.inj h).symm⟩⟩
  · cases h

theorem step_closeTimedOut (h : s.step .closeTimedOut = some t) :
    s.closeTimedOut = true ∧
      ((s.loop = .select ∨ ∃ frame, s.loop = .windowClosing frame) ∧ t = s.returned ∨
        (∃ b, s.loop = .write b) ∧ t = { s with loop := .select } ∨
        (∃ b, s.loop = .writeRST b) ∧ t = { s with loop := .done }) := by
  simp only [step,takeCloseTimedOut] at h
  split at h
  · refine ⟨‹_›,?_⟩
    split at h
    · exact .inl ⟨.inl ‹_›,(Option.some.inj h).symm⟩
    · exact .inl ⟨.inr ⟨_,‹_›⟩,(Option.some.inj h).symm⟩
    · exact .inr (.inl ⟨⟨_,‹_›⟩,(Option.some.inj h).symm⟩)
    · exact .inr (.inr ⟨⟨_,‹_›⟩,(Option.some.inj h).symm⟩)
    · cases h
  · cases h

theorem step_windowAvailable (h : s.step .windowAvailable = some t) :
    ∃ frame, (s.loop = .window frame ∨ s.loop = .windowClosing frame) ∧ 0 ≤ s.credit ∧
      t = { s with loop := .write (frame ++ s.defaultHeader) } := by
  simp only [step,windowAvailable] at h
  split at h
  all_goals first
    | cases h
    | split at h
      · exact ⟨_,by simp [*],‹_›,(Option.some.inj h).symm⟩
      · cases h

theorem step_writeOut (h : s.step .writeOut = some t) :
    (∃ b, s.loop = .write b ∧ t = { s with out := s.out ++ [.data b], loop := .select }) ∨
      ∃ b, s.loop = .writeRST b ∧ t = { s with out := s.out ++ [.rst b], loop := .done } := by
  simp only [step,writeOut] at h
  split at h
  · exact .inl ⟨_,‹_›,(Option.some.inj h).symm⟩
  · exact .inr ⟨_,‹_›,(Option.some.inj h).symm⟩
  · cases h

theorem step_lock (h : s.step .lock = some t) :
    s.signal = .lock ∧ (∀ pc ∈ s.senders, pc.isIdle) ∧
      t = { s with
        closing := true, queue := { s.queue with closed := true },
        panicked := s.panicked || s.queue.closed, signal := .sleep } := by
  simp only [step,lock] at h
  split at h
  · rename_i guard
    exact ⟨guard.1,List.all_eq_true.mp guard.2,(Option.some.inj h).symm⟩
  · cases h

theorem step_sleep (h : s.step .sleep = some t) :
    s.signal = .sleep ∧ t = { s with closeTimedOut := true, signal := .done } := by
  simp only [step,sleep] at h
  split at h
  · exact ⟨‹_›,(Option.some.inj h).symm⟩
  · cases h

theorem step_close {v : Bool} (h : s.step (.close v) = some t) :
    s.closer = .idle ∧
      (s.writeTimer = .armed ∧ t = { s with
          closeRequested := s.closeRequested.or (some v), writeTimer := .inactive, closer := .wait } ∨
        s.writeTimer ≠ .armed ∧
          t = { s with closeRequested := s.closeRequested.or (some v), closer := .drain }) := by
  simp only [step,close] at h
  split at h
  · refine ⟨‹_›,?_⟩
    split at h
    · exact .inl ⟨‹_›,(Option.some.inj h).symm⟩
    · exact .inr ⟨‹_›,(Option.some.inj h).symm⟩
  · cases h

theorem step_closeDrain (h : s.step .closeDrain = some t) :
    s.closer = .drain ∧ s.writeTimer = .fired ∧ t = { s with writeTimer := .inactive, closer := .wait } := by
  simp only [step,closeDrain] at h
  split at h
  · exact ⟨(‹_› : _ ∧ _).1,(‹_› : _ ∧ _).2,(Option.some.inj h).symm⟩
  · cases h

theorem step_closeWait (h : s.step .closeWait = some t) :
    s.closer = .wait ∧ s.loop = .done ∧ t = { s with closer := .idle } := by
  simp only [step,closeWait] at h
  split at h
  · exact ⟨(‹_› : _ ∧ _).1,(‹_› : _ ∧ _).2,(Option.some.inj h).symm⟩
  · cases h

theorem step_accepted {a : SendAction} (h : s.step a = some t) :
    t.accepted = s.accepted ∨ ∃ i b, (a = .enqueue i ∨ a = .receiveFrom i) ∧
      (s.senders[i]? = some (.enqueue b) ∨ s.senders[i]? = some (.timed b)) := by
  cases a with
  | send => obtain ⟨-,-,rfl⟩ := step_send h; exact .inl rfl
  | enqueue i => obtain ⟨b,pc,-⟩ := step_enqueue h; exact .inr ⟨i,b,.inl rfl,pc⟩
  | drain => obtain ⟨_,-,-,rfl⟩ := step_drain h; exact .inl rfl
  | sendTimeout => obtain ⟨_,-,-,rfl⟩ := step_sendTimeout h; exact .inl rfl
  | fire => obtain ⟨-,rfl⟩ := step_fire h; exact .inl rfl
  | credit => rw [step_credit h]; exact .inl rfl
  | receive =>
    obtain ⟨-,⟨p,-,-,rfl⟩ | ⟨-,-,rfl⟩⟩ := step_receive h
    · cases p <;> exact .inl rfl
    · exact .inl rfl
  | receiveFrom i => obtain ⟨b,-,-,-,pc,-⟩ := step_receiveFrom h; exact .inr ⟨i,b,.inr rfl,pc⟩
  | closeRequested => obtain ⟨_,-,⟨-,rfl⟩ | ⟨_,-,rfl⟩⟩ := step_closeRequested h <;> exact .inl rfl
  | closeTimedOut => obtain ⟨-,⟨-,rfl⟩ | ⟨-,rfl⟩ | ⟨-,rfl⟩⟩ := step_closeTimedOut h <;> exact .inl rfl
  | windowAvailable => obtain ⟨_,-,-,rfl⟩ := step_windowAvailable h; exact .inl rfl
  | writeOut => obtain ⟨_,-,rfl⟩ | ⟨_,-,rfl⟩ := step_writeOut h <;> exact .inl rfl
  | lock => obtain ⟨-,-,rfl⟩ := step_lock h; exact .inl rfl
  | sleep => obtain ⟨-,rfl⟩ := step_sleep h; exact .inl rfl
  | close => obtain ⟨-,⟨-,rfl⟩ | ⟨-,rfl⟩⟩ := step_close h <;> exact .inl rfl
  | closeDrain => obtain ⟨-,-,rfl⟩ := step_closeDrain h; exact .inl rfl
  | closeWait => obtain ⟨-,-,rfl⟩ := step_closeWait h; exact .inl rfl

theorem step_out {a : SendAction} (h : s.step a = some t) : s.out <+: t.out := by
  cases a with
  | send => obtain ⟨-,-,rfl⟩ := step_send h; exact List.prefix_refl _
  | enqueue => obtain ⟨_,-,⟨-,rfl⟩ | ⟨-,-,rfl⟩⟩ := step_enqueue h <;> exact List.prefix_refl _
  | drain => obtain ⟨_,-,-,rfl⟩ := step_drain h; exact List.prefix_refl _
  | sendTimeout => obtain ⟨_,-,-,rfl⟩ := step_sendTimeout h; exact List.prefix_refl _
  | fire => obtain ⟨-,rfl⟩ := step_fire h; exact List.prefix_refl _
  | credit => rw [step_credit h]
  | receive =>
    obtain ⟨-,⟨p,_,-,rfl⟩ | ⟨-,-,rfl⟩⟩ := step_receive h
    · cases p <;> exact List.prefix_refl _
    · exact List.prefix_refl _
  | receiveFrom => obtain ⟨b,-,-,-,-,rfl⟩ := step_receiveFrom h; cases b <;> exact List.prefix_refl _
  | closeRequested =>
    obtain ⟨_,-,⟨-,rfl⟩ | ⟨_,-,rfl⟩⟩ := step_closeRequested h <;> exact List.prefix_refl _
  | closeTimedOut =>
    obtain ⟨-,⟨-,rfl⟩ | ⟨-,rfl⟩ | ⟨-,rfl⟩⟩ := step_closeTimedOut h <;> exact List.prefix_refl _
  | windowAvailable => obtain ⟨_,-,-,rfl⟩ := step_windowAvailable h; exact List.prefix_refl _
  | writeOut => obtain ⟨_,-,rfl⟩ | ⟨_,-,rfl⟩ := step_writeOut h <;> exact List.prefix_append _ _
  | lock => obtain ⟨-,-,rfl⟩ := step_lock h; exact List.prefix_refl _
  | sleep => obtain ⟨-,rfl⟩ := step_sleep h; exact List.prefix_refl _
  | close => obtain ⟨-,⟨-,rfl⟩ | ⟨-,rfl⟩⟩ := step_close h <;> exact List.prefix_refl _
  | closeDrain => obtain ⟨-,-,rfl⟩ := step_closeDrain h; exact List.prefix_refl _
  | closeWait => obtain ⟨-,-,rfl⟩ := step_closeWait h; exact List.prefix_refl _

theorem step_defaultHeader {a : SendAction} (h : s.step a = some t) : t.defaultHeader = s.defaultHeader := by
  cases a with
  | send => obtain ⟨-,-,rfl⟩ := step_send h; rfl
  | enqueue => obtain ⟨_,-,⟨-,rfl⟩ | ⟨-,-,rfl⟩⟩ := step_enqueue h <;> rfl
  | drain => obtain ⟨_,-,-,rfl⟩ := step_drain h; rfl
  | sendTimeout => obtain ⟨_,-,-,rfl⟩ := step_sendTimeout h; rfl
  | fire => obtain ⟨-,rfl⟩ := step_fire h; rfl
  | credit => rw [step_credit h]
  | receive =>
    obtain ⟨-,⟨p,_,-,rfl⟩ | ⟨-,-,rfl⟩⟩ := step_receive h
    · cases p <;> rfl
    · rfl
  | receiveFrom => obtain ⟨b,-,-,-,-,rfl⟩ := step_receiveFrom h; cases b <;> rfl
  | closeRequested => obtain ⟨_,-,⟨-,rfl⟩ | ⟨_,-,rfl⟩⟩ := step_closeRequested h <;> rfl
  | closeTimedOut => obtain ⟨-,⟨-,rfl⟩ | ⟨-,rfl⟩ | ⟨-,rfl⟩⟩ := step_closeTimedOut h <;> rfl
  | windowAvailable => obtain ⟨_,-,-,rfl⟩ := step_windowAvailable h; rfl
  | writeOut => obtain ⟨_,-,rfl⟩ | ⟨_,-,rfl⟩ := step_writeOut h <;> rfl
  | lock => obtain ⟨-,-,rfl⟩ := step_lock h; rfl
  | sleep => obtain ⟨-,rfl⟩ := step_sleep h; rfl
  | close => obtain ⟨-,⟨-,rfl⟩ | ⟨-,rfl⟩⟩ := step_close h <;> rfl
  | closeDrain => obtain ⟨-,-,rfl⟩ := step_closeDrain h; rfl
  | closeWait => obtain ⟨-,-,rfl⟩ := step_closeWait h; rfl

end Lampshade.SendBuffer

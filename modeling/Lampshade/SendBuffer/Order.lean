import Lampshade.SendBuffer.Steps

/-! The order of what `sendLoop` writes to `out`. Over every interleaving and every resolution
of its `select`s, the data frames written are a sublist of the accepted frames in acceptance
order, and a prefix of them until `closeTimedOut` is closed; the RST, when written, is the last
frame, and only a `close(true)` leads to one. Once `write` has dropped a frame on
`closeTimedOut` the loop goes on, so a later frame can still be written after a dropped one. -/
namespace Lampshade

def LoopPc.returned : LoopPc → Bool
  | .writeRST _ | .done => true
  | _ => false

namespace SendBuffer

variable {s t : SendBuffer}

/-- The RST frames handed to `out`, in order. -/
def rstOut (out : List Outbound) : List (List UInt8) :=
  out.filterMap fun | .rst b => some b | .data _ => none

/-- The frame `sendLoop` holds between `<-buf.in` and the end of its `write`. -/
def held (s : SendBuffer) : List (List UInt8) :=
  match s.loop with
  | .window frame | .windowClosing frame => [frame ++ s.defaultHeader]
  | .write b => [b]
  | _ => []

theorem held_select (select : s.loop = .select) : s.held = [] := by simp [held,select]

theorem held_of_returned (returned : s.loop.returned = true) : s.held = [] := by
  unfold held
  split <;> simp_all [LoopPc.returned]

@[simp] theorem returned_held : s.returned.held = [] := by
  unfold SendBuffer.returned held
  cases s.sendRST <;> rfl

@[simp] theorem framesOf_append (defaultHeader : List UInt8) (payloads more : List Payload) :
    framesOf defaultHeader (payloads ++ more) = framesOf defaultHeader payloads ++ framesOf defaultHeader more := by
  simp [framesOf]

@[simp] theorem framesOf_some (defaultHeader frame : List UInt8) :
    framesOf defaultHeader [some frame] = [frame ++ defaultHeader] := rfl

@[simp] theorem framesOf_none (defaultHeader : List UInt8) : framesOf defaultHeader [none] = [] := rfl

@[simp] theorem dataOut_append (out more : List Outbound) : dataOut (out ++ more) = dataOut out ++ dataOut more := by
  simp [dataOut]

@[simp] theorem rstOut_append (out more : List Outbound) : rstOut (out ++ more) = rstOut out ++ rstOut more := by
  simp [rstOut]

@[simp] theorem dataOut_data (b : List UInt8) : dataOut [.data b] = [b] := rfl

@[simp] theorem dataOut_rst (b : List UInt8) : dataOut [.rst b] = [] := rfl

@[simp] theorem rstOut_data (b : List UInt8) : rstOut [.data b] = [] := rfl

@[simp] theorem rstOut_rst (b : List UInt8) : rstOut [.rst b] = [b] := rfl

/-- The accepted payloads are those `sendLoop` has taken, then those still in `in`. What it
wrote, then the frame it holds, is a sublist of the frames it has taken, all of them until
`closeTimedOut` is closed; a loop that returned without it had drained a closed `in`; an RST
ends `out`. -/
structure Ordered (s : SendBuffer) : Prop where
  taken : ∃ taken, s.accepted = taken ++ s.queue.items ∧
    (dataOut s.out ++ s.held).Sublist (framesOf s.defaultHeader taken) ∧
    (s.closeTimedOut = false → dataOut s.out ++ s.held = framesOf s.defaultHeader taken)
  drained : s.closeTimedOut = false → s.loop.returned → s.queue.items = [] ∧ s.queue.closed = true
  rstLast : rstOut s.out = [] ∨ ∃ pre b, s.out = pre ++ [.rst b] ∧ rstOut pre = [] ∧ s.loop = .done

theorem Ordered.rst_nil (ordered : s.Ordered) (running : s.loop ≠ .done) : rstOut s.out = [] := by
  rcases ordered.rstLast with none | ⟨_,_,-,-,done⟩
  · exact none
  · exact absurd done running

theorem Ordered.of_timedOut {taken : List Payload} (timedOut : t.closeTimedOut = true)
    (split : t.accepted = taken ++ t.queue.items)
    (sub : (dataOut t.out ++ t.held).Sublist (framesOf t.defaultHeader taken))
    (rst : rstOut t.out = [] ∨ ∃ pre b, t.out = pre ++ [.rst b] ∧ rstOut pre = [] ∧ t.loop = .done) :
    t.Ordered :=
  ⟨⟨taken,split,sub,fun fresh => by simp [timedOut] at fresh⟩,fun fresh => by simp [timedOut] at fresh,rst⟩

def orderView (s : SendBuffer) := (s.accepted,s.queue.items,s.loop,s.out,s.defaultHeader)

theorem Ordered.of_frame (ordered : s.Ordered) (same : t.orderView = s.orderView)
    (closed : s.queue.closed = true → t.queue.closed = true)
    (timedOut : t.closeTimedOut = false → s.closeTimedOut = false) : t.Ordered := by
  simp only [orderView,Prod.mk.injEq] at same
  obtain ⟨accepted,queue,loop,out,header⟩ := same
  obtain ⟨⟨taken,split,sub,whole⟩,drained,rst⟩ := ordered
  have held : t.held = s.held := by simp only [held,loop,header]
  refine ⟨⟨taken,by rw [accepted,queue,split],by rw [out,held,header]; exact sub,fun fresh => ?_⟩,
    fun fresh returned => ?_,by rw [out,loop]; exact rst⟩
  · rw [out,held,header]
    exact whole (timedOut fresh)
  · obtain ⟨empty,closedIn⟩ := drained (timedOut fresh) (loop ▸ returned)
    exact ⟨queue ▸ empty,closed closedIn⟩

theorem Ordered.of_window (ordered : s.Ordered) {frame : List UInt8}
    (before : s.loop = .window frame ∨ s.loop = .windowClosing frame)
    (after : t.loop = .windowClosing frame ∨ t.loop = .write (frame ++ s.defaultHeader))
    (accepted : t.accepted = s.accepted) (queue : t.queue.items = s.queue.items) (out : t.out = s.out)
    (header : t.defaultHeader = s.defaultHeader) (timedOut : t.closeTimedOut = s.closeTimedOut) :
    t.Ordered := by
  obtain ⟨taken,split,sub,whole⟩ := ordered.taken
  have held : t.held = s.held := by
    rcases before with before | before <;> rcases after with after | after <;> simp [held,before,after,header]
  have running : t.loop.returned = false := by rcases after with after | after <;> simp [after,LoopPc.returned]
  refine ⟨⟨taken,by rw [accepted,queue,split],by rw [out,held,header]; exact sub,fun fresh => ?_⟩,
    fun _ returned => by simp [running] at returned,.inl ?_⟩
  · rw [out,held,header]
    exact whole (timedOut ▸ fresh)
  · rw [out]
    exact ordered.rst_nil (by rcases before with before | before <;> simp [before])

theorem ordered_onReceive {u : SendBuffer} {p : Payload} (taken : List Payload)
    (split : u.accepted = taken ++ p :: u.queue.items) (select : u.loop = .select)
    (sub : (dataOut u.out).Sublist (framesOf u.defaultHeader taken))
    (whole : u.closeTimedOut = false → dataOut u.out = framesOf u.defaultHeader taken)
    (rst : rstOut u.out = []) : (u.onReceive p).Ordered := by
  have moved : u.accepted = (taken ++ [p]) ++ u.queue.items := by simp [split]
  cases p with
  | none =>
    refine ⟨⟨taken ++ [none],moved,by simpa [held,select,onReceive] using sub,fun fresh => ?_⟩,
      fun _ returned => by simp [select,onReceive,LoopPc.returned] at returned,.inl rst⟩
    simpa [held,select,onReceive] using whole fresh
  | some frame =>
    refine ⟨⟨taken ++ [some frame],moved,?_,fun fresh => ?_⟩,fun _ returned => by simp [onReceive,LoopPc.returned] at returned,
      .inl rst⟩
    · simpa [held,onReceive] using sub.append (List.Sublist.refl [frame ++ u.defaultHeader])
    · simpa [held,onReceive] using whole fresh

theorem step_ordered (ordered : s.Ordered) {a : SendAction} (h : s.step a = some t) : t.Ordered := by
  cases a with
  | send => obtain ⟨-,-,rfl⟩ := step_send h; exact ordered.of_frame rfl id id
  | enqueue i =>
    obtain ⟨b,-,⟨-,rfl⟩ | ⟨opened,-,rfl⟩⟩ := step_enqueue h
    · exact ordered.of_frame rfl id id
    · obtain ⟨⟨taken,split,sub,whole⟩,drained,rst⟩ := ordered
      refine ⟨⟨taken,by simp [setSender,split],sub,whole⟩,fun fresh returned => ?_,rst⟩
      simp [(drained fresh returned).2] at opened
  | drain => obtain ⟨_,-,-,rfl⟩ := step_drain h; exact ordered.of_frame rfl id id
  | sendTimeout => obtain ⟨_,-,-,rfl⟩ := step_sendTimeout h; exact ordered.of_frame rfl id id
  | fire => obtain ⟨-,rfl⟩ := step_fire h; exact ordered.of_frame rfl id id
  | credit => rw [step_credit h]; exact ordered.of_frame rfl id id
  | receive =>
    obtain ⟨select,⟨p,rest,items,rfl⟩ | ⟨items,closed,rfl⟩⟩ := step_receive h
    all_goals
      obtain ⟨taken,split,sub,whole⟩ := ordered.taken
      rw [held_select select,List.append_nil] at sub whole
      have running := ordered.rst_nil (by simp [select])
    · exact ordered_onReceive taken (split.trans (congrArg (taken ++ ·) items)) select sub whole running
    · refine ⟨⟨taken,split,?_,fun fresh => ?_⟩,fun _ _ => ⟨items,closed⟩,.inl running⟩
      · rw [returned_held,List.append_nil]
        exact sub
      · rw [returned_held,List.append_nil]
        exact whole fresh
  | receiveFrom i =>
    obtain ⟨b,select,items,-,-,rfl⟩ := step_receiveFrom h
    obtain ⟨taken,split,sub,whole⟩ := ordered.taken
    rw [held_select select,List.append_nil] at sub whole
    exact ordered_onReceive taken (by simp [setSender,split,items]) select sub whole
      (ordered.rst_nil (by simp [select]))
  | closeRequested =>
    obtain ⟨v,-,⟨-,rfl⟩ | ⟨frame,window,rfl⟩⟩ := step_closeRequested h
    · exact ordered.of_frame rfl id id
    · exact ordered.of_window (.inl window) (.inl rfl) rfl rfl rfl rfl rfl
  | closeTimedOut =>
    obtain ⟨timedOut,loop⟩ := step_closeTimedOut h
    obtain ⟨taken,split,sub,-⟩ := ordered.taken
    have running : s.loop ≠ .done := by
      rcases loop with ⟨shape | ⟨_,shape⟩,-⟩ | ⟨⟨_,shape⟩,-⟩ | ⟨⟨_,shape⟩,-⟩ <;> simp [shape]
    have dropped : (dataOut s.out).Sublist (framesOf s.defaultHeader taken) :=
      (List.sublist_append_left _ _).trans sub
    rcases loop with ⟨-,rfl⟩ | ⟨-,rfl⟩ | ⟨-,rfl⟩
    · refine Ordered.of_timedOut timedOut split ?_ (.inl (ordered.rst_nil running))
      rw [returned_held,List.append_nil]
      exact dropped
    all_goals
      exact Ordered.of_timedOut timedOut split (by simpa [held] using dropped) (.inl (ordered.rst_nil running))
  | windowAvailable =>
    obtain ⟨frame,before,-,rfl⟩ := step_windowAvailable h
    exact ordered.of_window before (.inr rfl) rfl rfl rfl rfl rfl
  | writeOut =>
    obtain ⟨taken,split,sub,whole⟩ := ordered.taken
    rcases step_writeOut h with ⟨b,write,rfl⟩ | ⟨b,writeRST,rfl⟩
    · refine ⟨⟨taken,split,by simpa [held,write] using sub,fun fresh => by simpa [held,write] using whole fresh⟩,
        fun _ returned => by simp [LoopPc.returned] at returned,.inl ?_⟩
      simpa using ordered.rst_nil (by simp [write])
    · refine ⟨⟨taken,split,by simpa [held,writeRST] using sub,fun fresh => by simpa [held,writeRST] using whole fresh⟩,
        fun fresh _ => ordered.drained fresh (by simp [writeRST,LoopPc.returned]),
        .inr ⟨s.out,b,rfl,ordered.rst_nil (by simp [writeRST]),rfl⟩⟩
  | lock => obtain ⟨-,-,rfl⟩ := step_lock h; exact ordered.of_frame rfl (fun _ => rfl) id
  | sleep =>
    obtain ⟨-,rfl⟩ := step_sleep h
    exact ordered.of_frame rfl id (fun fresh => by simp at fresh)
  | close =>
    obtain ⟨-,⟨-,rfl⟩ | ⟨-,rfl⟩⟩ := step_close h <;> exact ordered.of_frame rfl id id
  | closeDrain => obtain ⟨-,-,rfl⟩ := step_closeDrain h; exact ordered.of_frame rfl id id
  | closeWait => obtain ⟨-,-,rfl⟩ := step_closeWait h; exact ordered.of_frame rfl id id

theorem ordered_new (defaultHeader : List UInt8) (windowSize callers : Nat) :
    (newSendBuffer defaultHeader windowSize callers).Ordered :=
  ⟨⟨[],rfl,by simp [held,newSendBuffer,dataOut,framesOf],fun _ => rfl⟩,
    fun _ returned => by simp [newSendBuffer,LoopPc.returned] at returned,.inl rfl⟩

/-- Over every run: the data frames written are the accepted frames in acceptance order, some
perhaps left out and none repeated; until `closeTimedOut` is closed they are a prefix of them,
and all of them once `sendLoop` has returned; at most one RST is written, and nothing after
it. -/
theorem written_frames_follow_accepted {defaultHeader : List UInt8} {windowSize callers : Nat}
    (reach : (newSendBuffer defaultHeader windowSize callers).Reaches s) :
    (dataOut s.out).Sublist (acceptedFrames s) ∧
      (s.closeTimedOut = false → dataOut s.out <+: acceptedFrames s) ∧
      (s.closeTimedOut = false → s.loop.returned → dataOut s.out = acceptedFrames s) ∧
      (rstOut s.out = [] ∨ ∃ pre b, s.out = pre ++ [.rst b] ∧ rstOut pre = [] ∧ s.loop = .done) := by
  have ordered := Reaches.induction (fun _ ordered h => step_ordered ordered h) (ordered_new _ _ _) reach
  obtain ⟨taken,split,sub,whole⟩ := ordered.taken
  have frames : acceptedFrames s =
      framesOf s.defaultHeader taken ++ framesOf s.defaultHeader s.queue.items := by
    rw [acceptedFrames,split,framesOf_append]
  refine ⟨?_,fun fresh => ?_,fun fresh returned => ?_,ordered.rstLast⟩
  · rw [frames]
    exact ((List.sublist_append_left _ _).trans sub).trans (List.sublist_append_left _ _)
  · rw [frames,← whole fresh,List.append_assoc]
    exact List.prefix_append _ _
  · obtain ⟨empty,-⟩ := ordered.drained fresh returned
    have whole := whole fresh
    rw [held_of_returned returned,List.append_nil] at whole
    simp [frames,whole,empty,framesOf]

/-- Window 1 and one sender: one frame, then `close(true)`; `sendLoop` writes the frame, finds
`in` closed and drained, and its deferred function writes the RST. -/
def rstAfterData : List SendAction :=
  [.send 0 (some [1]) .zero,.enqueue 0,.close true,.closeRequested,.lock,.receive,.windowAvailable,
    .writeOut,.receive,.writeOut]

theorem rst_after_data_follows_accepted :
    ∃ s, (newSendBuffer [0,0,0,1] 1 1).steps rstAfterData = some s ∧
      s.out = [.data [1,0,0,0,1],.rst [2,0,0,1]] ∧
      ((dataOut s.out).Sublist (acceptedFrames s) ∧
        (s.closeTimedOut = false → dataOut s.out <+: acceptedFrames s) ∧
        (s.closeTimedOut = false → s.loop.returned → dataOut s.out = acceptedFrames s) ∧
        (rstOut s.out = [] ∨ ∃ pre b, s.out = pre ++ [.rst b] ∧ rstOut pre = [] ∧ s.loop = .done)) :=
  ⟨_,rfl,rfl,@written_frames_follow_accepted _ [0,0,0,1] 1 1 (Reaches.of_runSteps rstAfterData rfl)⟩

/-- Window 2 and one sender: two frames are accepted and `close(false)` runs to the end of the
sleep, so `closeTimedOut` is closed. `sendLoop` takes the first frame and its `write` picks
`closeTimedOut`; the outer `select` then picks `in` and the second frame is written. -/
def droppedThenWritten : List SendAction :=
  [.send 0 (some [1]) .zero,.enqueue 0,.send 0 (some [2]) .zero,.enqueue 0,.close false,
    .closeRequested,.lock,.sleep,.receive,.windowAvailable,.closeTimedOut,.receive,.windowAvailable,
    .writeOut]

theorem write_skips_dropped_frame :
    ∃ s, (newSendBuffer [0,0,0,1] 2 1).steps droppedThenWritten = some s ∧
      acceptedFrames s = [[1,0,0,0,1],[2,0,0,0,1]] ∧ dataOut s.out = [[2,0,0,0,1]] ∧
      ¬ dataOut s.out <+: acceptedFrames s :=
  ⟨_,rfl,rfl,rfl,by decide⟩

/-- No pending close request asks for an RST, `sendLoop` is not set to write one, and none has
been written. -/
structure NoRst (s : SendBuffer) : Prop where
  requested : s.closeRequested = none ∨ s.closeRequested = some false
  flag : s.sendRST = false
  loop : ∀ b, s.loop ≠ .writeRST b
  out : rstOut s.out = []

theorem NoRst.of_loop (kept : s.NoRst) (requested : t.closeRequested = s.closeRequested)
    (flag : t.sendRST = s.sendRST) (out : t.out = s.out) (loop : ∀ b, t.loop ≠ .writeRST b) : t.NoRst :=
  ⟨requested ▸ kept.requested,flag ▸ kept.flag,loop,out ▸ kept.out⟩

def rstView (s : SendBuffer) := (s.closeRequested,s.sendRST,s.loop,s.out)

theorem NoRst.of_view (kept : s.NoRst) (same : t.rstView = s.rstView) : t.NoRst := by
  simp only [rstView,Prod.mk.injEq] at same
  obtain ⟨requested,flag,loop,out⟩ := same
  exact kept.of_loop requested flag out (loop ▸ kept.loop)

theorem NoRst.returned (kept : s.NoRst) : s.returned.NoRst :=
  kept.of_loop rfl rfl rfl fun _ => by simp [SendBuffer.returned,kept.flag]

theorem NoRst.onReceive (kept : s.NoRst) (p : Payload) : (s.onReceive p).NoRst := by
  cases p
  · exact kept.of_view rfl
  · exact kept.of_loop rfl rfl rfl fun _ => nofun

/-- Every step but `close(true)` keeps an RST from being asked for or written: `close(false)`
requests none, and the deferred function writes one only on the request `sendLoop` took. -/
theorem step_noRst (kept : s.NoRst) {a : SendAction} (plain : a ≠ .close true) (h : s.step a = some t) :
    t.NoRst := by
  cases a with
  | send => obtain ⟨-,-,rfl⟩ := step_send h; exact kept.of_view rfl
  | enqueue => obtain ⟨_,-,⟨-,rfl⟩ | ⟨-,-,rfl⟩⟩ := step_enqueue h <;> exact kept.of_view rfl
  | drain => obtain ⟨_,-,-,rfl⟩ := step_drain h; exact kept.of_view rfl
  | sendTimeout => obtain ⟨_,-,-,rfl⟩ := step_sendTimeout h; exact kept.of_view rfl
  | fire => obtain ⟨-,rfl⟩ := step_fire h; exact kept.of_view rfl
  | credit => rw [step_credit h]; exact kept.of_view rfl
  | receive =>
    obtain ⟨-,⟨p,_,-,rfl⟩ | ⟨-,-,rfl⟩⟩ := step_receive h
    · refine NoRst.onReceive ?_ p
      exact kept.of_view rfl
    · exact kept.returned
  | receiveFrom =>
    obtain ⟨b,-,-,-,-,rfl⟩ := step_receiveFrom h
    refine NoRst.onReceive ?_ b
    exact kept.of_view rfl
  | closeRequested =>
    obtain ⟨v,requested,taken⟩ := step_closeRequested h
    have false : v = false := by
      rcases kept.requested with none | some
      · exact nomatch requested.symm.trans none
      · exact Option.some.inj (requested.symm.trans some)
    rcases taken with ⟨-,rfl⟩ | ⟨_,-,rfl⟩
    · exact ⟨.inl rfl,false,kept.loop,kept.out⟩
    · exact ⟨.inl rfl,false,fun _ => nofun,kept.out⟩
  | closeTimedOut =>
    obtain ⟨-,⟨-,rfl⟩ | ⟨-,rfl⟩ | ⟨-,rfl⟩⟩ := step_closeTimedOut h
    · exact kept.returned
    · exact kept.of_loop rfl rfl rfl fun _ => nofun
    · exact kept.of_loop rfl rfl rfl fun _ => nofun
  | windowAvailable =>
    obtain ⟨_,-,-,rfl⟩ := step_windowAvailable h
    exact kept.of_loop rfl rfl rfl fun _ => nofun
  | writeOut =>
    rcases step_writeOut h with ⟨_,-,rfl⟩ | ⟨b,writeRST,-⟩
    · exact ⟨kept.requested,kept.flag,fun _ => nofun,by simp [kept.out]⟩
    · exact absurd writeRST (kept.loop b)
  | lock => obtain ⟨-,-,rfl⟩ := step_lock h; exact kept.of_view rfl
  | sleep => obtain ⟨-,rfl⟩ := step_sleep h; exact kept.of_view rfl
  | close v =>
    obtain rfl : v = false := by simpa using plain
    have requested : (s.closeRequested.or (some false) = none ∨ s.closeRequested.or (some false) = some false) := by
      rcases kept.requested with none | some <;> simp [*]
    obtain ⟨-,⟨-,rfl⟩ | ⟨-,rfl⟩⟩ := step_close h <;> exact ⟨requested,kept.flag,kept.loop,kept.out⟩
  | closeDrain => obtain ⟨-,-,rfl⟩ := step_closeDrain h; exact kept.of_view rfl
  | closeWait => obtain ⟨-,-,rfl⟩ := step_closeWait h; exact kept.of_view rfl

/-- Over every run of `send`, `close(false)` and `sendLoop`'s steps, whatever the order: no RST
frame is ever written. Only `close(true)` leads to one. -/
theorem rst_only_after_close_true {defaultHeader : List UInt8} {windowSize callers : Nat}
    {actions : List SendAction} (plain : SendAction.close true ∉ actions)
    (ran : (newSendBuffer defaultHeader windowSize callers).steps actions = some s) : rstOut s.out = [] := by
  have start : (newSendBuffer defaultHeader windowSize callers).NoRst := ⟨.inl rfl,rfl,fun _ => nofun,rfl⟩
  exact (@runSteps_induction _ _ step NoRst (· ≠ .close true) (fun _ plain kept h => step_noRst kept plain h) _ _
    actions start (fun _ mem same => plain (same ▸ mem)) ran).out

/-- Window 1 and one sender: one frame, then `close(false)`; `sendLoop` writes the frame, finds
`in` closed and drained, and returns without an RST. -/
def plainClose : List SendAction :=
  [.send 0 (some [1]) .zero,.enqueue 0,.close false,.closeRequested,.lock,.receive,.windowAvailable,
    .writeOut,.receive,.closeWait]

theorem plain_close_writes_no_rst :
    ∃ s, (newSendBuffer [0,0,0,1] 1 1).steps plainClose = some s ∧ s.out = [.data [1,0,0,0,1]] ∧
      s.loop = .done ∧ (SendAction.close true ∉ plainClose ∧ rstOut s.out = []) := by
  refine ⟨_,rfl,rfl,rfl,by decide,?_⟩
  exact @rst_only_after_close_true _ [0,0,0,1] 1 1 plainClose (by decide) rfl

end SendBuffer

end Lampshade

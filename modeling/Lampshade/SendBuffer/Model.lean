import Lampshade.Basic

/-! The send buffer of `sendbuffer.go` as a transition system over the goroutines that touch it:
the callers of `send`, one caller of `close`, `sendLoop`, the goroutine `signalClose` starts, the
write timer and the window. A step runs one goroutine from one blocking point to the next; the
label names the ready `select` case the runtime picked. -/
namespace Lampshade

/-- The `[]byte` handed to `send`; `none` is the nil slice. -/
abbrev Payload := Option (List UInt8)

def Payload.len : Payload → Nat
  | none => 0
  | some b => b.length

inductive SendResult
  | ok (n : Nat)
  | epipe
  | timeout
  deriving DecidableEq, Repr

/-- The write timer as `Stop` and `<-C` see it: running, expired with the value still in `C`,
or stopped or drained. -/
inductive TimerState
  | armed
  | fired
  | inactive
  deriving DecidableEq, Repr

/-- A goroutine calling `send`; its three blocked places hold `muClosing`'s read lock. -/
inductive SendPc
  | idle (last : Option SendResult)
  | enqueue (b : Payload)
  | drain (b : Payload)
  | timed (b : Payload)
  deriving DecidableEq, Repr

def SendPc.isIdle : SendPc → Bool
  | .idle _ => true
  | _ => false

inductive LoopPc
  | select
  | window (frame : List UInt8)
  | windowClosing (frame : List UInt8)
  | write (b : List UInt8)
  | writeRST (b : List UInt8)
  | done
  deriving DecidableEq, Repr

/-- The goroutine of `signalClose`: not started, waiting for `muClosing.Lock`, sleeping
`closeTimeout`, finished. -/
inductive SignalPc
  | idle
  | lock
  | sleep
  | done
  deriving DecidableEq, Repr

inductive ClosePc
  | idle
  | drain
  | wait
  deriving DecidableEq, Repr

/-- A frame `sendLoop` hands to `out`, tagged with the `write` that produced it. -/
inductive Outbound
  | data (b : List UInt8)
  | rst (b : List UInt8)
  deriving DecidableEq, Repr

/-- The fields of `sendBuffer` and of `sendLoop`'s closure, the goroutines' places, and the
history of `out` and of the accepted payloads. `queue` is the channel `in`; the window is
its credit, and `credited` the credit `add` has delivered. -/
structure SendBuffer where
  defaultHeader : List UInt8
  windowSize : Nat
  credit : Int
  queue : Chan Payload
  closeRequested : Option Bool
  closing : Bool
  writeTimer : TimerState
  closeTimedOut : Bool
  sendRST : Bool
  loop : LoopPc
  signal : SignalPc
  closer : ClosePc
  senders : List SendPc
  out : List Outbound
  accepted : List Payload
  credited : Int
  panicked : Bool
  deriving DecidableEq, Repr

/-- `newSendBuffer` with `callers` goroutines that may call `send`. -/
def newSendBuffer (defaultHeader : List UInt8) (windowSize callers : Nat) : SendBuffer :=
  { defaultHeader, windowSize
    credit := windowSize
    queue := .empty
    closeRequested := none
    closing := false
    writeTimer := .armed
    closeTimedOut := false
    sendRST := false
    loop := .select
    signal := .idle
    closer := .idle
    senders := List.replicate callers (.idle none)
    out := []
    accepted := []
    credited := 0
    panicked := false }

inductive SendAction
  | send (i : Nat) (b : Payload) (deadline : Deadline)
  | enqueue (i : Nat)
  | drain (i : Nat)
  | sendTimeout (i : Nat)
  | fire
  | credit (n : Int)
  | receive
  | receiveFrom (i : Nat)
  | closeRequested
  | closeTimedOut
  | windowAvailable
  | writeOut
  | lock
  | sleep
  | close (sendRST : Bool)
  | closeDrain
  | closeWait
  deriving DecidableEq, Repr

namespace SendBuffer

def setSender (s : SendBuffer) (i : Nat) (pc : SendPc) : SendBuffer :=
  { s with senders := s.senders.set i pc }

/-- `closeOnce.Do(go ...)`. -/
def signalClose (s : SendBuffer) : SendBuffer :=
  { s with signal := if s.signal = .idle then .lock else s.signal }

/-- `sendLoop` returns: the deferred function writes the RST when asked, then `closed.Done()`. -/
def returned (s : SendBuffer) : SendBuffer :=
  { s with loop := if s.sendRST then .writeRST (withFrameType s.defaultHeader frameTypeRST) else .done }

/-- The body of `case frame, open := <-buf.in` for a value: `window.sub(1)` for a frame. -/
def onReceive (s : SendBuffer) : Payload → SendBuffer
  | some frame => { s with credit := s.credit - 1, loop := .window frame }
  | none => s

/-- `send` after `RLock`: where `doSend` returns or first blocks. `Stop` then `Reset` leaves an
armed timer armed; on a fired or stopped timer `Stop` reports false and `<-C` follows. -/
def doSend (s : SendBuffer) (b : Payload) (deadline : Deadline) : SendPc :=
  if s.closing then .idle (some .epipe) else
  match deadline, s.writeTimer with
  | .zero, _ => .enqueue b
  | .past, _ => .idle (some .timeout)
  | .future, .armed => .timed b
  | .future, _ => .drain b

/-- `buf.in <- b` completes for a sender blocked on it; a closed channel panics. -/
def enqueue (s : SendBuffer) (i : Nat) : Option SendBuffer :=
  match s.senders[i]? with
  | some (.enqueue b) | some (.timed b) =>
    if s.queue.closed then some { s with panicked := true }
    else if s.queue.items.length < s.windowSize then
      some { s.setSender i (.idle (some (.ok b.len))) with
        queue := { s.queue with items := s.queue.items ++ [b] }, accepted := s.accepted ++ [b] }
    else none
  | _ => none

/-- `<-buf.writeTimer.C` in `doSend`, then `Reset`. -/
def drain (s : SendBuffer) (i : Nat) : Option SendBuffer :=
  match s.senders[i]?, s.writeTimer with
  | some (.drain b), .fired => some { s.setSender i (.timed b) with writeTimer := .armed }
  | _, _ => none

/-- `case <-buf.writeTimer.C` of `doSend`'s select. -/
def sendTimeout (s : SendBuffer) (i : Nat) : Option SendBuffer :=
  match s.senders[i]?, s.writeTimer with
  | some (.timed _), .fired => some { s.setSender i (.idle (some .timeout)) with writeTimer := .inactive }
  | _, _ => none

/-- `case frame, open := <-buf.in` on the buffer's head, or with `!open` on a closed, empty
channel. -/
def receive (s : SendBuffer) : Option SendBuffer :=
  match s.loop, s.queue.items with
  | .select, p :: rest => some ({ s with queue := { s.queue with items := rest } }.onReceive p)
  | .select, [] => if s.queue.closed then some s.returned else none
  | _, _ => none

/-- `case frame, open := <-buf.in` taking the value of a sender blocked on the empty channel. -/
def receiveFrom (s : SendBuffer) (i : Nat) : Option SendBuffer :=
  match s.loop, s.queue.items, s.queue.closed, s.senders[i]? with
  | .select, [], false, some (.enqueue b) | .select, [], false, some (.timed b) =>
    some ({ s.setSender i (.idle (some (.ok b.len))) with accepted := s.accepted ++ [b] }.onReceive b)
  | _, _, _, _ => none

/-- `case sendRST = <-buf.closeRequested` of the outer or of the window `select`. -/
def takeCloseRequest (s : SendBuffer) : Option SendBuffer :=
  match s.closeRequested, s.loop with
  | some v, .select => some { s with sendRST := v, closeRequested := none }.signalClose
  | some v, .window frame =>
    some { s with sendRST := v, closeRequested := none, loop := .windowClosing frame }.signalClose
  | _, _ => none

/-- `case <-closeTimedOut`: in the outer and the nested `select` the loop returns; in `write`
the frame is dropped. -/
def takeCloseTimedOut (s : SendBuffer) : Option SendBuffer :=
  if s.closeTimedOut then
    match s.loop with
    | .select | .windowClosing _ => some s.returned
    | .write _ => some { s with loop := .select }
    | .writeRST _ => some { s with loop := .done }
    | _ => none
  else none

/-- Modelled from the spec: `case <-windowAvailable`. The window's code is not in the source;
the spec's window is a signed credit, and the handle `sub(1)` returns is ready once the credit
is non-negative after the deduction. -/
def windowAvailable (s : SendBuffer) : Option SendBuffer :=
  match s.loop with
  | .window frame | .windowClosing frame =>
    if 0 ≤ s.credit then some { s with loop := .write (frame ++ s.defaultHeader) } else none
  | _ => none

/-- `case out <- b` of `write`. -/
def writeOut (s : SendBuffer) : Option SendBuffer :=
  match s.loop with
  | .write b => some { s with out := s.out ++ [.data b], loop := .select }
  | .writeRST b => some { s with out := s.out ++ [.rst b], loop := .done }
  | _ => none

/-- The `signalClose` goroutine takes the write lock once no sender holds the read lock, sets
`closing` and closes `in`. -/
def lock (s : SendBuffer) : Option SendBuffer :=
  if s.signal = .lock ∧ s.senders.all SendPc.isIdle then
    some { s with
      closing := true
      queue := { s.queue with closed := true }
      panicked := s.panicked || s.queue.closed
      signal := .sleep }
  else none

/-- `time.Sleep(closeTimeout)` ends and `close(closeTimedOut)` runs. -/
def sleep (s : SendBuffer) : Option SendBuffer :=
  if s.signal = .sleep then some { s with closeTimedOut := true, signal := .done } else none

/-- `close(sendRST)` up to its first blocking point: the non-blocking send on `closeRequested`,
then `Stop`, which reports true only on an armed timer. -/
def close (s : SendBuffer) (sendRST : Bool) : Option SendBuffer :=
  if s.closer = .idle then
    let s := { s with closeRequested := s.closeRequested.or (some sendRST) }
    match s.writeTimer with
    | .armed => some { s with writeTimer := .inactive, closer := .wait }
    | _ => some { s with closer := .drain }
  else none

/-- Modelled from the spec: `window.add(n)` adds `n` to the credit. -/
def windowAdd (s : SendBuffer) (n : Int) : SendBuffer :=
  { s with credit := s.credit + n, credited := s.credited + n }

/-- `<-buf.writeTimer.C` in `close`. -/
def closeDrain (s : SendBuffer) : Option SendBuffer :=
  if s.closer = .drain ∧ s.writeTimer = .fired then
    some { s with writeTimer := .inactive, closer := .wait }
  else none

/-- `buf.closed.Wait()` returns once `sendLoop` has run `closed.Done()`. -/
def closeWait (s : SendBuffer) : Option SendBuffer :=
  if s.closer = .wait ∧ s.loop = .done then some { s with closer := .idle } else none

/-- One step. `send` starts only while `muClosing.RLock()` is free, that is while the
`signalClose` goroutine is not waiting for the write lock. -/
def step (s : SendBuffer) : SendAction → Option SendBuffer
  | .send i b deadline =>
    match s.senders[i]? with
    | some (.idle _) => if s.signal = .lock then none else some (s.setSender i (s.doSend b deadline))
    | _ => none
  | .enqueue i => s.enqueue i
  | .drain i => s.drain i
  | .sendTimeout i => s.sendTimeout i
  | .fire => if s.writeTimer = .armed then some { s with writeTimer := .fired } else none
  | .credit n => some (s.windowAdd n)
  | .receive => s.receive
  | .receiveFrom i => s.receiveFrom i
  | .closeRequested => s.takeCloseRequest
  | .closeTimedOut => s.takeCloseTimedOut
  | .windowAvailable => s.windowAvailable
  | .writeOut => s.writeOut
  | .lock => s.lock
  | .sleep => s.sleep
  | .close sendRST => s.close sendRST
  | .closeDrain => s.closeDrain
  | .closeWait => s.closeWait

abbrev Reaches (s t : SendBuffer) : Prop := Lampshade.Reaches step s t

abbrev steps (s : SendBuffer) (actions : List SendAction) : Option SendBuffer := runSteps step s actions

/-- The data frames handed to `out`, in order. -/
def dataOut (out : List Outbound) : List (List UInt8) :=
  out.filterMap fun | .data b => some b | .rst _ => none

/-- The data frames payloads make: `append(frame, buf.defaultHeader...)` for every non-nil
payload, in order. -/
def framesOf (defaultHeader : List UInt8) (payloads : List Payload) : List (List UInt8) :=
  (payloads.filterMap id).map (· ++ defaultHeader)

def acceptedFrames (s : SendBuffer) : List (List UInt8) := framesOf s.defaultHeader s.accepted

end SendBuffer

end Lampshade

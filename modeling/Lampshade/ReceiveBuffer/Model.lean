import Lampshade.Basic

/-! The receive buffer of `sendbuffer.go` as a transition system: one goroutine calling `read`,
the goroutines calling `submit` and `close` under the read and the write side of `mx`. A step
runs one goroutine from one blocking point to the next; the copy at the head of `read`'s loop
touches only the reader's own fields and runs with the step that reaches it. -/
namespace Lampshade

inductive ReadErr
  | none
  | eof
  | timeout
  deriving DecidableEq, Repr

/-- What one `read` call returned: `b[0:n]`, `len(b)` and the error. -/
structure ReadResult where
  bytes : List UInt8
  size : Nat
  err : ReadErr
  deriving DecidableEq, Repr

/-- Where the reader is; `got` is `b[0:totalN]` for a destination of length `size`. -/
inductive ReadPc
  | idle
  | select (size : Nat) (got : List UInt8) (deadline : Deadline)
  | wait (size : Nat) (deadline : Deadline)
  | returning (size : Nat) (got : List UInt8) (err : ReadErr)
  deriving DecidableEq, Repr

def ReadPc.got : ReadPc → List UInt8
  | .select _ got _ | .returning _ got _ => got
  | _ => []

/-- A goroutine calling `submit`; `enqueue` holds the read lock on `buf.in <- frame`. -/
inductive SubmitPc
  | idle
  | enqueue (frame : List UInt8)
  deriving DecidableEq, Repr

/-- A goroutine calling `close`; `lock` waits for the write lock. -/
inductive CloserPc
  | idle
  | lock
  deriving DecidableEq, Repr

/-- The fields of `receiveBuffer`, the goroutines' places, and the history of the frames
`submit` enqueued and of what each `read` returned. `queue` is the channel `in`, `ack` what
went onto the session's ACK channel, `pool` the frames handed back with `pool.Put`. -/
structure ReceiveBuffer where
  defaultHeader : List UInt8
  windowSize : Nat
  ackInterval : Nat
  unacked : Nat
  queue : Chan (List UInt8)
  ack : List AckFrame
  poolable : Option (List UInt8)
  current : List UInt8
  closed : Bool
  pool : List (List UInt8)
  reader : ReadPc
  submitters : List SubmitPc
  closers : List CloserPc
  accepted : List (List UInt8)
  reads : List ReadResult
  panicked : Bool
  deriving DecidableEq, Repr

/-- `newReceiveBuffer`; `math.Ceil(float64(windowSize) / 10)` is the ceiling of `windowSize / 10`,
exact in `float64` for every window the one-byte `win` field carries. -/
def newReceiveBuffer (defaultHeader : List UInt8) (windowSize submitters closers : Nat) :
    ReceiveBuffer :=
  { defaultHeader, windowSize
    ackInterval := (windowSize + 9) / 10
    unacked := 0
    queue := .empty
    ack := []
    poolable := none
    current := []
    closed := false
    pool := []
    reader := .idle
    submitters := List.replicate submitters .idle
    closers := List.replicate closers .idle
    accepted := []
    reads := []
    panicked := false }

inductive ReceiveAction
  | read (size : Nat) (deadline : Deadline)
  | readFrame
  | readFrom (i : Nat)
  | readEOF
  | readDefault
  | readTimeout
  | readReturn
  | expire
  | submit (i : Nat) (frame : List UInt8)
  | enqueue (i : Nat)
  | close (j : Nat)
  | lock (j : Nat)
  deriving DecidableEq, Repr

namespace ReceiveBuffer

/-- The payload of a data frame: `frame[dataHeaderSize:]`, in bounds for every frame `submit`
admits. -/
def payload (frame : List UInt8) : List UInt8 := frame.drop dataHeaderSize

def payloads (frames : List (List UInt8)) : List UInt8 := (frames.map payload).flatten

/-- The head of `read`'s loop: `n := copy(b, buf.current)`, `buf.current = buf.current[n:]`,
`totalN += n`, and `return` when `n == len(b)`, that is unless `current` is the shorter. -/
def copy (r : ReceiveBuffer) (size : Nat) (got : List UInt8) (deadline : Deadline) : ReceiveBuffer :=
  let room := size - got.length
  { r with
    current := r.current.drop room
    reader := if r.current.length < room then .select size (got ++ r.current) deadline
      else .returning size (got ++ r.current.take room) .none }

def onFrame (r : ReceiveBuffer) (frame : List UInt8) : ReceiveBuffer :=
  { r with
    pool := r.pool ++ r.poolable.toList
    poolable := some frame
    current := payload frame
    unacked := r.unacked + 1 }

/-- A frame received at the reader's `select` or wait: `onFrame`, then `continue`. -/
def receiveFrame (r : ReceiveBuffer) (frame : List UInt8) : Option ReceiveBuffer :=
  match r.reader with
  | .select size got deadline => some ((r.onFrame frame).copy size got deadline)
  | .wait size deadline => some ((r.onFrame frame).copy size [] deadline)
  | _ => none

def setSubmitter (r : ReceiveBuffer) (i : Nat) (pc : SubmitPc) : ReceiveBuffer :=
  { r with submitters := r.submitters.set i pc }

def setCloser (r : ReceiveBuffer) (j : Nat) (pc : CloserPc) : ReceiveBuffer :=
  { r with closers := r.closers.set j pc }

/-- `read(b, deadline)` with `len(b) = size` starts with the loop's first copy. -/
def read (r : ReceiveBuffer) (size : Nat) (deadline : Deadline) : Option ReceiveBuffer :=
  if r.reader = .idle then some (r.copy size [] deadline) else none

/-- `case frame, open := <-buf.in` on the buffer's head. -/
def readFrame (r : ReceiveBuffer) : Option ReceiveBuffer :=
  match r.queue.items with
  | frame :: rest => { r with queue := { r.queue with items := rest } }.receiveFrame frame
  | [] => none

/-- `case frame, open := <-buf.in` taking the frame of a `submit` blocked on the empty channel. -/
def readFrom (r : ReceiveBuffer) (i : Nat) : Option ReceiveBuffer :=
  match r.queue.items, r.queue.closed, r.submitters[i]? with
  | [], false, some (.enqueue frame) =>
    { r.setSubmitter i .idle with accepted := r.accepted ++ [frame] }.receiveFrame frame
  | _, _, _ => none

/-- `!open && frame == nil`: the channel is closed and drained. -/
def readEOF (r : ReceiveBuffer) : Option ReceiveBuffer :=
  match r.reader, r.queue.items, r.queue.closed with
  | .select size got _, [], true => some { r with reader := .returning size got .eof }
  | .wait size _, [], true => some { r with reader := .returning size [] .eof }
  | _, _, _ => none

/-- The `default` case: nothing is ready on `in`. With bytes delivered `read` returns them;
otherwise a past deadline returns at once and any other deadline waits. -/
def readDefault (r : ReceiveBuffer) : Option ReceiveBuffer :=
  match r.reader, r.queue.items, r.queue.closed with
  | .select size got deadline, [], false =>
    if got.length > 0 then some { r with reader := .returning size got .none } else
    match deadline with
    | .past => some { r with reader := .returning size [] .none }
    | _ => some { r with reader := .wait size deadline }
  | _, _, _ => none

/-- `case <-timer.C`. Modelled from the spec: a zero deadline means no timeout. -/
def readTimeout (r : ReceiveBuffer) : Option ReceiveBuffer :=
  match r.reader with
  | .wait size .future => some { r with reader := .returning size [] .timeout }
  | _ => none

/-- The clock passes a deadline that was ahead when `read` was called: every later `default`
case, which reads `time.Now()` afresh, finds `deadline.Before(now)`. -/
def expire (r : ReceiveBuffer) : Option ReceiveBuffer :=
  match r.reader with
  | .select size got .future => some { r with reader := .select size got .past }
  | _ => none

/-- The deferred function: flush `unacked` as one ACK once it reaches `ackInterval`. -/
def readReturn (r : ReceiveBuffer) : Option ReceiveBuffer :=
  match r.reader with
  | .returning size got err =>
    let r := { r with reader := .idle, reads := r.reads ++ [⟨got,size,err⟩] }
    if r.unacked ≥ r.ackInterval then
      some { r with ack := r.ack ++ [ackWithFrames r.defaultHeader (int16 r.unacked)], unacked := 0 }
    else some r
  | _ => none

/-- `submit` after `RLock`: a closed buffer returns, an open one blocks on `buf.in <- frame`.
`RLock` waits while a `close` waits for the write lock. The session's reader submits whole data
frames, header, length and payload, so a frame carries at least `dataHeaderSize` bytes and
`onFrame`'s `frame[dataHeaderSize:]` is in bounds. -/
def submit (r : ReceiveBuffer) (i : Nat) (frame : List UInt8) : Option ReceiveBuffer :=
  if frame.length < dataHeaderSize then none else
  match r.submitters[i]? with
  | some .idle =>
    if r.closers.any (· = .lock) then none
    else if r.closed then some r else some (r.setSubmitter i (.enqueue frame))
  | _ => none

/-- `buf.in <- frame` completes, then `RUnlock`; a closed channel panics. -/
def enqueue (r : ReceiveBuffer) (i : Nat) : Option ReceiveBuffer :=
  match r.submitters[i]? with
  | some (.enqueue frame) =>
    if r.queue.closed then some { r with panicked := true }
    else if r.queue.items.length < r.windowSize then
      some { r.setSubmitter i .idle with
        queue := { r.queue with items := r.queue.items ++ [frame] }, accepted := r.accepted ++ [frame] }
    else none
  | _ => none

def close (r : ReceiveBuffer) (j : Nat) : Option ReceiveBuffer :=
  match r.closers[j]? with
  | some .idle => some (r.setCloser j .lock)
  | _ => none

/-- `close` holds the write lock once no `submit` holds the read lock, and closes `in` once. -/
def lock (r : ReceiveBuffer) (j : Nat) : Option ReceiveBuffer :=
  match r.closers[j]? with
  | some .lock =>
    if r.submitters.all (· = .idle) then
      some (if r.closed then r.setCloser j .idle else
        { r.setCloser j .idle with
          closed := true
          queue := { r.queue with closed := true }
          panicked := r.panicked || r.queue.closed })
    else none
  | _ => none

def step (r : ReceiveBuffer) : ReceiveAction → Option ReceiveBuffer
  | .read size deadline => r.read size deadline
  | .readFrame => r.readFrame
  | .readFrom i => r.readFrom i
  | .readEOF => r.readEOF
  | .readDefault => r.readDefault
  | .readTimeout => r.readTimeout
  | .readReturn => r.readReturn
  | .expire => r.expire
  | .submit i frame => r.submit i frame
  | .enqueue i => r.enqueue i
  | .close j => r.close j
  | .lock j => r.lock j

abbrev Reaches (r t : ReceiveBuffer) : Prop := Lampshade.Reaches step r t

abbrev steps (r : ReceiveBuffer) (actions : List ReceiveAction) : Option ReceiveBuffer := runSteps step r actions

/-- All the bytes `read` has copied out: the finished reads, then the one in progress. -/
def delivered (r : ReceiveBuffer) : List UInt8 := (r.reads.map (·.bytes)).flatten ++ r.reader.got

end ReceiveBuffer

end Lampshade

import Lampshade.Basic

/-! The dialer of `dialer.go`: one current session, the next stream id, and the mutex `mx`.
`dial` and `sessionClosed` run under `mx`, so a run is a sequence of calls; a call that finds
`mx` held blocks for good. Sessions are numbered in the order `startSession` creates them. -/
namespace Lampshade

/-- Modelled from the spec: the largest stream id, `2^24 - 1`. -/
def maxID : Nat := 2^24 - 1

/-- A stream as `dial` hands it out: its session and its id in that session. -/
structure Stream where
  session : Nat
  id : Nat
  deriving DecidableEq, Repr

/-- What the external calls of one `startSession` return: the connector `doDial` and the six
handshake steps, in the order the code makes them. Their values only reach the session. -/
structure Attempt where
  doDial : Except String Unit
  newAESSecret : Except String Unit
  sendIV : Except String Unit
  recvIV : Except String Unit
  buildClientInitMsg : Except String Unit
  decrypt : Except String Unit
  encrypt : Except String Unit
  deriving Repr

structure Dialer where
  maxStreamPerConn : Nat
  current : Option Nat
  id : Nat
  locked : Bool
  sessions : Nat
  deriving DecidableEq, Repr

def streamDialer (maxStreamsPerConn : Nat) : Dialer :=
  { maxStreamPerConn := if maxStreamsPerConn ≤ 0 ∨ maxStreamsPerConn > maxID then maxID
      else maxStreamsPerConn
    current := none
    id := 0
    locked := false
    sessions := 0 }

/-- `fmt.Errorf(message + "%v", err)` around one handshake step. -/
def wrap (message : String) (step : Except String Unit) : Except String Unit :=
  step.mapError (message ++ ·)

def handshake (a : Attempt) : Except String Unit := do
  wrap "Unable to create AES secret: " a.newAESSecret
  wrap "Unable to create send initialization vector: " a.sendIV
  wrap "Unable to create recv initialization vector: " a.recvIV
  wrap "Unable to generate client init message: " a.buildClientInitMsg
  wrap "Unable to initialize decryption cipher: " a.decrypt
  wrap "Unable to initialize encryption cipher: " a.encrypt

/-- Only the connector's failure unlocks `mx`; the handshake's failures return with it held. -/
def Dialer.startSession (d : Dialer) (a : Attempt) : Dialer × Except String Nat :=
  match a.doDial with
  | .error err => ({ d with locked := false },.error err)
  | .ok _ =>
    match handshake a with
    | .error err => (d,.error err)
    | .ok _ => ({ d with current := some d.sessions, sessions := d.sessions + 1 },.ok d.sessions)

/-- `dial`'s state after `mx.Lock()` and the exhaustion check. -/
def Dialer.reset (d : Dialer) : Dialer :=
  { d with locked := true, id := if d.id > d.maxStreamPerConn then 0 else d.id }

/-- `dial`'s tail once it has a session: take `id`, increment it, `mx.Unlock()`. -/
def Dialer.finish : Dialer × Except String Nat → Option (Dialer × Except String Stream)
  | (d,.error err) => some (d,.error err)
  | (d,.ok s) => some ({ d with id := (d.id + 1) % 2^32, locked := false },.ok ⟨s,d.id⟩)

/-- `dial` up to `getOrCreateStream`: `none` when `mx` is held, so that the call blocks. -/
def Dialer.dial (d : Dialer) (a : Attempt) : Option (Dialer × Except String Stream) :=
  if d.locked then none else
  Dialer.finish <| match d.current, decide (d.id > d.maxStreamPerConn) with
    | some s, false => (d.reset,.ok s)
    | _, _ => d.reset.startSession a

def Dialer.sessionClosed (d : Dialer) (s : Nat) : Option Dialer :=
  if d.locked then none else some (if d.current = some s then { d with current := none } else d)

inductive Event
  | dial (a : Attempt)
  | sessionClosed (s : Nat)
  deriving Repr

/-- The dialer after a sequence of calls, with what each `dial` returned; `none` once a call
blocks on `mx`. -/
def run (d : Dialer) : List Event → Option (Dialer × List (Except String Stream))
  | [] => some (d,[])
  | .dial a :: events => do
    let (d,result) ← d.dial a
    let (d,results) ← run d events
    pure (d,result :: results)
  | .sessionClosed s :: events => do
    let d ← d.sessionClosed s
    run d events

def successes (results : List (Except String Stream)) : List Stream :=
  results.filterMap fun | .ok stream => some stream | .error _ => none

def needsSession (d : Dialer) : Prop := d.current = none ∨ d.id > d.maxStreamPerConn

theorem dial_locked {d : Dialer} (held : d.locked = true) (a : Attempt) : d.dial a = none := by
  simp [Dialer.dial,held]

theorem dial_current {d : Dialer} {s : Nat} (free : d.locked = false) (current : d.current = some s)
    (fresh : d.id ≤ d.maxStreamPerConn) (a : Attempt) :
    d.dial a = Dialer.finish (d.reset,.ok s) := by
  simp [Dialer.dial,free,current,Nat.not_lt.mpr fresh]

theorem dial_start {d : Dialer} (free : d.locked = false) (needed : needsSession d) (a : Attempt) :
    d.dial a = Dialer.finish (d.reset.startSession a) := by
  unfold Dialer.dial
  rcases needed with none | exhausted
  · simp [free,none]
  · cases d.current <;> simp [free,exhausted]

theorem run_locked {d : Dialer} (held : d.locked = true) (event : Event) (events : List Event) :
    run d (event :: events) = none := by
  cases event <;> simp [run,dial_locked held,Dialer.sessionClosed,held]

theorem current_of_not_needsSession {d : Dialer} (needed : ¬ needsSession d) :
    ∃ s, d.current = some s ∧ d.id ≤ d.maxStreamPerConn := by
  unfold needsSession at needed
  cases hc : d.current <;> simp_all

theorem dial_free {d d' : Dialer} {a : Attempt} {result : Except String Stream}
    (returned : d.dial a = some (d',result)) : d.locked = false := by
  cases held : d.locked
  · rfl
  · simp [dial_locked held] at returned

def opened : Attempt := ⟨.ok (),.ok (),.ok (),.ok (),.ok (),.ok (),.ok ()⟩

def refused : Attempt := { opened with doDial := .error "connection refused" }

/-- Two streams on a session with `maxStreamsPerConn = 1`, a rotation whose connector fails,
then one more dial. -/
def failedRotation : List Event := [.dial opened,.dial opened,.dial refused,.dial opened]

theorem failed_rotation_repeats_stream :
    ∃ d results, run (streamDialer 1) failedRotation = some (d,results) ∧
      successes results = [⟨0,0⟩,⟨0,1⟩,⟨0,0⟩] ∧ ¬ (successes results).Nodup :=
  ⟨_,_,rfl,rfl,by decide⟩

def secretFails : Attempt := { opened with newAESSecret := .error "no entropy" }

theorem failed_secret_leaves_dialer_locked :
    (streamDialer 1).dial secretFails =
        some (⟨1,none,0,true,0⟩,.error "Unable to create AES secret: no entropy") ∧
      ∀ events, events ≠ [] → run ⟨1,none,0,true,0⟩ events = none := by
  refine ⟨rfl,?_⟩
  rintro (_ | ⟨event,events⟩) nonempty
  · exact absurd rfl nonempty
  · exact run_locked rfl event events

end Lampshade

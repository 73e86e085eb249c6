import Lampshade.Dialer

/-! The stream ids `dial` hands out over a run of calls. `id` counts up from where the
exhaustion check left it, a session is dropped for a new one only once `id` has passed
`maxStreamPerConn`, and `sessionClosed` leaves `id` alone: a session serves ids `0` to
`maxStreamPerConn`, one more than the cap, a session started after a close goes on from the
old session's `id`, and `id` never passes `maxStreamPerConn + 1`. -/
namespace Lampshade

variable {d d' : Dialer} {a : Attempt}

theorem maxID_succ_lt : maxID + 1 < 2^32 := by decide

@[simp] theorem reset_maxStreamPerConn (d : Dialer) : d.reset.maxStreamPerConn = d.maxStreamPerConn := rfl

theorem reset_id (d : Dialer) : d.reset.id = if d.id > d.maxStreamPerConn then 0 else d.id := rfl

@[simp] theorem streamDialer_id (N : Nat) : (streamDialer N).id = 0 := rfl
@[simp] theorem streamDialer_current (N : Nat) : (streamDialer N).current = none := rfl
@[simp] theorem streamDialer_locked (N : Nat) : (streamDialer N).locked = false := rfl
@[simp] theorem streamDialer_sessions (N : Nat) : (streamDialer N).sessions = 0 := rfl

/-- What a `dial` that returns leaves: the cap as it was; a stream takes the id the exhaustion
check left and moves `id` one past it, an error leaves `id` at that value. -/
theorem dial_returns {result : Except String Stream} (returned : d.dial a = some (d',result)) :
    d'.maxStreamPerConn = d.maxStreamPerConn ∧
      (∀ stream, result = .ok stream → stream.id = d.reset.id ∧ d'.id = (d.reset.id + 1) % 2^32) ∧
      ∀ err, result = .error err → d'.id = d.reset.id := by
  have free := dial_free returned
  by_cases needed : needsSession d
  · rw [dial_start free needed] at returned
    unfold Dialer.startSession at returned
    cases hdial : a.doDial <;> cases hshake : handshake a <;>
      simp only [hdial,hshake,Dialer.finish,Option.some.injEq,Prod.mk.injEq] at returned <;>
      obtain ⟨rfl,rfl⟩ := returned <;> simp [Dialer.reset]
  · obtain ⟨s,current,fresh⟩ := current_of_not_needsSession needed
    rw [dial_current free current fresh] at returned
    simp only [Dialer.finish,Option.some.injEq,Prod.mk.injEq] at returned
    obtain ⟨rfl,rfl⟩ := returned
    simp [Dialer.reset]

theorem sessionClosed_some {s : Nat} (closed : d.sessionClosed s = some d') :
    d'.id = d.id ∧ d'.maxStreamPerConn = d.maxStreamPerConn := by
  unfold Dialer.sessionClosed at closed
  split at closed
  · cases closed
  · cases Option.some.inj closed
    split <;> exact ⟨rfl,rfl⟩

theorem run_dial {events : List Event} {results : List (Except String Stream)}
    (returned : run d (.dial a :: events) = some (d',results)) :
    ∃ d₁ result rest, d.dial a = some (d₁,result) ∧ run d₁ events = some (d',rest) ∧ results = result :: rest := by
  simp only [run,Option.bind_eq_bind,Option.bind_eq_some] at returned
  obtain ⟨⟨d₁,result⟩,dialed,⟨d₂,rest⟩,ran,returned⟩ := returned
  cases returned
  exact ⟨d₁,result,rest,dialed,ran,rfl⟩

theorem run_sessionClosed {s : Nat} {events : List Event} {results : List (Except String Stream)}
    (returned : run d (.sessionClosed s :: events) = some (d',results)) :
    ∃ d₁, d.sessionClosed s = some d₁ ∧ run d₁ events = some (d',results) := by
  simpa only [run,Option.bind_eq_bind,Option.bind_eq_some] using returned

theorem run_append {events more : List Event} {results : List (Except String Stream)}
    (returned : run d events = some (d',results)) :
    run d (events ++ more) = (run d' more).map fun (d'',rest) => (d'',results ++ rest) := by
  induction events generalizing d results with
  | nil =>
    cases returned
    rw [List.nil_append]
    cases run d' more <;> rfl
  | cons event events ih =>
    cases event with
    | dial a =>
      obtain ⟨d₁,result,rest,dialed,ran,rfl⟩ := run_dial returned
      rw [List.cons_append]
      simp only [run,dialed,ih ran,Option.bind_eq_bind,Option.some_bind]
      cases run d' more <;> rfl
    | sessionClosed s =>
      obtain ⟨d₁,closed,ran⟩ := run_sessionClosed returned
      rw [List.cons_append]
      simp only [run,closed,ih ran,Option.bind_eq_bind,Option.some_bind]

theorem dial_starts_session (free : d.locked = false) (needed : d.current = none) :
    d.dial opened =
      some ({ d with current := some d.sessions, sessions := d.sessions + 1, id := (d.reset.id + 1) % 2^32 },
        .ok ⟨d.sessions,d.reset.id⟩) := by
  rw [dial_start free (.inl needed)]
  cases d
  simp_all [Dialer.startSession,Dialer.finish,Dialer.reset]
  rfl

theorem dial_on_current {s : Nat} (free : d.locked = false) (current : d.current = some s)
    (fresh : d.id ≤ d.maxStreamPerConn) (a : Attempt) :
    d.dial a = some ({ d with id := (d.id + 1) % 2^32 },.ok ⟨s,d.id⟩) := by
  rw [dial_current free current fresh]
  cases d
  simp_all [Dialer.finish,Dialer.reset,Nat.not_lt.mpr fresh]

/-- Dials on a current session while `id` has not passed the cap: each takes the next id. -/
theorem run_dials_on_current {s : Nat} (free : d.locked = false) (current : d.current = some s)
    (capped : d.maxStreamPerConn ≤ maxID) (m : Nat) (room : d.id + m ≤ d.maxStreamPerConn + 1) :
    run d (List.replicate m (.dial a)) =
      some ({ d with id := d.id + m },(List.range' d.id m).map fun i => .ok ⟨s,i⟩) := by
  induction m generalizing d with
  | zero => rfl
  | succ m ih =>
    have exact : (d.id + 1) % 2^32 = d.id + 1 := Nat.mod_eq_of_lt (by have := maxID_succ_lt; omega)
    have rest := @ih { d with id := d.id + 1 } free current capped (by dsimp only; omega)
    dsimp only at rest
    simp only [List.replicate_succ,run,dial_on_current free current (by omega),exact,Option.bind_eq_bind,
      Option.some_bind,rest,List.range'_succ,List.map_cons,Nat.add_right_comm _ 1 m,Nat.add_assoc]
    rfl

theorem streamDialer_cap {N : Nat} (positive : 1 ≤ N) (capped : N ≤ maxID) :
    (streamDialer N).maxStreamPerConn = N := by
  simp only [streamDialer]
  split <;> omega

/-- The first `k` dials of a new dialer, for `k` up to one past the cap, all go to session `0`
with ids `0` to `k - 1`. -/
theorem run_fresh_dials {N k : Nat} (positive : 1 ≤ N) (capped : N ≤ maxID) (started : 1 ≤ k)
    (room : k ≤ N + 1) :
    run (streamDialer N) (List.replicate k (.dial opened)) =
      some ({ streamDialer N with current := some 0, sessions := 1, id := k },
        (List.range k).map fun i => .ok ⟨0,i⟩) := by
  obtain ⟨m,rfl⟩ : ∃ m, k = m + 1 := ⟨k - 1,by omega⟩
  have cap := streamDialer_cap positive capped
  have first := @dial_starts_session (streamDialer N) rfl rfl
  have rest := @run_dials_on_current { streamDialer N with current := some 0, sessions := 1, id := 1 } opened 0
    rfl rfl (by dsimp only; omega) m (by dsimp only; omega)
  simp only [reset_id,streamDialer_id,streamDialer_sessions,ite_self,Nat.zero_add,
    Nat.mod_eq_of_lt (by decide : 1 < 2^32)] at first
  dsimp only at rest
  simp only [List.replicate_succ,run,first,Option.bind_eq_bind,Option.some_bind,rest,List.range_eq_range',
    List.range'_succ,Nat.add_comm 1 m,Nat.zero_add]
  rfl

/-- With `maxStreamsPerConn = N`, the first `N + 1` dials all go to session `0`, with ids `0` to
`N`; only then does `dial` need a new session. -/
theorem session_serves_one_past_cap {N : Nat} (positive : 1 ≤ N) (below : N < maxID) :
    ∃ d, run (streamDialer N) (List.replicate (N + 1) (.dial opened)) =
        some (d,(List.range (N + 1)).map fun i => .ok ⟨0,i⟩) ∧
      d.current = some 0 ∧ needsSession d := by
  refine ⟨_,run_fresh_dials positive below.le (by omega) le_rfl,rfl,.inr ?_⟩
  show N + 1 > (streamDialer N).maxStreamPerConn
  rw [streamDialer_cap positive below.le]
  omega

theorem two_streams_per_conn_serve_three :
    (1 ≤ 2 ∧ 2 < maxID) ∧ ∃ d, run (streamDialer 2) (List.replicate 3 (.dial opened)) =
        some (d,[.ok ⟨0,0⟩,.ok ⟨0,1⟩,.ok ⟨0,2⟩]) ∧ d.current = some 0 ∧ needsSession d :=
  ⟨⟨by decide,by decide⟩,@session_serves_one_past_cap 2 (by decide) (by decide)⟩

/-- A session closed after `k` dials, `k` at most the cap, leaves `id` at `k`: the dial that
starts the next session hands out id `k`, not `0`. -/
theorem closed_session_passes_on_id {N k : Nat} (started : 1 ≤ k) (within : k ≤ N) (capped : N ≤ maxID) :
    ∃ d, run (streamDialer N) (List.replicate k (.dial opened) ++ [.sessionClosed 0,.dial opened]) =
      some (d,(List.range k).map (fun i => .ok ⟨0,i⟩) ++ [.ok ⟨1,k⟩]) := by
  have closed : ({ streamDialer N with current := some 0, sessions := 1, id := k } : Dialer).sessionClosed 0 =
      some { streamDialer N with sessions := 1, id := k } := rfl
  have fresh : ({ streamDialer N with sessions := 1, id := k } : Dialer).reset.id = k := by
    simp only [reset_id,streamDialer_cap (by omega) capped,gt_iff_lt,Nat.not_lt.mpr within,if_false]
  have dialed := @dial_starts_session { streamDialer N with sessions := 1, id := k } rfl rfl
  rw [fresh] at dialed
  rw [run_append (run_fresh_dials (by omega) capped started (by omega))]
  simp only [run,closed,dialed,Option.bind_eq_bind,Option.some_bind]
  exact ⟨_,rfl⟩

theorem closed_after_one_dial_restarts_at_one :
    (1 ≤ 1 ∧ 1 ≤ 2 ∧ 2 ≤ maxID) ∧
      ∃ d, run (streamDialer 2) [.dial opened,.sessionClosed 0,.dial opened] = some (d,[.ok ⟨0,0⟩,.ok ⟨1,1⟩]) :=
  ⟨⟨le_rfl,by decide,by decide⟩,@closed_session_passes_on_id 2 1 le_rfl (by decide) (by decide)⟩

@[simp] theorem successes_nil : successes [] = [] := rfl

@[simp] theorem successes_ok (stream : Stream) (results : List (Except String Stream)) :
    successes (.ok stream :: results) = stream :: successes results := rfl

@[simp] theorem successes_error (err : String) (results : List (Except String Stream)) :
    successes (.error err :: results) = successes results := rfl

/-- The bound the exhaustion check keeps `id` within. -/
structure Dialer.IdsFit (d : Dialer) : Prop where
  capped : d.maxStreamPerConn ≤ maxID
  next : d.id ≤ d.maxStreamPerConn + 1

theorem Dialer.IdsFit.reset_le (fits : d.IdsFit) : d.reset.id ≤ d.maxStreamPerConn := by
  have := fits.next
  rw [reset_id]
  split <;> omega

theorem Dialer.IdsFit.increment (fits : d.IdsFit) : (d.reset.id + 1) % 2^32 = d.reset.id + 1 :=
  Nat.mod_eq_of_lt (by have := fits.reset_le; have := fits.capped; have := maxID_succ_lt; omega)

theorem dial_fits (fits : d.IdsFit) {result : Except String Stream} (returned : d.dial a = some (d',result)) :
    d'.IdsFit ∧ d'.maxStreamPerConn = d.maxStreamPerConn ∧
      ∀ stream, result = .ok stream → stream.id ≤ d.maxStreamPerConn := by
  have below := fits.reset_le
  obtain ⟨cap,handed,failed⟩ := dial_returns returned
  refine ⟨⟨cap ▸ fits.capped,?_⟩,cap,fun stream ok => (handed stream ok).1 ▸ below⟩
  rw [cap]
  cases result with
  | ok stream => rw [(handed stream rfl).2,fits.increment]; omega
  | error err => rw [failed err rfl]; omega

theorem run_fits (fits : d.IdsFit) {events : List Event} {results : List (Except String Stream)}
    (returned : run d events = some (d',results)) :
    d'.IdsFit ∧ d'.maxStreamPerConn = d.maxStreamPerConn ∧ ∀ stream ∈ successes results, stream.id ≤ d.maxStreamPerConn := by
  induction events generalizing d results with
  | nil =>
    cases returned
    exact ⟨fits,rfl,by simp⟩
  | cons event events ih =>
    cases event with
    | dial a =>
      obtain ⟨d₁,result,rest,dialed,ran,rfl⟩ := run_dial returned
      obtain ⟨fits₁,cap₁,handed⟩ := dial_fits fits dialed
      obtain ⟨fits',cap',later⟩ := ih fits₁ ran
      refine ⟨fits',cap'.trans cap₁,fun stream mem => ?_⟩
      cases result with
      | ok first =>
        rcases List.mem_cons.mp (by simpa using mem) with rfl | mem
        · exact handed _ rfl
        · exact cap₁ ▸ later stream mem
      | error err => exact cap₁ ▸ later stream (by simpa using mem)
    | sessionClosed s =>
      obtain ⟨d₁,closed,ran⟩ := run_sessionClosed returned
      obtain ⟨id,cap⟩ := sessionClosed_some closed
      obtain ⟨fits',cap',later⟩ := ih ⟨cap ▸ fits.capped,by rw [id,cap]; exact fits.next⟩ ran
      exact ⟨fits',cap'.trans cap,fun stream mem => cap ▸ later stream mem⟩

theorem streamDialer_fits (N : Nat) : (streamDialer N).IdsFit := by
  refine ⟨?_,by simp⟩
  simp only [streamDialer]
  split <;> omega

/-- Over every run of `dial` and `sessionClosed`, whatever the connector and the handshake
return: `id` never passes `maxStreamPerConn + 1`, the cap is at most `maxID`, and every stream
id handed out is at most the cap, so that `d.id++` after it does not wrap and the id fits the
three bytes of the stream id field. -/
theorem stream_ids_fit_header (N : Nat) {events : List Event} {d : Dialer}
    {results : List (Except String Stream)} (returned : run (streamDialer N) events = some (d,results)) :
    d.id ≤ d.maxStreamPerConn + 1 ∧ d.maxStreamPerConn ≤ maxID ∧
      ∀ stream ∈ successes results, stream.id ≤ d.maxStreamPerConn ∧ (stream.id + 1) % 2^32 = stream.id + 1 ∧
        stream.id < 2^24 := by
  obtain ⟨⟨capped,next⟩,cap,handed⟩ := run_fits (streamDialer_fits N) returned
  refine ⟨next,capped,fun stream mem => ?_⟩
  have bound := cap ▸ handed stream mem
  have wide := maxID_succ_lt
  exact ⟨bound,Nat.mod_eq_of_lt (by omega),by unfold maxID at capped; omega⟩

/-- Two streams on session `0` with the cap at `1`, a rotation whose connector fails, a dial
back on session `0`, its close, and a dial on a new session. -/
def idRun : List Event :=
  [.dial opened,.dial opened,.dial refused,.dial opened,.sessionClosed 0,.dial opened]

theorem id_run_fits_header :
    ∃ d results, run (streamDialer 1) idRun = some (d,results) ∧
      successes results = [⟨0,0⟩,⟨0,1⟩,⟨0,0⟩,⟨1,1⟩] ∧
      (d.id ≤ d.maxStreamPerConn + 1 ∧ d.maxStreamPerConn ≤ maxID ∧
        ∀ stream ∈ successes results, stream.id ≤ d.maxStreamPerConn ∧ (stream.id + 1) % 2^32 = stream.id + 1 ∧
          stream.id < 2^24) :=
  ⟨_,_,rfl,rfl,@stream_ids_fit_header 1 idRun _ _ rfl⟩

end Lampshade

import Mathlib.Data.List.Nodup
import Lampshade.Dialer.Streams

/-! Runs of `dial` and `sessionClosed` calls. The streams handed out are pairwise distinct,
whatever the connector and the handshake return and wherever sessions close, as long as no
rotation away from an exhausted session fails at the connector. Such a failure is the one way
back to a used stream: `dial` has already reset `id` to `0`, and `startSession` returns with the
old session still current. A session that `sessionClosed` has reported never gets another
stream. And while no handshake step fails after its connector succeeds, every call returns. -/
namespace Lampshade

variable {d d' : Dialer} {a : Attempt}

/-- A `dial` that has to leave an exhausted current session and whose connector fails. -/
def Dialer.rotationFails (d : Dialer) (a : Attempt) : Bool :=
  d.current.isSome && decide (d.id > d.maxStreamPerConn) && !a.doDial.toBool

/-- Whether some `dial` of a run is a failed rotation, the calls followed as `run` makes them. -/
def rotationFailsIn : Dialer → List Event → Bool
  | _, [] => false
  | d, .dial a :: events =>
    d.rotationFails a || match d.dial a with
      | some (d',_) => rotationFailsIn d' events
      | none => false
  | d, .sessionClosed s :: events =>
    match d.sessionClosed s with
    | some d' => rotationFailsIn d' events
    | none => false

/-- The streams handed out so far are distinct and on sessions already started, and while `mx`
is free every one of them on the current session lies below `id`. -/
structure Dialer.Issued (d : Dialer) (issued : List Stream) : Prop where
  distinct : issued.Nodup
  started : ∀ stream ∈ issued, stream.session < d.sessions
  current : ∀ s, d.current = some s → s < d.sessions
  below : d.locked = false → ∀ stream ∈ issued, d.current = some stream.session → stream.id < d.id
  fits : d.IdsFit

theorem nodup_append_fresh {issued : List Stream} {stream : Stream} (distinct : issued.Nodup)
    (fresh : stream ∉ issued) : (issued ++ [stream]).Nodup :=
  distinct.append (List.nodup_singleton _) (List.disjoint_singleton.mpr fresh)

theorem Dialer.Issued.failed {issued : List Stream} (known : d.Issued issued) (fits : d'.IdsFit)
    (sessions : d'.sessions = d.sessions) (current : d'.current = d.current)
    (free : d'.locked = false → d.current = none) : d'.Issued issued := by
  refine ⟨known.distinct,sessions ▸ known.started,sessions ▸ current ▸ known.current,
    fun unlocked stream _ here => ?_,fits⟩
  rw [current,free unlocked] at here
  cases here

theorem Dialer.Issued.on_current {issued : List Stream} {s : Nat} (known : d.Issued issued)
    (free : d.locked = false) (current : d.current = some s) (fresh : d.id ≤ d.maxStreamPerConn) :
    ({ d with id := (d.id + 1) % 2^32 } : Dialer).Issued (issued ++ [⟨s,d.id⟩]) := by
  have fits := known.fits
  have next : (d.id + 1) % 2^32 = d.id + 1 := by
    have := fits.increment
    rwa [reset_id,if_neg (Nat.not_lt.mpr fresh)] at this
  refine ⟨nodup_append_fresh known.distinct fun mem => Nat.lt_irrefl _ (known.below free _ mem current),
    List.forall_mem_append.mpr ⟨known.started,List.forall_mem_singleton.mpr (known.current s current)⟩,known.current,
    fun _ => List.forall_mem_append.mpr ⟨fun stream mem here => ?_,
      List.forall_mem_singleton.mpr fun _ => Nat.lt_of_lt_of_eq (Nat.lt_succ_self _) next.symm⟩,
    ⟨fits.capped,by dsimp only; omega⟩⟩
  exact Nat.lt_of_lt_of_eq (Nat.lt_succ_of_lt (known.below free stream mem here)) next.symm

theorem Dialer.Issued.started_session {issued : List Stream} (known : d.Issued issued) :
    ({ d.reset with current := some d.sessions, sessions := d.sessions + 1, id := (d.reset.id + 1) % 2^32, locked := false } :
      Dialer).Issued (issued ++ [⟨d.sessions,d.reset.id⟩]) := by
  have fits := known.fits
  have below := fits.reset_le
  refine ⟨nodup_append_fresh known.distinct fun mem => Nat.lt_irrefl _ (known.started _ mem),
    List.forall_mem_append.mpr ⟨fun stream mem => Nat.lt_succ_of_lt (known.started stream mem),
      List.forall_mem_singleton.mpr (Nat.lt_succ_self _)⟩,
    fun s current => ?_,fun _ => List.forall_mem_append.mpr ⟨fun stream mem here => ?_,
      List.forall_mem_singleton.mpr fun _ => Nat.lt_of_lt_of_eq (Nat.lt_succ_self _) fits.increment.symm⟩,
    ⟨fits.capped,?_⟩⟩
  · cases current
    exact Nat.lt_succ_self _
  · exact absurd (Option.some.inj here) (Nat.ne_of_gt (known.started stream mem))
  · dsimp only
    rw [fits.increment]
    simp only [reset_maxStreamPerConn]
    omega

/-- What a `dial` that returns can do: take the next id on the current session; or, needing a
session, fail at the connector and free `mx`, fail in the handshake with `mx` held, or start a
session and take the id the exhaustion check left. -/
theorem dial_cases {result : Except String Stream} (returned : d.dial a = some (d',result)) :
    (∃ s, d.current = some s ∧ d.id ≤ d.maxStreamPerConn ∧ d' = { d with id := (d.id + 1) % 2^32 } ∧
        result = .ok ⟨s,d.id⟩) ∨
      needsSession d ∧
        ((∃ err, a.doDial = .error err ∧ d' = { d.reset with locked := false } ∧ result = .error err) ∨
          (∃ conn err, a.doDial = .ok conn ∧ handshake a = .error err ∧ d' = d.reset ∧ result = .error err) ∨
          handshake a = .ok () ∧
            d' = { d.reset with current := some d.sessions, sessions := d.sessions + 1, id := (d.reset.id + 1) % 2^32, locked := false } ∧
            result = .ok ⟨d.sessions,d.reset.id⟩) := by
  have free := dial_free returned
  by_cases needed : needsSession d
  · rw [dial_start free needed] at returned
    unfold Dialer.startSession at returned
    refine .inr ⟨needed,?_⟩
    cases hdial : a.doDial with
    | error err =>
      simp only [hdial,Dialer.finish,Option.some.injEq,Prod.mk.injEq] at returned
      exact .inl ⟨err,rfl,returned.1.symm,returned.2.symm⟩
    | ok conn =>
      cases hshake : handshake a <;>
        simp only [hdial,hshake,Dialer.finish,Option.some.injEq,Prod.mk.injEq] at returned
      · exact .inr (.inl ⟨conn,_,rfl,rfl,returned.1.symm,returned.2.symm⟩)
      · exact .inr (.inr ⟨rfl,returned.1.symm,returned.2.symm⟩)
  · obtain ⟨s,current,fresh⟩ := current_of_not_needsSession needed
    rw [dial_on_current free current fresh] at returned
    simp only [Option.some.injEq,Prod.mk.injEq] at returned
    exact .inl ⟨s,current,fresh,returned.1.symm,returned.2.symm⟩

theorem dial_issued {issued : List Stream} (known : d.Issued issued) (steady : d.rotationFails a = false)
    {result : Except String Stream} (returned : d.dial a = some (d',result)) :
    d'.Issued (issued ++ successes [result]) := by
  have fits := (dial_fits known.fits returned).1
  have free := dial_free returned
  rcases dial_cases returned with ⟨s,current,fresh,rfl,rfl⟩ | ⟨needed,⟨err,hdial,rfl,rfl⟩ | ⟨_,_,-,-,rfl,rfl⟩ | ⟨-,rfl,rfl⟩⟩
  · rw [successes_ok,successes_nil]
    exact known.on_current free current fresh
  · rw [successes_error,successes_nil,List.append_nil]
    refine known.failed fits rfl rfl fun _ => ?_
    rcases needed with none | exhausted
    · exact none
    · cases current : d.current
      · rfl
      · simp [Dialer.rotationFails,current,exhausted,hdial,Except.toBool] at steady
  · rw [successes_error,successes_nil,List.append_nil]
    exact known.failed fits rfl rfl fun locked => by simp [Dialer.reset] at locked
  · rw [successes_ok,successes_nil]
    exact known.started_session

theorem sessionClosed_cases {s : Nat} (closed : d.sessionClosed s = some d') :
    d.locked = false ∧ d' = if d.current = some s then { d with current := none } else d := by
  unfold Dialer.sessionClosed at closed
  split at closed
  · cases closed
  · next unlocked => exact ⟨Bool.eq_false_iff.mpr unlocked,(Option.some.inj closed).symm⟩

theorem sessionClosed_issued {issued : List Stream} {s : Nat} (known : d.Issued issued)
    (closed : d.sessionClosed s = some d') : d'.Issued issued := by
  obtain ⟨-,rfl⟩ := sessionClosed_cases closed
  split
  · exact ⟨known.distinct,known.started,(fun _ absent => nomatch absent),(fun _ _ _ absent => nomatch absent),
      ⟨known.fits.capped,known.fits.next⟩⟩
  · exact known

theorem run_issued {issued : List Stream} {events : List Event} {results : List (Except String Stream)}
    (known : d.Issued issued) (steady : rotationFailsIn d events = false) (returned : run d events = some (d',results)) :
    d'.Issued (issued ++ successes results) := by
  induction events generalizing d issued results with
  | nil =>
    cases returned
    simpa using known
  | cons event events ih =>
    cases event with
    | dial a =>
      obtain ⟨d₁,result,rest,dialed,ran,rfl⟩ := run_dial returned
      simp only [rotationFailsIn,dialed,Bool.or_eq_false_iff] at steady
      have later := ih (dial_issued known steady.1 dialed) steady.2 ran
      cases result <;> simpa using later
    | sessionClosed s =>
      obtain ⟨d₁,closed,ran⟩ := run_sessionClosed returned
      simp only [rotationFailsIn,closed] at steady
      exact ih (sessionClosed_issued known closed) steady ran

/-- Over every run of `dial` and `sessionClosed` from a new dialer in which no rotation fails at
the connector, whatever the handshake returns: no stream is handed out twice. -/
theorem streams_distinct_without_failed_rotation (N : Nat) {events : List Event} {d : Dialer}
    {results : List (Except String Stream)} (steady : rotationFailsIn (streamDialer N) events = false)
    (returned : run (streamDialer N) events = some (d,results)) : (successes results).Nodup := by
  have start : (streamDialer N).Issued [] :=
    ⟨List.nodup_nil,by simp,(fun _ absent => nomatch absent),(fun _ _ _ absent => nomatch absent),streamDialer_fits N⟩
  simpa using (run_issued start steady returned).distinct

/-- Cap `1`: session `0` serves ids `0` and `1`, the rotation succeeds, session `1` is closed, a
dial with no session current meets a failing connector, and the next dial starts session `2`. -/
def distinctRun : List Event :=
  [.dial opened,.dial opened,.dial opened,.sessionClosed 1,.dial refused,.dial opened]

theorem distinct_run_hands_out_distinct_streams :
    rotationFailsIn (streamDialer 1) distinctRun = false ∧
      ∃ d results, run (streamDialer 1) distinctRun = some (d,results) ∧
        successes results = [⟨0,0⟩,⟨0,1⟩,⟨1,0⟩,⟨2,1⟩] ∧ (successes results).Nodup :=
  ⟨rfl,_,_,rfl,rfl,@streams_distinct_without_failed_rotation 1 distinctRun _ _ rfl rfl⟩

/-- Session `s` has been started and is not the current one. -/
structure Dialer.Retired (s : Nat) (d : Dialer) : Prop where
  started : s < d.sessions
  dropped : d.current ≠ some s

theorem dial_retired {s : Nat} (retired : d.Retired s) {result : Except String Stream}
    (returned : d.dial a = some (d',result)) : d'.Retired s ∧ ∀ stream, result = .ok stream → stream.session ≠ s := by
  obtain ⟨started,dropped⟩ := retired
  rcases dial_cases returned with ⟨s',current,-,rfl,rfl⟩ | ⟨-,⟨_,-,rfl,rfl⟩ | ⟨_,_,-,-,rfl,rfl⟩ | ⟨-,rfl,rfl⟩⟩
  · refine ⟨⟨started,dropped⟩,fun stream ok => ?_⟩
    cases ok
    exact fun same => dropped (current.trans (congrArg some same))
  · exact ⟨⟨started,dropped⟩,fun _ ok => nomatch ok⟩
  · exact ⟨⟨started,dropped⟩,fun _ ok => nomatch ok⟩
  · refine ⟨⟨Nat.lt_succ_of_lt started,fun same => ?_⟩,fun stream ok => ?_⟩
    · exact Nat.ne_of_gt started (Option.some.inj same)
    · cases ok
      exact Nat.ne_of_gt started

theorem sessionClosed_retired {s s' : Nat} (retired : d.Retired s) (closed : d.sessionClosed s' = some d') :
    d'.Retired s := by
  obtain ⟨-,rfl⟩ := sessionClosed_cases closed
  split
  · exact ⟨retired.started,fun absent => nomatch absent⟩
  · exact retired

theorem sessionClosed_retires {s : Nat} (started : s < d.sessions) (closed : d.sessionClosed s = some d') :
    d'.Retired s := by
  obtain ⟨-,rfl⟩ := sessionClosed_cases closed
  split
  · exact ⟨started,fun absent => nomatch absent⟩
  · exact ⟨started,‹_›⟩

theorem run_retired {s : Nat} {events : List Event} {results : List (Except String Stream)}
    (retired : d.Retired s) (returned : run d events = some (d',results)) :
    d'.Retired s ∧ ∀ stream ∈ successes results, stream.session ≠ s := by
  induction events generalizing d results with
  | nil =>
    cases returned
    exact ⟨retired,by simp⟩
  | cons event events ih =>
    cases event with
    | dial a =>
      obtain ⟨d₁,result,rest,dialed,ran,rfl⟩ := run_dial returned
      obtain ⟨retired₁,handed⟩ := dial_retired retired dialed
      obtain ⟨retired',later⟩ := ih retired₁ ran
      refine ⟨retired',fun stream mem => ?_⟩
      cases result with
      | ok first =>
        rcases List.mem_cons.mp (by simpa using mem) with rfl | mem
        · exact handed _ rfl
        · exact later stream mem
      | error err => exact later stream (by simpa using mem)
    | sessionClosed s' =>
      obtain ⟨d₁,closed,ran⟩ := run_sessionClosed returned
      exact ih (sessionClosed_retired retired closed) ran

/-- From any dialer, once `sessionClosed` has reported a session it started, no later `dial`
hands out a stream on that session, whatever the connector and the handshake return. -/
theorem closed_session_gets_no_streams {s : Nat} {events : List Event} {results : List (Except String Stream)}
    (started : s < d.sessions) (returned : run d (.sessionClosed s :: events) = some (d',results)) :
    ∀ stream ∈ successes results, stream.session ≠ s := by
  obtain ⟨d₁,closed,ran⟩ := run_sessionClosed returned
  exact (run_retired (sessionClosed_retires started closed) ran).2

/-- Cap `1`, session `0` current with id `1`: it is closed, the next dial starts session `1` on
id `1`, and the one after rotates to session `2`. -/
theorem closed_session_zero_gets_no_streams :
    ∃ results, run ⟨1,some 0,1,false,1⟩ [.sessionClosed 0,.dial opened,.dial opened] =
        some (⟨1,some 2,1,false,3⟩,results) ∧ successes results = [⟨1,1⟩,⟨2,0⟩] ∧
      (0 < 1 ∧ ∀ stream ∈ successes results, stream.session ≠ 0) :=
  ⟨_,rfl,rfl,Nat.one_pos,@closed_session_gets_no_streams ⟨1,some 0,1,false,1⟩ _ 0 [.dial opened,.dial opened] _
    Nat.one_pos rfl⟩

theorem finish_some (x : Dialer × Except String Nat) : ∃ d' result, Dialer.finish x = some (d',result) := by
  rcases x with ⟨_,_ | _⟩ <;> exact ⟨_,_,rfl⟩

theorem dial_frees (free : d.locked = false) (sound : (∃ err, a.doDial = .error err) ∨ handshake a = .ok ()) :
    ∃ d' result, d.dial a = some (d',result) ∧ d'.locked = false := by
  obtain ⟨d',result,returned⟩ : ∃ d' result, d.dial a = some (d',result) := by
    unfold Dialer.dial
    rw [if_neg (by simp [free])]
    exact finish_some _
  refine ⟨d',result,returned,?_⟩
  rcases dial_cases returned with ⟨-,-,-,rfl,-⟩ | ⟨-,⟨-,-,rfl,-⟩ | ⟨conn,err,connected,failed,-⟩ | ⟨-,rfl,-⟩⟩
  · exact free
  · rfl
  · rcases sound with ⟨_,refused⟩ | succeeded
    · simp [connected] at refused
    · simp [failed] at succeeded
  · rfl

/-- From a dialer whose `mx` is free, in every run of calls where no handshake step fails after
its connector succeeds, every `dial` and `sessionClosed` call returns and `mx` ends free: the
dialer never deadlocks. -/
theorem calls_return_without_handshake_failure {events : List Event} (free : d.locked = false)
    (sound : ∀ a, Event.dial a ∈ events → (∃ err, a.doDial = .error err) ∨ handshake a = .ok ()) :
    ∃ d' results, run d events = some (d',results) ∧ d'.locked = false := by
  induction events generalizing d with
  | nil => exact ⟨d,[],rfl,free⟩
  | cons event events ih =>
    have later : ∀ a, Event.dial a ∈ events → (∃ err, a.doDial = .error err) ∨ handshake a = .ok () :=
      fun a mem => sound a (List.mem_cons_of_mem _ mem)
    cases event with
    | dial a =>
      obtain ⟨d₁,result,dialed,free₁⟩ := dial_frees free (sound a (List.mem_cons_self _ _))
      obtain ⟨d',results,ran,free'⟩ := ih free₁ later
      exact ⟨d',result :: results,by simp [run,dialed,ran],free'⟩
    | sessionClosed s =>
      have closed : d.sessionClosed s = some (if d.current = some s then { d with current := none } else d) := by
        simp [Dialer.sessionClosed,free]
      have free₁ : (if d.current = some s then { d with current := none } else d).locked = false := by
        split <;> exact free
      obtain ⟨d',results,ran,free'⟩ := ih free₁ later
      exact ⟨d',results,by simp [run,closed,ran],free'⟩

/-- Two streams on session `0` with the cap at `1`, a rotation whose connector fails, and a dial
back on session `0`: every call returns. -/
theorem failed_rotation_run_returns :
    (streamDialer 1).locked = false ∧
      (∀ a, Event.dial a ∈ failedRotation → (∃ err, a.doDial = .error err) ∨ handshake a = .ok ()) ∧
      ∃ d results, run (streamDialer 1) failedRotation = some (d,results) ∧ d.locked = false :=
  have sound : ∀ a, Event.dial a ∈ failedRotation → (∃ err, a.doDial = .error err) ∨ handshake a = .ok () := by
    intro a mem
    simp only [failedRotation,List.mem_cons,Event.dial.injEq,List.mem_nil_iff,or_false] at mem
    rcases mem with rfl | rfl | rfl | rfl <;> exact .inr rfl
  ⟨rfl,sound,calls_return_without_handshake_failure rfl sound⟩

end Lampshade

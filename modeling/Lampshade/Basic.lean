import Mathlib.Algebra.Order.BigOperators.Group.List
import Mathlib.Algebra.Order.Ring.Nat
import Mathlib.Algebra.Ring.Int.Defs
import Mathlib.Data.List.Infix

/-! Shared vocabulary of the lampshade model: Go channels as the buffers see them,
deadlines as the code compares them with the clock, and the frame constants. -/
namespace Lampshade

/-- A Go channel: the buffered values and whether `close` has run on it. Its owner keeps
the capacity, so that a capacity of `0` is the unbuffered case. -/
structure Chan (α : Type) where
  items : List α
  closed : Bool
  deriving DecidableEq, Repr

def Chan.empty {α : Type} : Chan α := ⟨[],false⟩

@[simp] theorem Chan.empty_items {α : Type} : (Chan.empty : Chan α).items = [] := rfl
@[simp] theorem Chan.empty_closed {α : Type} : (Chan.empty : Chan α).closed = false := rfl

/-- Where a deadline lies at the point where the code reads the clock: `IsZero`, `Before(now)`,
or later. A later deadline arms a timer whose expiry may come at any step, and may have passed
by the time the code reads the clock again. -/
inductive Deadline
  | zero
  | past
  | future
  deriving DecidableEq, Repr

/-- Modelled from the spec: type (1 byte), stream id (3 bytes) and data length (2 bytes). -/
def dataHeaderSize : Nat := 6

def frameTypeData : UInt8 := 0
def frameTypeACK : UInt8 := 1
def frameTypeRST : UInt8 := 2

/-- Modelled from the spec: the writer overwrites the type byte of the default header. -/
def withFrameType (header : List UInt8) (frameType : UInt8) : List UInt8 :=
  frameType :: header.drop 1

/-- Go's `int16(n)`: the low sixteen bits, read as two's complement. -/
def int16 (n : Nat) : Int := Int.bmod n 65536

theorem int16_of_lt {n : Nat} (small : n < 32768) : int16 n = n := by
  unfold int16 Int.bmod
  have mod : ((n : Int) % (65536 : Nat)) = n := Int.emod_eq_of_lt (by omega) (by omega)
  rw [mod]
  have half : (n : Int) < ((65536 : Nat) + 1 : Int) / 2 := by omega
  simp only [half,if_true]

/-- Modelled from the spec: an ACK frame is the stream's header with the ACK type, carrying
the signed 16-bit count of frames it acknowledges. -/
structure AckFrame where
  header : List UInt8
  frames : Int
  deriving DecidableEq, Repr

def ackWithFrames (header : List UInt8) (frames : Int) : AckFrame :=
  ⟨withFrameType header frameTypeACK,frames⟩

/-- The states runs of `next` lead to from `s`; `next s a = none` when step `a` is not enabled
in `s`. -/
inductive Reaches {σ α : Type} (next : σ → α → Option σ) (s : σ) : σ → Prop
  | refl : Reaches next s s
  | step {t u : σ} (a : α) : Reaches next s t → next t a = some u → Reaches next s u

/-- The steps a list of labels takes, in order; `none` when one of them is not enabled. -/
def runSteps {σ α : Type} (next : σ → α → Option σ) (s : σ) : List α → Option σ
  | [] => some s
  | a :: actions => next s a >>= fun t => runSteps next t actions

theorem runSteps_append {σ α : Type} (next : σ → α → Option σ) (s : σ) (actions more : List α) :
    runSteps next s (actions ++ more) = runSteps next s actions >>= fun t => runSteps next t more := by
  induction actions generalizing s with
  | nil => rfl
  | cons a actions ih =>
    rw [List.cons_append]
    simp only [runSteps,ih]
    cases next s a <;> rfl

/-- What every step of a run keeps holds at its end, for steps whose labels all satisfy `Q`. -/
theorem runSteps_induction {σ α : Type} {next : σ → α → Option σ} {P : σ → Prop} {Q : α → Prop}
    (preserved : ∀ {s t} a, Q a → P s → next s a = some t → P t) {s t : σ} {actions : List α}
    (start : P s) (allowed : ∀ a ∈ actions, Q a) (ran : runSteps next s actions = some t) : P t := by
  induction actions generalizing s with
  | nil => cases ran; exact start
  | cons a actions ih =>
    cases stepped : next s a with
    | none => simp [runSteps,stepped] at ran
    | some u =>
      simp only [runSteps,stepped,Option.some_bind] at ran
      exact ih (preserved a (allowed a (List.mem_cons_self _ _)) start stepped)
        (fun b mem => allowed b (List.mem_cons_of_mem _ mem)) ran

namespace Reaches

variable {σ α : Type} {next : σ → α → Option σ}

theorem induction {P : σ → Prop} (preserved : ∀ {s t} a, P s → next s a = some t → P t)
    {s t : σ} (start : P s) (run : Reaches next s t) : P t := by
  induction run with
  | refl => exact start
  | step a _ h ih => exact preserved a ih h

theorem trans {s t u : σ} (first : Reaches next s t) (second : Reaches next t u) : Reaches next s u := by
  induction second with
  | refl => exact first
  | step a _ h ih => exact .step a ih h

theorem of_runSteps {s t : σ} (actions : List α) (h : runSteps next s actions = some t) :
    Reaches next s t := by
  induction actions generalizing s with
  | nil => cases h; exact .refl
  | cons a actions ih =>
    cases hs : next s a with
    | none => simp [runSteps,hs] at h
    | some u =>
      simp only [runSteps,hs,Option.some_bind] at h
      exact trans (.step a .refl hs) (ih h)

end Reaches

end Lampshade

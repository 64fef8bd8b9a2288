/-
A one-consumer `tokio::sync::Notify`: the permit, and the state of the consumer's
current `Notified` future.

With one consumer the waiter queue is one future. What is modelled of that future
is what decides who is woken:

| `Notified` | meaning |
|---|---|
| `init` | no future, or one created and not yet enabled |
| `waiting` | enabled, in the waiter queue, not notified |
| `notified` | enabled, then woken by `notify_one` and not yet polled |
| `woken` | enabled, then woken by `notify_waiters` and not yet polled |
| `done` | `enable` took the stored permit; not in the waiter queue |

The distinction between the last three is the one tokio makes when the future is
dropped before it is polled to completion: only a `notify_one` notification that
nobody consumed is passed on (here: stored again as the permit).
-/
import Mathlib.Data.List.Basic

set_option autoImplicit false

/-- Where the consumer's `Notified` future is. -/
inductive Notified where
  | init
  | waiting
  | notified
  | woken
  | done
  deriving DecidableEq, Repr

/-- The stored permit and the one consumer's future. -/
structure Notify where
  permit : Bool
  waiter : Notified
  deriving DecidableEq, Repr

namespace Notify

/-- `Notify::new`. -/
def new : Notify := ⟨false, .init⟩

/-- `Notify::notified` followed by `Notified::enable`: takes the stored permit, or
joins the waiter queue. -/
def enable (n : Notify) : Notify :=
  if n.permit then ⟨false, .done⟩ else ⟨false, .waiting⟩

/-- `Notify::notify_one`: wakes the registered waiter, else stores the permit. -/
def notify_one (n : Notify) : Notify :=
  match n.waiter with
  | .waiting => { n with waiter := .notified }
  | _ => { n with permit := true }

/-- `Notify::notify_waiters`: wakes every registered waiter and stores nothing. -/
def notify_waiters (n : Notify) : Notify :=
  match n.waiter with
  | .waiting => { n with waiter := .woken }
  | _ => n

/-- Whether polling the future completes it. -/
def is_ready (n : Notify) : Bool :=
  match n.waiter with
  | .notified | .woken | .done => true
  | _ => false

/-- The await completed: the notification is consumed. -/
def finish (n : Notify) : Notify := { n with waiter := .init }

/-- The future is dropped; an unconsumed `notify_one` is passed on. -/
def drop (n : Notify) : Notify :=
  match n.waiter with
  | .notified => ⟨true, .init⟩
  | _ => { n with waiter := .init }

/-- The consumer sleeps: registered, not notified, and no permit is stored. -/
def Parked (n : Notify) : Prop := n.waiter = .waiting ∧ n.permit = false

instance (n : Notify) : Decidable n.Parked := inferInstanceAs (Decidable (_ ∧ _))

/-! ## What each operation leaves of a sleeping consumer -/

theorem not_parked_notify_one (n : Notify) : ¬ n.notify_one.Parked := by
  rintro ⟨hw, hp⟩
  cases h : n.waiter <;> simp [notify_one, h] at hw hp

/-- `notify_waiters` leaves no registered waiter asleep. -/
theorem notify_waiters_waiter (n : Notify) : n.notify_waiters.waiter ≠ .waiting := by
  cases h : n.waiter <;> simp [notify_waiters, h]

end Notify

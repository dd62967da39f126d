import PaperboatTunnel.Lib.Transition

/-!
# `Renewal` — a decision that is renewed before its deadline

A loop holds a decision that is good until a deadline. A ticker makes it ask for the next decision, in a call that has
the current deadline. An acceptable answer takes the place of the current decision and sets a new deadline; any other
answer cancels the context that hangs on the decision, and so does the timer of the deadline.

`wait` lets time pass, but never beyond a timer that fires or the deadline of the call in flight, so timers fire on
time and a call answers by its deadline or fails. A cancelled context is closed at once. `Lawful` is what every
transition of such a loop keeps.
-/

namespace Renewal

open TransitionSystem

/-- What is specific to a loop: which answer may follow the current decision, and until when a decision is good whose
    call began at `start`. -/
structure Policy (D : Type) where
  interval : Int
  accepts : (current next : D) → (now : Int) → Bool
  deadline : (start : Int) → D → Int

/-- In the `select`, in the call that began at `start`, with the context cancelled, and with its ends closed. -/
inductive Phase where
  | selecting
  | asking (start : Int)
  | canceled | closed
deriving DecidableEq

structure Loop (D : Type) where
  now : Int
  current : D
  (deadline nextTick : Int)
  phase : Phase := .selecting

inductive Event (D : Type) where
  | wait (t : Int)
  | expire | tick
  | answer (next : Option D)
  | done | close

variable {D : Type}

namespace Loop

def live (l : Loop D) : Bool :=
  match l.phase with
  | .selecting | .asking _ => true
  | .canceled | .closed => false

def cancel (l : Loop D) : Loop D := { l with phase := .canceled }

/-- No timer, no call and no closing is due before `t`. -/
def mayWait (l : Loop D) (t : Int) : Bool :=
  match l.phase with
  | .selecting => t ≤ l.deadline && t ≤ l.nextTick
  | .asking _ => t ≤ l.deadline
  | .canceled => false
  | .closed => true

def renew (policy : Policy D) (l : Loop D) (start : Int) (next : D) : Loop D :=
  if policy.accepts l.current next l.now then
    { l with current := next, deadline := policy.deadline start next, phase := .selecting }
  else l.cancel

/-- When the timer and the ticker are both due, either may come first; the ticker drops the ticks nobody took. -/
def step (policy : Policy D) (l : Loop D) : Event D → Option (Loop D)
  | .wait t => if l.now < t ∧ l.mayWait t then some { l with now := t } else none
  | .expire => if l.phase = .selecting ∧ l.deadline ≤ l.now then some l.cancel else none
  | .tick =>
    if l.phase = .selecting ∧ l.nextTick ≤ l.now then
      some { l with
        phase := .asking l.now
        nextTick := l.nextTick + policy.interval * ((l.now - l.nextTick) / policy.interval + 1) }
    else none
  | .answer next =>
    match l.phase, next with
    | .asking _, none => some l.cancel
    | .asking start, some next => if l.now ≤ l.deadline then some (l.renew policy start next) else none
    | _, _ => none
  | .done => if l.live then some l.cancel else none
  | .close => if l.phase = .canceled then some { l with phase := .closed } else none

end Loop

variable {policy : Policy D} {agrees : D → D → Prop} {first : D} {l l' : Loop D} {e : Event D}

end Renewal

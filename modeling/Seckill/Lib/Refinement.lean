import Seckill.Lib.Threads

/-! # Runs that refine a specification

A specification says what may be seen of a system and how that changes it.  A view of a
machine says which of its events are seen.  If every event that is seen is a step of the
specification, and every other changes nothing it speaks of, then what is seen of a run
is something the specification shows (`Run.shows`).
-/

namespace Threads

structure Spec (L : Type) where
  State : Type
  Step : State → L → State → Prop

section Spec

variable {L : Type} {A : Spec L} {a₀ a : A.State} {seen later : List L}

/-- What the specification shows from `a₀` on, newest first, and the state after it. -/
inductive Spec.Shows (A : Spec L) (a₀ : A.State) : List L → A.State → Prop
  | init : A.Shows a₀ [] a₀
  | step {seen : List L} {a a' : A.State} {l : L} (shows : A.Shows a₀ seen a) (step : A.Step a l a') :
      A.Shows a₀ (l :: seen) a'

/-- A step that is seen, or none at all. -/
def Spec.Follows (A : Spec L) (a : A.State) : Option L → A.State → Prop
  | none, a' => a' = a
  | some l, a' => A.Step a l a'

theorem Spec.Shows.invariant {P : List L → A.State → Prop} (initial : P [] a₀)
    (keeps : ∀ {seen a l a'}, P seen a → A.Step a l a' → P (l :: seen) a')
    (shows : A.Shows a₀ seen a) : P seen a := by
  induction shows with
  | init => exact initial
  | step shows step ih => exact keeps ih step

/-- What was shown up to some point was shown. -/
theorem Spec.Shows.before (shows : A.Shows a₀ (later ++ seen) a) :
    ∃ b, A.Shows a₀ seen b := by
  induction later generalizing a with
  | nil => exact ⟨a, shows⟩
  | cons l later ih =>
    cases shows with
    | step shows step => exact ih shows

end Spec

section Run

variable {C : Type} {R : C → Type} {M : Machine C R} {ok : Condition M} {s₀ : M.State}
  {h : History M} {cfg : Config M} {L : Type}

/-- What is seen of an event, given the history before it. -/
abbrev View (M : Machine C R) (L : Type) := History M → Event M → Option L

def View.seen (view : View M L) : History M → List L
  | [] => []
  | ev :: h => (view h ev).toList ++ view.seen h

/-- Forward simulation along a function. -/
theorem Run.shows {A : Spec L} (view : View M L) (abs : History M → M.State → A.State)
    (follows : ∀ {h cfg cfg' ev}, Run ok s₀ h cfg → ok h cfg.state ev → Step cfg ev cfg' →
      A.Follows (abs h cfg.state) (view h ev) (abs (ev :: h) cfg'.state))
    (run : Run ok s₀ h cfg) : A.Shows (abs [] s₀) (view.seen h) (abs h cfg.state) := by
  induction run with
  | init => exact .init
  | @step h cfg cfg' ev run met step ih =>
    have next := follows run met step
    rw [View.seen]
    cases seen : view h ev with
    | none =>
      rw [seen] at next
      exact next ▸ ih
    | some l =>
      rw [seen] at next
      exact .step ih next

end Run

end Threads

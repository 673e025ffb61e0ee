import Mathlib.Algebra.BigOperators.Group.Finset.Basic
import Mathlib.Algebra.Order.BigOperators.Group.Finset
import Mathlib.Logic.Relation
import Seckill.Lib.Threads

/-! # Threads that come to an end

`Prog.AtMost` bounds the calls of a program, whatever the replies.  Where the entry programs
are bounded, a run that starts no more threads is bounded (`Run.length_le`), and if there
is always somebody to move it can be continued until nobody has anything to do
(`Run.finish`).  Who waits for whom is a matter of ranks: waiting that goes down in rank
ends at a thread that moves.
-/

namespace CallTree.Prog

variable {C : Type} {R : C → Type} {α β : Type}

/-- Whatever the replies, the program makes at most so many calls. -/
def AtMost : Prog C R α → Nat → Prop
  | .ret _, _ => True
  | .call _ _, 0 => False
  | .call _ k, n + 1 => ∀ r, (k r).AtMost n

theorem AtMost.mono {p : Prog C R α} {n m : Nat} (bound : p.AtMost n) (more : n ≤ m) :
    p.AtMost m := by
  induction p generalizing n m with
  | ret a => trivial
  | call c k ih =>
    cases n with
    | zero => exact absurd bound id
    | succ n =>
      obtain ⟨m, rfl⟩ := Nat.exists_eq_add_of_lt more
      exact fun r => ih r (bound r) (Nat.le_add_right n m)

theorem AtMost.bind {p : Prog C R α} {f : α → Prog C R β} {n m : Nat} (first : p.AtMost n)
    (rest : ∀ a, (f a).AtMost m) : (p >>= f).AtMost (n + m) := by
  induction p generalizing n with
  | ret a => exact (rest a).mono (Nat.le_add_left m n)
  | call c k ih =>
    cases n with
    | zero => exact absurd first id
    | succ n =>
      rw [Nat.add_right_comm]
      exact fun r => ih r (first r)

end CallTree.Prog

namespace Threads

open CallTree

/-! ## Waiting -/

/-- If whoever cannot move waits for somebody of a lower rank, it waits in the end for somebody
    who can. -/
theorem reaches_mover {T : Type} {waits : T → T → Prop} {busy moves : T → Prop} (rank : T → Nat)
    (ahead : ∀ t, busy t → moves t ∨ ∃ t', waits t t' ∧ busy t' ∧ rank t' < rank t) {t : T}
    (here : busy t) : ∃ t', Relation.ReflTransGen waits t t' ∧ moves t' := by
  induction level : rank t using Nat.strong_induction_on generalizing t with
  | _ n ih =>
    subst level
    obtain now | ⟨t', waits', there, lower⟩ := ahead t here
    · exact ⟨t, .refl, now⟩
    · obtain ⟨last, chain, now⟩ := ih _ lower there rfl
      exact ⟨last, .head waits' chain, now⟩

/-! ## Turns -/

variable {C : Type} {R : C → Type} {M : Machine C R} {ok : Condition M} {s₀ : M.State}
  {h h' : History M} {cfg : Config M} {K : Nat}

/-- The threads that were started. -/
def crew : History M → Finset Nat
  | [] => ∅
  | .start t _ :: h => insert t (crew h)
  | .call _ _ _ _ :: h => crew h

/-- The calls of thread `t` since it was started last. -/
def turn (t : Nat) : History M → Nat
  | [] => 0
  | .start t' _ :: h => if t' = t then 0 else turn t h
  | .call t' _ _ _ :: h => if t' = t then turn t h + 1 else turn t h

/-- The calls of the turns that all threads are in. -/
def spent (h : History M) : Nat := ∑ t ∈ crew h, turn t h

theorem Run.crew_of_call (run : Run ok s₀ h cfg) {t : Nat} {c : C} {k : R c → Prog C R Unit}
    (next : cfg.prog t = .call c k) : t ∈ crew h := by
  induction run generalizing c with
  | init => cases next
  | step run met step ih =>
    cases step with
    | @call t' c' k' f r s now exec =>
      by_cases own : t = t'
      · subst own
        exact ih now
      · exact ih (by simpa [Function.update_of_ne own] using next)
    | @start t' e done =>
      by_cases own : t = t'
      · subst own
        exact Finset.mem_insert_self t _
      · exact Finset.mem_insert_of_mem (ih (by simpa [Function.update_of_ne own] using next))

/-- What a thread still has to call, with what it has called in this turn. -/
theorem Run.left (bound : ∀ e, (M.body e).AtMost K) (run : Run ok s₀ h cfg) (t : Nat) :
    ∃ n, (cfg.prog t).AtMost n ∧ turn t h + n ≤ K := by
  induction run with
  | init => exact ⟨0, trivial, Nat.zero_le K⟩
  | step run met step ih =>
    cases step with
    | @call t' c k f r s next exec =>
      by_cases own : t' = t
      · subst own
        obtain ⟨n, left, within⟩ := ih
        rw [next] at left
        cases n with
        | zero => exact absurd left id
        | succ n =>
          refine ⟨n, by simpa using left r, ?_⟩
          rw [turn, if_pos rfl]
          omega
      · simpa [turn, own, Function.update_of_ne (Ne.symm own)] using ih
    | @start t' e done =>
      by_cases own : t' = t
      · subst own
        refine ⟨K, by simpa using bound e, ?_⟩
        rw [turn, if_pos rfl, Nat.zero_add]
      · simpa [turn, own, Function.update_of_ne (Ne.symm own)] using ih

theorem Run.turn_le (bound : ∀ e, (M.body e).AtMost K) (run : Run ok s₀ h cfg) (t : Nat) :
    turn t h ≤ K := by
  obtain ⟨n, _, within⟩ := run.left bound t
  omega

theorem Run.spent_le (bound : ∀ e, (M.body e).AtMost K) (run : Run ok s₀ h cfg) :
    spent h ≤ K * (crew h).card := by
  calc spent h ≤ ∑ _t ∈ crew h, K := Finset.sum_le_sum fun t _ => run.turn_le bound t
    _ = K * (crew h).card := by rw [Finset.sum_const, Nat.mul_comm]; rfl

theorem spent_call {t : Nat} {c : C} {f : M.Fate} {r : R c} (member : t ∈ crew h) :
    spent (.call t c f r :: h) = spent h + 1 := by
  have same : ∑ u ∈ (crew h).erase t, turn u (.call t c f r :: h) =
      ∑ u ∈ (crew h).erase t, turn u h :=
    Finset.sum_congr rfl fun u mem => if_neg (Finset.ne_of_mem_erase mem).symm
  have own : turn t (.call t c f r :: h) = turn t h + 1 := if_pos rfl
  rw [spent, spent, crew, ← Finset.add_sum_erase _ _ member, same, own,
    ← Finset.add_sum_erase (crew h) (fun u => turn u h) member]
  omega

/-- An event that starts no thread. -/
def Occurrence.isCall {F E : Type} : Occurrence C R F E → Prop
  | .call _ _ _ _ => True
  | .start _ _ => False

/-- Threads that are not started again make boundedly many calls. -/
theorem Run.length_le (bound : ∀ e, (M.body e).AtMost K) (run : Run ok s₀ (h' ++ h) cfg)
    (calls : ∀ ev ∈ h', ev.isCall) : spent h + h'.length ≤ K * (crew h).card := by
  have all : crew (h' ++ h) = crew h ∧ spent (h' ++ h) = spent h + h'.length := by
    clear bound
    induction h' generalizing cfg with
    | nil => exact ⟨rfl, rfl⟩
    | cons ev h' ih =>
      rw [List.forall_mem_cons] at calls
      cases run with
      | step run met step =>
        obtain ⟨same, count⟩ := ih run calls.2
        cases step with
        | call next exec =>
          refine ⟨same, ?_⟩
          have started : _ ∈ crew (h' ++ h) := run.crew_of_call next
          rw [List.cons_append, spent_call started, count, List.length_cons, Nat.add_assoc]
        | start done => exact absurd calls.1 id
  obtain ⟨same, count⟩ := all
  rw [← count, ← same]
  exact run.spent_le bound

/-- If some thread can always make a call of a kind until all are idle, the run can be continued
    with such calls until they are. -/
theorem Run.finish {Idle : Prog C R Unit → Prop} {P : Event M → Prop}
    (bound : ∀ e, (M.body e).AtMost K) (calls : ∀ ev, P ev → ev.isCall)
    (moves : ∀ {h cfg}, Run ok s₀ h cfg → (∀ t, Idle (cfg.prog t)) ∨
      ∃ ev cfg', P ev ∧ ok h cfg.state ev ∧ Step cfg ev cfg')
    (run : Run ok s₀ h cfg) :
    ∃ h' cfg', Run ok s₀ (h' ++ h) cfg' ∧ (∀ ev ∈ h', P ev) ∧ ∀ t, Idle (cfg'.prog t) := by
  induction left : K * (crew h).card - spent h generalizing h cfg with
  | zero =>
    obtain idle | ⟨ev, cfg', kind, met, step⟩ := moves run
    · exact ⟨[], cfg, run, by simp, idle⟩
    · -- a call more would be one too many
      have longer : Run ok s₀ ([ev] ++ h) cfg' := .step run met step
      have within := longer.length_le bound (by simpa using calls ev kind)
      simp only [List.length_singleton] at within
      omega
  | succ n ih =>
    obtain idle | ⟨ev, cfg', kind, met, step⟩ := moves run
    · exact ⟨[], cfg, run, by simp, idle⟩
    · have longer : Run ok s₀ (ev :: h) cfg' := .step run met step
      have count : K * (crew (ev :: h)).card - spent (ev :: h) = n := by
        cases step with
        | call next exec =>
          rw [spent_call (run.crew_of_call next), crew]
          omega
        | start done => exact absurd (calls _ kind) id
      obtain ⟨h', cfg'', done, kinds, idle⟩ := ih longer count
      refine ⟨h' ++ [ev], cfg'', ?_, ?_, idle⟩
      · rw [List.append_assoc]
        exact done
      · intro ev' member
        obtain before | last := List.mem_append.mp member
        · exact kinds ev' before
        · rwa [List.mem_singleton.mp last]

end Threads

import Mathlib.Logic.Function.Basic

/-! # Call trees and their monitors

A sequential program that talks to the outside world through calls is a tree: it
either returns, or makes a call and goes on with whatever reply it gets.  Nothing
here says what a call does.

A `Monitor` watches the calls of one program.  It keeps a small record of them and
says which call is allowed next; `Prog.Keeps` is the weakest precondition of a
program against a monitor: every call the program makes is allowed, whatever the
replies, and its result and the final record satisfy a postcondition.  `Prog.Only`
says which calls a program makes at all, and so which monitors do not mind it.
`Prog.alone` runs a program to its end against a deterministic interpretation of the
calls, and `Prog.through` makes each call by a program over other calls.
-/

namespace CallTree

/-- A program over calls `C`, where the reply to `c` has type `R c`. -/
inductive Prog (C : Type) (R : C → Type) (α : Type) : Type where
  | ret (a : α)
  | call (c : C) (k : R c → Prog C R α)

variable {C : Type} {R : C → Type} {F α β γ : Type}

namespace Prog

def bind : Prog C R α → (α → Prog C R β) → Prog C R β
  | .ret a, f => f a
  | .call c k, f => .call c fun r => (k r).bind f

instance : Monad (Prog C R) where
  pure := .ret
  bind := bind

/-- The program that makes one call and returns its reply. -/
def perform (c : C) : Prog C R (R c) := .call c .ret

@[simp] theorem pure_eq (a : α) : (pure a : Prog C R α) = .ret a := rfl

@[simp] theorem ret_bind (a : α) (f : α → Prog C R β) : (Prog.ret a >>= f) = f a := rfl

@[simp] theorem call_bind (c : C) (k : R c → Prog C R α) (f : α → Prog C R β) :
    (Prog.call c k >>= f) = .call c fun r => k r >>= f := rfl

@[simp] theorem perform_bind (c : C) (f : R c → Prog C R β) :
    (perform c >>= f) = .call c f := rfl

/-- The program with each of its calls made by a program of its own, over other calls. -/
def through {C' : Type} {R' : C' → Type} (made : (c : C) → Prog C' R' (R c)) :
    Prog C R α → Prog C' R' α
  | .ret a => .ret a
  | .call c k => made c >>= fun r => (k r).through made

end Prog

/-! ## Monitors -/

/-- A record of the calls made so far, and the calls it allows next.  `F` is what the
    environment decides about a call besides its reply. -/
structure Monitor (C : Type) (R : C → Type) (F : Type) where
  Local : Type
  allowed : Local → C → Prop
  note : Local → (c : C) → F → R c → Local

namespace Prog

variable {M : Monitor C R F}

/-- Every call of the program is allowed by the monitor, whatever fates and replies the
    calls meet, and `post` holds of the result and the record at the end. -/
def Keeps (M : Monitor C R F) : Prog C R α → M.Local → (α → M.Local → Prop) → Prop
  | .ret a, l, post => post a l
  | .call c k, l, post => M.allowed l c ∧ ∀ f r, (k r).Keeps M (M.note l c f r) post

@[simp] theorem keeps_ret {a : α} {l : M.Local} {post : α → M.Local → Prop} :
    (Prog.ret a).Keeps M l post ↔ post a l := Iff.rfl

@[simp] theorem keeps_call {c : C} {k : R c → Prog C R α} {l : M.Local}
    {post : α → M.Local → Prop} :
    (Prog.call c k).Keeps M l post ↔
      M.allowed l c ∧ ∀ f r, (k r).Keeps M (M.note l c f r) post := Iff.rfl

@[simp] theorem keeps_perform {c : C} {l : M.Local} {post : R c → M.Local → Prop} :
    (Prog.perform c).Keeps M l post ↔ M.allowed l c ∧ ∀ f r, post r (M.note l c f r) := Iff.rfl

/-- Sequencing: the second program starts from the record the first one leaves. -/
@[simp] theorem keeps_bind {p : Prog C R α} {f : α → Prog C R β} {l : M.Local}
    {post : β → M.Local → Prop} :
    (p >>= f).Keeps M l post ↔ p.Keeps M l fun a l' => (f a).Keeps M l' post := by
  induction p generalizing l with
  | ret a => rfl
  | call c k ih =>
    simp only [call_bind, keeps_call]
    exact and_congr_right fun _ => forall_congr' fun fate => forall_congr' fun r => ih r

/-- Consequence: a weaker postcondition is kept as well. -/
theorem Keeps.mono {p : Prog C R α} {l : M.Local} {post post' : α → M.Local → Prop}
    (keeps : p.Keeps M l post) (weaker : ∀ a l', post a l' → post' a l') :
    p.Keeps M l post' := by
  induction p generalizing l with
  | ret a => exact weaker a l keeps
  | call c k ih => exact ⟨keeps.1, fun f r => ih r (keeps.2 f r)⟩

/-- The rule for a call of a function in the middle of a program: its specification, then
    the rest of the program from any record the specification allows. -/
theorem Keeps.bind {p : Prog C R α} {f : α → Prog C R β} {l : M.Local}
    {mid : α → M.Local → Prop} {post : β → M.Local → Prop}
    (first : p.Keeps M l mid) (rest : ∀ a l', mid a l' → (f a).Keeps M l' post) :
    (p >>= f).Keeps M l post :=
  keeps_bind.mpr (first.mono rest)

end Prog

/-! ## Programs that make only some of the calls -/

namespace Prog

variable {M : Monitor C R F} {P : C → Prop}

/-- Every call of the program is one of `P`. -/
def Only (P : C → Prop) : Prog C R α → Prop
  | .ret _ => True
  | .call c k => P c ∧ ∀ r, (k r).Only P

@[simp] theorem only_ret {a : α} : (Prog.ret a : Prog C R α).Only P := trivial

@[simp] theorem only_call {c : C} {k : R c → Prog C R α} :
    (Prog.call c k).Only P ↔ P c ∧ ∀ r, (k r).Only P := Iff.rfl

@[simp] theorem only_perform {c : C} : (Prog.perform c : Prog C R (R c)).Only P ↔ P c := by
  simp [perform]

theorem Only.bind {p : Prog C R α} {f : α → Prog C R β} (first : p.Only P)
    (rest : ∀ a, (f a).Only P) : (p >>= f).Only P := by
  induction p with
  | ret a => exact rest a
  | call c k ih => exact ⟨first.1, fun r => ih r (first.2 r)⟩

theorem Only.mono {Q : C → Prop} {p : Prog C R α} (only : p.Only P) (more : ∀ c, P c → Q c) :
    p.Only Q := by
  induction p with
  | ret a => trivial
  | call c k ih => exact ⟨more c only.1, fun r => ih r (only.2 r)⟩

/-- A monitor that allows these calls and takes no note of them is kept as it stands. -/
theorem Only.keeps {p : Prog C R α} {l : M.Local} {post : α → M.Local → Prop} (only : p.Only P)
    (neutral : ∀ c, P c → M.allowed l c ∧ ∀ f r, M.note l c f r = l) (after : ∀ a, post a l) :
    p.Keeps M l post := by
  induction p with
  | ret a => exact after a
  | call c k ih =>
    obtain ⟨allowed, same⟩ := neutral c only.1
    refine ⟨allowed, fun f r => ?_⟩
    rw [same]
    exact ih r (only.2 r)

end Prog

/-! ## Running a program by itself -/

namespace Prog

variable {S : Type}

/-- Run a program to its end, every call answered by `exec`. -/
def alone (exec : (c : C) → S → Option (R c × S)) : Prog C R α → S → Option (α × S)
  | .ret a, s => some (a, s)
  | .call c k, s => (exec c s).bind fun x => (k x.1).alone exec x.2

variable {exec : (c : C) → S → Option (R c × S)}

@[simp] theorem alone_ret {a : α} {s : S} : (Prog.ret a : Prog C R α).alone exec s = some (a, s) :=
  rfl

theorem alone_call {c : C} {k : R c → Prog C R α} {s : S} :
    (Prog.call c k).alone exec s = (exec c s).bind fun x => (k x.1).alone exec x.2 := rfl

@[simp] theorem alone_bind {p : Prog C R α} {f : α → Prog C R β} {s : S} :
    (p >>= f).alone exec s = (p.alone exec s).bind fun x => (f x.1).alone exec x.2 := by
  induction p generalizing s with
  | ret a => rfl
  | call c k ih =>
    simp only [call_bind, alone_call, Option.bind_assoc]
    exact congrArg _ (funext fun x => ih x.1)

/-- Two interpretations that answer the calls of a program alike run it alike. -/
theorem Only.alone_congr {exec' : (c : C) → S → Option (R c × S)} {P : C → Prop} {p : Prog C R α}
    {s : S} (only : p.Only P) (agree : ∀ c s, P c → exec c s = exec' c s) :
    p.alone exec s = p.alone exec' s := by
  induction p generalizing s with
  | ret a => rfl
  | call c k ih =>
    rw [alone_call, alone_call, agree c s only.1]
    exact congrArg _ (funext fun x => ih x.1 (only.2 x.1))

/-- Total correctness: every call is answered, the program ends, and `post` holds of its result
    and of the state it leaves. -/
def Ends (exec : (c : C) → S → Option (R c × S)) (p : Prog C R α) (s : S) (post : α → S → Prop) :
    Prop :=
  ∃ a s', p.alone exec s = some (a, s') ∧ post a s'

variable {s s' : S} {post : α → S → Prop}

theorem Ends.ret {a : α} (after : post a s) : (Prog.ret a : Prog C R α).Ends exec s post :=
  ⟨a, s, rfl, after⟩

/-- A call that is answered, and the program after it. -/
theorem Ends.call {c : C} {k : R c → Prog C R α} {r : R c} (done : exec c s = some (r, s'))
    (rest : (k r).Ends exec s' post) : (Prog.call c k).Ends exec s post := by
  obtain ⟨a, s'', ends, after⟩ := rest
  refine ⟨a, s'', ?_, after⟩
  rw [alone_call, done, Option.bind_some]
  exact ends

theorem Ends.mono {p : Prog C R α} {post' : α → S → Prop} (ends : p.Ends exec s post)
    (weaker : ∀ a s', post a s' → post' a s') : p.Ends exec s post' := by
  obtain ⟨a, s', done, after⟩ := ends
  exact ⟨a, s', done, weaker a s' after⟩

/-- A part that ends, and the program after it. -/
theorem Ends.bind {p : Prog C R α} {f : α → Prog C R β} {mid : α → S → Prop} {last : β → S → Prop}
    (first : p.Ends exec s mid) (rest : ∀ a s', mid a s' → (f a).Ends exec s' last) :
    (p >>= f).Ends exec s last := by
  obtain ⟨a, s', ends, after⟩ := first
  obtain ⟨b, s'', ends', after'⟩ := rest a s' after
  refine ⟨b, s'', ?_, after'⟩
  rw [alone_bind, ends, Option.bind_some]
  exact ends'

end Prog

end CallTree

import Mathlib.Data.List.Nodup
import Mathlib.Data.List.Perm.Subperm
import Seckill.Lib.Threads

/-! # Loans

A desk hands numbered things out to threads and takes them back.  `loans` reads off a run
who has what; `Balanced` is the invariant of the books: a thing is idle once, or on loan
once, and was made before.
-/

namespace Loans

open CallTree Threads

variable {C : Type} {R : C → Type} {M : Machine C R}

/-- Which calls hand a thing out, and which give one back. -/
structure Desk (C : Type) (R : C → Type) where
  got : (c : C) → R c → Option Nat
  back : C → Option Nat

variable (D : Desk C R)

/-- What is on loan after a history, and to which thread. -/
def loans : History M → List (Nat × Nat)
  | [] => []
  | .call t c _ r :: h =>
    match D.got c r, D.back c with
    | some i, _ => (t, i) :: loans h
    | none, some i => (loans h).erase (t, i)
    | none, none => loans h
  | .start _ _ :: h => loans h

/-- Threads give back only what they have. -/
def Desk.fair (h : History M) (_ : M.State) : Event M → Bool
  | .call t c _ _ => (D.back c).all fun i => (loans D h).contains (t, i)
  | .start _ _ => true

/-! ## The books -/

structure Balanced (idle : List Nat) (out : List (Nat × Nat)) (fresh : Nat) : Prop where
  once : (idle ++ out.map Prod.snd).Nodup
  made : ∀ i ∈ idle ++ out.map Prod.snd, i < fresh

namespace Balanced

variable {idle rest : List Nat} {out : List (Nat × Nat)} {fresh t i : Nat}

theorem init : Balanced [] [] fresh := ⟨List.nodup_nil, by simp⟩

/-- Some of the idle things are gone. -/
theorem shrink (books : Balanced idle out fresh) (left : rest.Sublist idle) :
    Balanced rest out fresh where
  once := books.once.sublist (left.append_right _)
  made i member := books.made i ((left.append_right _).subset member)

/-- An idle thing goes on loan. -/
theorem lend (books : Balanced (i :: rest) out fresh) : Balanced rest ((t, i) :: out) fresh where
  once := by
    rw [List.map_cons, List.nodup_middle]
    exact books.once
  made j member := by
    apply books.made j
    simpa [or_left_comm] using member

/-- A new thing is made and lent at once. -/
theorem make (books : Balanced idle out fresh) : Balanced idle ((t, fresh) :: out) (fresh + 1) where
  once := by
    rw [List.map_cons, List.nodup_middle, List.nodup_cons]
    exact ⟨fun member => Nat.lt_irrefl _ (books.made fresh member), books.once⟩
  made j member := by
    rw [List.map_cons, List.mem_append, List.mem_cons, or_left_comm, ← List.mem_append] at member
    obtain rfl | before := member
    · exact Nat.lt_succ_self _
    · exact Nat.lt_succ_of_lt (books.made j before)

/-- A thing on loan comes back. -/
theorem back (books : Balanced idle out fresh) (held : (t, i) ∈ out) :
    Balanced (idle ++ [i]) (out.erase (t, i)) fresh := by
  have same : (idle ++ [i] ++ (out.erase (t, i)).map Prod.snd).Perm (idle ++ out.map Prod.snd) := by
    rw [List.append_assoc]
    exact ((List.perm_cons_erase held).map Prod.snd).symm.append_left idle
  exact ⟨same.nodup_iff.mpr books.once, fun j member => books.made j (same.subset member)⟩

end Balanced

end Loans

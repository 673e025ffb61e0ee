import Seckill.Verified.Parts
import Seckill.Verified.Scenario

/-! # The errands of a handler thread

How far a thread is with the `Worker` it got from the completion queue, told by its own
calls.  In a turn of `HandleRPCS` each is made at its place: the `LPUSH` before the
`new Worker`, that before `Finish`, and the `LPOP` before the `delete`.
-/

namespace Seckill

open CStr CallTree Threads

/-- What a thread is about to do with its `Worker`, and with the one it creates.  A thread that
    was told of a status it does not expect is `odd`, and may do anything. -/
inductive Errand where
  | free
  | odd
  | got (w : WorkerId)
  | serving (w : WorkerId)
  | marked (w : WorkerId)
  | pushed (w : WorkerId)
  | making (w n : WorkerId)
  | made (w n : WorkerId)
  | spawned (w : WorkerId)
  | back (w : WorkerId)
  | ending (w : WorkerId)
  | popped (w : WorkerId)

def Errand.note : Errand → (c : Call) → Fate → c.Reply → Errand
  | .odd, _, _, _ => .odd
  | _, .grpc .next, .deliver _ _ _, w => .got w
  | _, .grpc .next, _, w => .back w
  | .got w, .grpc (.status _), _, st => if st = .process then .serving w else .odd
  | .back w, .grpc (.status _), _, st => if st = .finish then .ending w else .odd
  | .serving w, .grpc (.setStatus _ _), _, _ => .marked w
  | .marked w, .redis (.command _ (.lpush _)), _, _ => .pushed w
  | .pushed w, .grpc .alloc, _, n => .making w n
  | .making w n, .grpc (.setStatus _ _), _, _ => .made w n
  | .made w _, .grpc (.requestseckill _), _, _ => .spawned w
  | .spawned _, .grpc (.finish _ _), _, _ => .free
  | .ending w, .redis (.command _ .lpop), _, _ => .popped w
  | .popped _, .grpc (.delete _), _, _ => .free
  | e, _, _, _ => e

def Errand.Allows (e : Errand) : Call → Prop
  | .grpc .next => e = .free
  | .grpc (.status w) => e = .got w ∨ e = .back w
  | .grpc (.setStatus w st) => e = .serving w ∧ st = .finish ∨
      st = .process ∧ ∃ parent, e = .making parent w
  | .grpc .alloc => ∃ w, e = .pushed w
  | .grpc (.requestseckill n) => ∃ w, e = .made w n
  | .grpc (.finish w _) => e = .spawned w
  | .grpc (.delete w) => e = .popped w
  | .redis (.command _ (.lpush _)) => ∃ w, e = .marked w
  | .redis (.command _ .lpop) => ∃ w, e = .ending w
  | _ => True

abbrev errands : Watch server where
  Local := Errand
  allowed e c := e = .odd ∨ e.Allows c
  note := Errand.note
  idle := .free
  begin
    | .handleRPCS => .free
    | .fallback => .odd
  settled e := e = .odd ∨ e = .free

/-! ## The programs -/

variable {e : Errand} {c : Call} {w : WorkerId} {α : Type}

/-- A call that is no errand. -/
def Call.Idle : Call → Prop
  | .redis (.command _ (.lpush _)) | .redis (.command _ .lpop) => False
  | .redis _ | .mysql _ | .counter _ | .crash _ => True
  | .grpc (.usrname _) | .grpc (.usrkey _) | .grpc (.result _) | .grpc (.setResult _ _) => True
  | .grpc _ => False

theorem Call.Gates.idle (c : Call) (gates : c.Gates) : c.Idle := by
  rcases c with (_ | _ | ⟨c, cmd⟩) | c | c | c | why
  · trivial
  · trivial
  · cases cmd <;> trivial
  · trivial
  · trivial
  · exact absurd gates id
  · trivial

theorem Call.Serves.idle (c : Call) (serves : c.Serves w) : c.Idle := by
  rcases c with (_ | _ | ⟨c, cmd⟩) | c | c | c | why
  · trivial
  · trivial
  · cases cmd <;> trivial
  · trivial
  · trivial
  · cases c <;> trivial
  · trivial

theorem Errand.allows_idle (idle : c.Idle) : e.Allows c := by
  rcases c with (_ | _ | ⟨c, cmd⟩) | c | c | c | why
  · trivial
  · trivial
  · cases cmd <;> trivial
  · trivial
  · trivial
  · cases c <;> trivial
  · trivial

@[simp] theorem Errand.note_odd {f : Fate} {r : c.Reply} : Errand.odd.note c f r = .odd := by
  unfold note
  rfl

theorem Errand.note_idle {f : Fate} {r : c.Reply} (idle : c.Idle) : e.note c f r = e := by
  rcases c with (_ | _ | ⟨c, cmd⟩) | c | c | c | why
  · cases e <;> rfl
  · cases e <;> rfl
  · cases cmd <;> first | exact absurd idle id | (cases e <;> rfl)
  · cases e <;> rfl
  · cases e <;> rfl
  · cases c <;> first | exact absurd idle id | (cases e <;> rfl)
  · exact r.elim

abbrev Errs (p : Code α) (e : Errand) (post : α → Errand → Prop) : Prop :=
  p.Keeps errands.toMonitor e post

theorem errs_of_idle {p : Code α} (only : p.Only Call.Idle) : Errs p e fun _ e' => e' = e := by
  apply only.keeps
  · exact fun c idle => ⟨Or.inr (Errand.allows_idle idle), fun f r => Errand.note_idle idle⟩
  · exact fun _ => rfl

/-- An odd thread stays odd. -/
theorem errs_odd {p : Code α} : Errs p .odd fun _ e' => e' = .odd := by
  induction p with
  | ret a => rfl
  | call c k ih =>
    refine ⟨Or.inl rfl, fun f r => ?_⟩
    show Errs (k r) (Errand.odd.note c f r) _
    rw [Errand.note_odd]
    exact ih r

theorem errs_odd_settled {p : Code Unit} : Errs p .odd fun _ e' => errands.settled e' :=
  errs_odd.mono fun _ _ odd => Or.inl odd

variable {redisconn : Option ConnId} {connection : Option SessId}

theorem redisClose_idle : (redisClose redisconn).Only Call.Idle := by
  cases redisconn with
  | none => exact trivial
  | some c => exact ⟨trivial, fun _ => trivial⟩

theorem mysqlClose_idle : (mysqlClose connection).Only Call.Idle := by
  cases connection with
  | none => exact trivial
  | some m => exact ⟨trivial, fun _ => trivial⟩

theorem newWorker_errs : Errs newWorker (.pushed w) fun _ e => e = .spawned w := by
  refine ⟨Or.inr ⟨w, rfl⟩, fun _ n => ?_⟩
  refine ⟨Or.inr (Or.inr ⟨rfl, w, rfl⟩), fun _ _ => ?_⟩
  exact ⟨Or.inr ⟨w, rfl⟩, fun _ _ => rfl⟩

theorem process_errs : Errs (process w redisconn connection) (.pushed w) fun _ e => e = .free := by
  apply newWorker_errs.bind
  rintro _ _ rfl
  refine ⟨Or.inr trivial, fun _ usrName => ⟨Or.inr trivial, fun _ usrKey => ?_⟩⟩
  apply (errs_of_idle (serveRequest_serves.mono Call.Serves.idle)).bind
  rintro _ _ rfl
  apply (errs_of_idle redisClose_idle).bind
  rintro _ _ rfl
  apply (errs_of_idle mysqlClose_idle).bind
  rintro _ _ rfl
  exact ⟨Or.inr trivial, fun _ _ => ⟨Or.inr rfl, fun _ _ => rfl⟩⟩

theorem serving_errs : Errs (proceedAs w .process) (.serving w) fun _ e => e = .free := by
  refine ⟨Or.inr trivial, fun _ redisconn => ⟨Or.inr trivial, fun _ connection => ?_⟩⟩
  refine ⟨Or.inr (Or.inl ⟨rfl, rfl⟩), fun _ _ => ?_⟩
  cases redisconn with
  | none => exact ⟨Or.inr trivial, nofun⟩
  | some c => exact ⟨Or.inr ⟨w, rfl⟩, fun _ _ => process_errs⟩

theorem ending_errs : Errs (proceedAs w .finish) (.ending w) fun _ e => e = .free := by
  refine ⟨Or.inr trivial, fun _ redisconn => ?_⟩
  cases redisconn with
  | none => exact ⟨Or.inr trivial, nofun⟩
  | some c =>
    refine ⟨Or.inr ⟨w, rfl⟩, fun _ _ => ?_⟩
    exact ⟨Or.inr trivial, fun _ _ => ⟨Or.inr rfl, fun _ _ => rfl⟩⟩

theorem proceed_got : Errs (proceed w) (.got w) fun _ e => errands.settled e := by
  refine ⟨Or.inr (Or.inl rfl), fun _ status => ?_⟩
  cases status with
  | process => exact serving_errs.mono fun _ _ free => Or.inr free
  | create | finish => exact errs_odd_settled

theorem proceed_back : Errs (proceed w) (.back w) fun _ e => errands.settled e := by
  refine ⟨Or.inr (Or.inr rfl), fun _ status => ?_⟩
  cases status with
  | finish => exact ending_errs.mono fun _ _ free => Or.inr free
  | create | process => exact errs_odd_settled

theorem errands_conforms : errands.Conforms := by
  refine ⟨Or.inr rfl, fun e => ?_⟩
  cases e with
  | fallback => exact errs_odd_settled
  | handleRPCS =>
    apply (errs_of_idle (admission_gates.mono Call.Gates.idle)).bind
    rintro passed _ rfl
    cases passed with
    | false => exact Or.inr rfl
    | true =>
      refine ⟨Or.inr rfl, fun f tag => ?_⟩
      cases f with
      | deliver _ _ _ => exact proceed_got
      | ok | lostBefore | lostAfter | fail | failRollback | connect _ _ | finished _ =>
        exact proceed_back

end Seckill

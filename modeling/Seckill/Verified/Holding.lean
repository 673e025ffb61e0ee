import Seckill.Verified.Rules

/-! # What a thread holds, it holds alone

A Redis context, a MySQL connection and a `Worker` are each in the hands of one thread at
most, and of none while they are in a pool or with gRPC.  This holds of every run,
whatever the calls' fates.
-/

namespace Seckill

open CStr CallTree Threads Leases

variable {ok : Condition server} {st : Stores} {h : History server} {cfg : Config server}

/-! ## Redis contexts -/

abbrev HoldsContexts (s : RedisState) (ls : Nat → Local) : Prop :=
  Exclusive (fun l c => l.redis.ctx = some c) ls s.redispool s.fresh

theorem getContext_exclusive {L : Type} {key : L → ConnId → Prop} {s x : RedisState} {ls : Nat → L}
    {t : Nat} {connects : Bool} {r : Option ConnId} {l : L}
    (holds : Exclusive key ls s.redispool s.fresh) (own : ∀ j, key l j → r = some j)
    (got : s.getOneConnect connects = (r, x)) :
    Exclusive key (Function.update ls t l) x.redispool x.fresh := by
  obtain ⟨c, rest, pool, taken⟩ | ⟨pool, _, made⟩ | none := s.getOneConnect_cases connects
  · rw [taken] at got
    cases got
    have fresh : c ∉ rest := (List.nodup_cons.mp (pool ▸ holds.nodup)).1
    refine holds.take (i := c) (by simp [pool]) (by simp [pool]) fresh fun j held => Or.inr ?_
    exact (Option.some.inj (own j held)).symm
  · rw [made] at got
    cases got
    refine holds.make (List.Sublist.refl _) fun j held => Or.inr ?_
    exact (Option.some.inj (own j held)).symm
  · rw [none] at got
    cases got
    exact holds.keep fun j held => absurd (own j held) nofun

theorem contexts_exclusive (run : Run ok (boot st) h cfg) :
    HoldsContexts cfg.state.redis (locals watch h) := by
  refine server_invariant (fun _ s ls => HoldsContexts s.redis ls)
    ?initial ?redis ?mysql ?counter ?grpc ?start run
  case initial => exact Exclusive.init (fun _ => nofun) (List.nodup_singleton 0) (by simp [boot])
  case redis =>
    intro h cfg t c f r x _ inv _ allowed exec
    cases RedisState.exec_does exec with
    | getOneConnect got => exact getContext_exclusive inv (fun _ => id) got
    | close c =>
      have held : (locals watch h t).redis.ctx = some c := by rw [allowed]
      exact inv.give held fun j other => absurd other nofun
    | command c cmd sent =>
      obtain ⟨pool, fresh, _, _⟩ := RedisState.redisCommand_pool sent
      simp only [HoldsContexts, pool, fresh]
      exact inv.keep (by simp)
  case mysql =>
    intro h cfg t c f r x _ inv _ _ _
    exact inv.keep (by simp)
  case counter =>
    intro h cfg t c f r x _ inv _ _ _
    exact inv.keep (by simp)
  case grpc =>
    intro h cfg t c f r x _ inv _ _ _
    exact inv.keep (by simp)
  case start =>
    intro h cfg t e _ inv _ _
    exact inv.keep (by cases e <;> exact nofun)

/-! ## MySQL connections -/

abbrev HoldsSessions (s : MysqlState) (ls : Nat → Local) : Prop :=
  Exclusive (fun l m => l.sql.con = some m) ls s.mysqlpool s.fresh

theorem getSession_exclusive {s x : MysqlState} {ls : Nat → Local} {t : Nat}
    {alive : SessId → Bool} {connects : Bool} {r : Option SessId} {l : Local}
    (holds : HoldsSessions s ls) (con : l.sql.con = r)
    (got : s.getOneConnect alive connects = (r, x)) :
    HoldsSessions x (Function.update ls t l) := by
  obtain ⟨s', evicted, cases⟩ := s.getOneConnect_cases alive connects
  obtain ⟨sub, fresh⟩ := s.evict_pool alive s.mysqlpool
  rw [← evicted] at sub fresh
  obtain ⟨m, rest, pool, taken⟩ | ⟨pool, made⟩ | none := cases
  · rw [taken] at got
    cases got
    have nodup : (m :: rest).Nodup := pool ▸ holds.nodup.sublist sub
    have free : m ∈ s.mysqlpool := sub.subset (by simp [pool])
    have left : rest.Sublist s.mysqlpool := (List.sublist_cons_self m rest).trans (pool ▸ sub)
    simp only [HoldsSessions, fresh]
    refine holds.take free left (List.nodup_cons.mp nodup).1 fun j held => Or.inr ?_
    exact Option.some.inj (held.symm.trans con)
  · rw [made] at got
    cases got
    simp only [HoldsSessions, fresh]
    refine holds.make sub fun j held => Or.inr ?_
    exact Option.some.inj (held.symm.trans (con.trans (congrArg some fresh)))
  · rw [none] at got
    cases got
    simp only [HoldsSessions, fresh]
    exact holds.shrink sub fun j held => absurd (con.symm.trans held) nofun

theorem sessions_exclusive (run : Run ok (boot st) h cfg) :
    HoldsSessions cfg.state.mysql (locals watch h) := by
  refine server_invariant (fun _ s ls => HoldsSessions s.mysql ls)
    ?initial ?redis ?mysql ?counter ?grpc ?start run
  case initial =>
    exact Exclusive.init (fun _ => (by simp)) (List.nodup_singleton 0) (by simp [boot])
  case redis =>
    intro h cfg t c f r x _ inv _ _ _
    exact inv.keep (by simp)
  case mysql =>
    intro h cfg t c f r x _ inv _ allowed exec
    by_cases get : c = .getOneConnect
    · subst get
      obtain ⟨_, _, got⟩ := MysqlState.exec_getOneConnect exec
      exact getSession_exclusive inv rfl got
    by_cases close : ∃ m, c = .close m
    · obtain ⟨m, rfl⟩ := close
      cases f <;> cases exec
      have held : (locals watch h t).sql.con = some m := by rw [allowed]
      exact inv.give held fun j other => by cases other
    · obtain ⟨pool, fresh, _, _⟩ := MysqlState.exec_pool exec get fun m same => close ⟨m, same⟩
      simp only [HoldsSessions, pool, fresh]
      exact inv.keep fun j held => by rwa [Local.note_con get fun m same => close ⟨m, same⟩] at held
  case counter =>
    intro h cfg t c f r x _ inv _ _ _
    exact inv.keep (by simp)
  case grpc =>
    intro h cfg t c f r x _ inv _ _ _
    exact inv.keep (by simp)
  case start =>
    intro h cfg t e _ inv _ _
    exact inv.keep fun j held => by cases e <;> cases held

/-! ## Workers -/

/-- The `Worker` a thread creates is not the one delivered to it. -/
def Local.Apart (l : Local) : Prop := ∀ w, l.job.worker = some w → l.job.newborn ≠ some w

/-- A thread has hold of the `Worker` delivered to it and of the one it is creating. -/
structure HoldsWorkers (s : GrpcState) (ls : Nat → Local) : Prop where
  leases : Exclusive (fun l w => l.job.worker = some w ∨ l.job.newborn = some w) ls
    (s.registered ++ s.finishing) s.fresh
  other : ∀ t, (ls t).Apart

variable {s x : GrpcState} {ls : Nat → Local} {t : Nat} {l : Local} {w : WorkerId}

/-- A call on the members of a `Worker`. -/
theorem HoldsWorkers.keep (holds : HoldsWorkers s ls) (registered : x.registered = s.registered)
    (finishing : x.finishing = s.finishing) (fresh : x.fresh = s.fresh)
    (worker : l.job.worker = (ls t).job.worker) (newborn : l.job.newborn = (ls t).job.newborn) :
    HoldsWorkers x (Function.update ls t l) where
  leases := by
    rw [registered, finishing, fresh]
    exact holds.leases.keep fun j held => by rwa [worker, newborn] at held
  other := by
    refine forall_update holds.other fun j held => ?_
    rw [newborn]
    exact holds.other t j (worker ▸ held)

/-- The thread lets go of its `Worker`. -/
theorem HoldsWorkers.drop (holds : HoldsWorkers s ls) (registered : x.registered = s.registered)
    (finishing : x.finishing = s.finishing) (fresh : x.fresh = s.fresh)
    (worker : l.job.worker = none) (newborn : l.job.newborn = (ls t).job.newborn) :
    HoldsWorkers x (Function.update ls t l) where
  leases := by
    rw [registered, finishing, fresh]
    refine holds.leases.keep fun j held => Or.inr ?_
    rw [worker, newborn] at held
    exact held.resolve_left nofun
  other := forall_update holds.other fun j held => absurd (worker.symm.trans held) nofun

theorem HoldsWorkers.make (holds : HoldsWorkers s ls)
    (worker : l.job.worker = (ls t).job.worker) (newborn : l.job.newborn = some s.fresh)
    (registered : x.registered = s.registered) (finishing : x.finishing = s.finishing)
    (fresh : x.fresh = s.fresh + 1) : HoldsWorkers x (Function.update ls t l) where
  leases := by
    rw [registered, finishing, fresh]
    refine holds.leases.make (List.Sublist.refl _) fun j held => ?_
    rw [worker, newborn] at held
    exact held.imp Or.inl fun same => (Option.some.inj same).symm
  other := by
    refine forall_update holds.other fun j held same => ?_
    rw [worker] at held
    rw [newborn] at same
    have made := holds.leases.held_made (Or.inl held)
    exact Nat.lt_irrefl _ (Option.some.inj same ▸ made)

/-- The thread hands the `Worker` it created, or the one it serves, to gRPC. -/
theorem HoldsWorkers.give (holds : HoldsWorkers s ls)
    (held : (ls t).job.worker = some w ∨ (ls t).job.newborn = some w)
    (idle : (s.registered ++ s.finishing ++ [w]).Perm (x.registered ++ x.finishing))
    (fresh : x.fresh = s.fresh)
    (own : ∀ j, l.job.worker = some j ∨ l.job.newborn = some j →
      ((ls t).job.worker = some j ∨ (ls t).job.newborn = some j) ∧ j ≠ w)
    (other : l.Apart) :
    HoldsWorkers x (Function.update ls t l) where
  leases := by
    rw [fresh]
    exact (holds.leases.give held own).perm idle
  other := forall_update holds.other other

/-- gRPC hands a `Worker` to a thread that has none. -/
theorem HoldsWorkers.take (holds : HoldsWorkers s ls) (free : w ∈ s.registered ++ s.finishing)
    (rest : (x.registered ++ x.finishing).Sublist (s.registered ++ s.finishing))
    (taken : w ∉ x.registered ++ x.finishing) (fresh : x.fresh = s.fresh)
    (worker : l.job.worker = some w) (newborn : l.job.newborn = none) :
    HoldsWorkers x (Function.update ls t l) where
  leases := by
    rw [fresh]
    refine holds.leases.take free rest taken fun j held => Or.inr ?_
    rw [worker, newborn] at held
    exact (Option.some.inj (held.resolve_right nofun)).symm
  other := forall_update holds.other fun j _ => newborn ▸ nofun

theorem workers_step {c : GrpcCall} {f : Fate} {r : c.Reply} (holds : HoldsWorkers s ls)
    (allowed : (ls t).AllowsGrpc c) (done : s.exec c f = some (r, x)) :
    HoldsWorkers x (Function.update ls t ((ls t).note (.grpc c) f r)) := by
  cases GrpcState.exec_does done with
  | alloc => exact holds.make rfl rfl rfl rfl rfl
  | status w found | usrname w found | usrkey w found | setResult w result found | result w found =>
    exact holds.keep rfl rfl rfl rfl rfl
  | setStatus w st found =>
    refine holds.keep rfl rfl rfl ?_ ?_
    all_goals
      simp only [Local.note, Local.noteGrpc, Job.noteStatus]
      (repeat' split) <;> rfl
  | requestseckill w found =>
    have idle : (s.registered ++ s.finishing ++ [w]).Perm (s.registered ++ [w] ++ s.finishing) := by
      rw [List.append_assoc, List.append_assoc]
      exact List.perm_append_comm.append_left s.registered
    obtain ⟨newborn, _⟩ | ⟨newborn, worker, _⟩ := allowed
    · -- the new Worker registers itself, and the thread keeps its own
      refine holds.give (Or.inr newborn) idle rfl ?_ ?_
      · intro j held
        simp [Local.note, Local.noteGrpc, Job.noteRegistered, newborn] at held
        exact ⟨Or.inl held, fun same => holds.other t j held (same ▸ newborn)⟩
      · intro j held
        simp [Local.note, Local.noteGrpc, Job.noteRegistered, newborn]
    · -- the `CREATE` branch, which registers the thread's own
      refine holds.give (Or.inl worker) idle rfl ?_ ?_
      · intro j held
        simp [Local.note, Local.noteGrpc, Job.noteRegistered, newborn] at held
      · intro j held
        simp [Local.note, Local.noteGrpc, Job.noteRegistered, newborn]
  | finish w result found =>
    obtain ⟨worker, newborn, _⟩ := allowed
    refine holds.give (w := w) (Or.inl worker) (by simp) rfl ?_ ?_
    · intro j held
      simp [Local.note, Local.noteGrpc, newborn] at held
    · intro j held
      simp [Local.note, Local.noteGrpc] at held
  | delete w found => exact holds.drop rfl rfl rfl rfl rfl
  | deliver w usrname usrkey free found =>
    have nodup := List.nodup_append.mp holds.leases.nodup
    refine holds.take (List.mem_append_left _ free) ?_ ?_ rfl rfl rfl
    · exact List.erase_sublist.append_right _
    · intro member
      obtain left | other := List.mem_append.mp member
      · exact nodup.1.not_mem_erase left
      · exact nodup.2.2 _ free _ other rfl
  | finished w free =>
    have nodup := List.nodup_append.mp holds.leases.nodup
    refine holds.take (List.mem_append_right _ free) ?_ ?_ rfl rfl rfl
    · exact List.erase_sublist.append_left _
    · intro member
      obtain other | left := List.mem_append.mp member
      · exact nodup.2.2 _ other _ free rfl
      · exact nodup.2.1.not_mem_erase left

theorem workers_exclusive (run : Run ok (boot st) h cfg) :
    HoldsWorkers cfg.state.grpc (locals watch h) := by
  refine server_invariant (fun _ s ls => HoldsWorkers s.grpc ls)
    ?initial ?redis ?mysql ?counter ?grpc ?start run
  case initial =>
    exact ⟨Exclusive.init (fun _ => by simp) (List.nodup_singleton 0) (by simp [boot]),
      fun _ _ => nofun⟩
  case redis =>
    intro h cfg t c f r x _ inv _ _ _
    exact inv.keep rfl rfl rfl (by simp) (by simp)
  case mysql =>
    intro h cfg t c f r x _ inv _ _ _
    exact inv.keep rfl rfl rfl (by simp) (by simp)
  case counter =>
    intro h cfg t c f r x _ inv _ _ _
    exact inv.keep rfl rfl rfl (by simp) (by simp)
  case grpc =>
    intro h cfg t c f r x _ inv _ allowed exec
    exact workers_step inv allowed exec
  case start =>
    intro h cfg t e _ inv _ settled
    refine inv.drop rfl rfl rfl ?_ ?_
    · cases e <;> rfl
    · rw [settled.newborn]
      cases e <;> rfl

end Seckill

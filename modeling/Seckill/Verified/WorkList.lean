import Seckill.Verified.OptimisticLocking

/-! # `work_list`

Only `LPUSH` and `LPOP` change it, unless one of them was queued in a `MULTI`; and one that
is answered as it should be was executed.
-/

namespace Seckill

open CStr

/-- A command that leaves `work_list` as it is. -/
def RedisCmd.Spares : RedisCmd → Prop
  | .lpush _ | .lpop => False
  | _ => True

/-- No `LPUSH` or `LPOP` is queued. -/
def Unqueued (s : RedisState) : Prop :=
  ∀ c q, (s.conn c).queue = some q → ∀ cmd ∈ q, cmd.Spares

variable {s x : RedisState} {c : ConnId} {cmd : RedisCmd} {f : Fate}

theorem run_spares (d : RedisData) (spares : cmd.Spares) :
    (d.run cmd).2.1.workList = d.workList := by
  cases cmd with
  | lpush value | lpop => exact absurd spares id
  | hmset key field value => cases key <;> rfl
  | decr =>
    simp only [RedisData.run]
    (repeat' split) <;> rfl
  | watch | unwatch | multi | exec | get | set value | hget key field | llen => rfl

theorem runAll_spares (d : RedisData) {q : List RedisCmd} (spares : ∀ cmd ∈ q, cmd.Spares) :
    (d.runAll q).1.workList = d.workList := by
  induction q generalizing d with
  | nil => rfl
  | cons cmd q ih =>
    have first := run_spares d (spares cmd List.mem_cons_self)
    have rest := ih (d.run cmd).2.1 fun cmd' member => spares cmd' (List.mem_cons_of_mem _ member)
    exact rest.trans first

theorem Unqueued.setConn {y : Conn} (unqueued : Unqueued s)
    (own : ∀ q, y.queue = some q → ∀ cmd ∈ q, cmd.Spares) : Unqueued (s.setConn c y) := by
  intro c' q queue
  change (Function.update s.conn c y c').queue = some q at queue
  by_cases same : c' = c
  · subst same
    rw [Function.update_self] at queue
    exact own q queue
  · rw [Function.update_of_ne same] at queue
    exact unqueued c' q queue

theorem Unqueued.lose (unqueued : Unqueued s) : Unqueued (s.lose c) :=
  unqueued.setConn fun _ none => nomatch none

theorem Unqueued.touch {d : RedisData} {touched : Bool} (unqueued : Unqueued s) :
    Unqueued { s with data := d, conn := RedisState.touch s.conn touched } := by
  intro c q queue
  exact unqueued c q (touch_queue.symm.trans queue)

theorem serve_spares (unqueued : Unqueued s) (spares : cmd.Spares) :
    (s.serve c cmd).2.data.workList = s.data.workList ∧ Unqueued (s.serve c cmd).2 := by
  -- outside of `MULTI` a command is executed, inside of it queued
  cases queue : (s.conn c).queue with
  | none =>
    have kept (y : Conn) (same : y.queue = none ∨ y.queue = some []) : Unqueued (s.setConn c y) := by
      apply unqueued.setConn
      intro q own
      obtain none | nil := same
      · cases none.symm.trans own
      · cases nil.symm.trans own
        simp
    cases cmd with
    | watch | unwatch =>
      simp only [RedisState.serve, queue]
      exact ⟨rfl, kept _ (Or.inl rfl)⟩
    | multi =>
      simp only [RedisState.serve, queue]
      exact ⟨rfl, kept _ (Or.inr rfl)⟩
    | exec =>
      simp only [RedisState.serve, queue]
      exact ⟨trivial, unqueued⟩
    | lpush value | lpop => exact absurd spares id
    | get | set value | decr | hget key field | hmset key field value | llen =>
      rw [serve_data queue (by simp)]
      exact ⟨run_spares s.data spares, unqueued.touch⟩
  | some q =>
    cases cmd with
    | watch | multi =>
      simp only [RedisState.serve, queue]
      exact ⟨trivial, unqueued⟩
    | exec =>
      simp only [RedisState.serve, queue]
      split
      · exact ⟨rfl, unqueued.setConn fun _ none => by cases none⟩
      · -- the queued commands spare the list as well
        refine ⟨runAll_spares s.data (unqueued c q queue), ?_⟩
        have touched : Unqueued { s with
            data := (s.data.runAll q).1, conn := RedisState.touch s.conn (s.data.runAll q).2 } :=
          unqueued.touch
        exact touched.setConn fun _ none => by cases none
    | lpush value | lpop => exact absurd spares id
    | unwatch | get | set value | decr | hget key field | hmset key field value | llen =>
      rw [serve_queued queue (by simp)]
      refine ⟨rfl, unqueued.setConn fun q' own cmd member => ?_⟩
      cases own
      obtain before | last := List.mem_append.mp member
      · exact unqueued c q queue cmd before
      · cases List.mem_singleton.mp last
        trivial

/-- A command that leaves the list as it is, executed or not. -/
theorem command_spares {r : Option RedisReply} (sent : s.redisCommand c cmd f = some (r, x))
    (unqueued : Unqueued s) (spares : cmd.Spares) :
    x.data.workList = s.data.workList ∧ Unqueued x := by
  obtain ⟨list, kept⟩ := serve_spares (c := c) unqueued spares
  unfold RedisState.redisCommand at sent
  (repeat' split at sent) <;> cases sent
  · exact ⟨rfl, unqueued⟩
  · exact ⟨list, kept⟩
  · exact ⟨rfl, unqueued.lose⟩
  · exact ⟨list, kept.lose⟩

/-- A command that is answered was served, and outside `MULTI` if it was not told `QUEUED`. -/
theorem command_run {r : RedisReply} (sent : s.redisCommand c cmd f = some (some r, x))
    (data : cmd ≠ .watch ∧ cmd ≠ .unwatch ∧ cmd ≠ .multi ∧ cmd ≠ .exec)
    (unheld : ∀ text, r ≠ .status text) :
    r = (s.data.run cmd).1 ∧ x = { s with
      data := (s.data.run cmd).2.1, conn := RedisState.touch s.conn (s.data.run cmd).2.2 } := by
  have served : s.serve c cmd = (r, x) := by
    unfold RedisState.redisCommand at sent
    (repeat' split at sent) <;> cases sent
    rfl
  cases queue : (s.conn c).queue with
  | some q =>
    rw [serve_queued queue ⟨data.1, data.2.2⟩] at served
    cases served
    exact absurd rfl (unheld _)
  | none =>
    rw [serve_data queue data] at served
    cases served
    exact ⟨rfl, rfl⟩

/-- An `LPUSH` that is answered with a number. -/
theorem lpush_pushes {value : Str} {n : Int}
    (sent : s.redisCommand c (.lpush value) f = some (some (.integer n), x)) (unqueued : Unqueued s) :
    x.data.workList = value :: s.data.workList ∧ Unqueued x := by
  obtain ⟨_, rfl⟩ := command_run sent (by simp) (by simp)
  exact ⟨rfl, unqueued.touch⟩

/-- An `LPOP` that is answered with an element, or with none. -/
theorem lpop_pops {r : RedisReply} (sent : s.redisCommand c .lpop f = some (some r, x))
    (popped : r = .nil ∨ ∃ value, r = .string value) (unqueued : Unqueued s) :
    x.data.workList = s.data.workList.tail ∧ Unqueued x := by
  obtain ⟨_, rfl⟩ := command_run sent (by simp) (by
    obtain rfl | ⟨value, rfl⟩ := popped <;> simp)
  refine ⟨?_, unqueued.touch⟩
  show (s.data.run .lpop).2.1.workList = s.data.workList.tail
  cases list : s.data.workList with
  | nil => simp [RedisData.run, list]
  | cons v rest => simp [RedisData.run, list]

end Seckill

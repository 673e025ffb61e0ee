import Seckill.Verified.Holding
import Seckill.Verified.Scenario

/-! # Optimistic locking

What the server keeps for a connection, its watch and the queue of its `MULTI`, against
the place in `seckillGoods` of the thread that holds the context.  As long as a context
has no error, its queue is exactly what the thread has sent, and a watch that is still
untouched proves that `total_count` is the text the thread has read.
-/

namespace Seckill

open CStr CallTree Threads Leases

variable {ok : Condition server} {st : Stores} {h : History server} {cfg : Config server}

/-- The watch of a connection guards the text `v` of `total_count`. -/
def Guards (x : Conn) (count v : Str) : Prop :=
  ∃ touched, x.watched = some touched ∧ (touched = false → count = v)

/-- The server's side of a connection agrees with the thread's place in the transaction. -/
def Fits (x : Conn) (count : Str) : RedisPhase → Prop
  | .free => x.queue = none
  | .refused => False
  | .watched => x.queue = none ∧ x.watched.isSome
  | .counted v => x.queue = none ∧ Guards x count v
  | .opened v => x.queue = some [] ∧ Guards x count v
  | .decred v => x.queue = some [.decr] ∧ Guards x count v
  | .queued v user =>
    (∃ key, x.queue = some [.decr, .hmset .orderInfo user key]) ∧ Guards x count v

theorem Guards.touch {x : Conn} {count count' v : Str} (guards : Guards x count v) :
    Guards x.touch count' v := by
  obtain ⟨touched, watched, _⟩ := guards
  exact ⟨true, by simp [Conn.touch, watched], nofun⟩

/-- A write to `total_count` by another connection spoils the guard, not the place. -/
theorem Fits.touch {x : Conn} {count count' : Str} {p : RedisPhase} (fits : Fits x count p) :
    Fits x.touch count' p := by
  cases p with
  | free | refused => exact fits
  | watched => exact ⟨fits.1, by simpa [Conn.touch] using fits.2⟩
  | counted v | opened v | decred v | queued v user => exact ⟨fits.1, fits.2.touch⟩

/-! ## One command of the thread itself -/

variable {s x : RedisState} {c : ConnId} {l : Local}

/-- A data command outside `MULTI` leaves the connection's queue empty. -/
theorem serve_data {cmd : RedisCmd} (queue : (s.conn c).queue = none)
    (data : cmd ≠ .watch ∧ cmd ≠ .unwatch ∧ cmd ≠ .multi ∧ cmd ≠ .exec) :
    s.serve c cmd = ((s.data.run cmd).1, { s with
      data := (s.data.run cmd).2.1, conn := RedisState.touch s.conn (s.data.run cmd).2.2 }) := by
  cases cmd <;> simp_all [RedisState.serve]

/-- A command inside `MULTI` is queued. -/
theorem serve_queued {cmd : RedisCmd} {q : List RedisCmd} (queue : (s.conn c).queue = some q)
    (queues : cmd ≠ .watch ∧ cmd ≠ .multi ∧ cmd ≠ .exec) :
    s.serve c cmd = (.status ['Q', 'U', 'E', 'U', 'E', 'D'],
      s.setConn c { s.conn c with queue := some (q ++ [cmd]) }) := by
  cases cmd <;> simp_all [RedisState.serve]

theorem touch_queue {conn : ConnId → Conn} {touched : Bool} :
    (RedisState.touch conn touched c).queue = (conn c).queue := by
  cases touched <;> rfl

/-- A data command leaves a thread outside the transaction where it is. -/
theorem Fits.data {cmd : RedisCmd} (fits : Fits (s.conn c) s.data.totalCount .free)
    (data : cmd ≠ .watch ∧ cmd ≠ .unwatch ∧ cmd ≠ .multi ∧ cmd ≠ .exec) :
    Fits ((s.serve c cmd).2.conn c) (s.serve c cmd).2.data.totalCount .free := by
  rw [serve_data fits data]
  exact touch_queue.trans fits

/-- The connection stays where the thread is, one command on. -/
theorem Fits.serve {cmd : RedisCmd} (fits : Fits (s.conn c) s.data.totalCount l.redis.phase)
    (allowed : l.AllowsCmd cmd) :
    Fits ((s.serve c cmd).2.conn c) (s.serve c cmd).2.data.totalCount
      (l.noteCmd cmd (some (s.serve c cmd).1)).redis.phase := by
  cases cmd with
  | watch =>
    rw [allowed.1] at fits
    have queue : (s.conn c).queue = none := fits
    simp only [RedisState.serve, queue]
    exact ⟨by simp [RedisState.setConn], by simp [RedisState.setConn]⟩
  | unwatch =>
    -- it comes after the `EXEC` or without a `MULTI`, so it is not queued
    have queue : (s.conn c).queue = none := by
      obtain free | ⟨v, counted⟩ := allowed
      · rwa [free] at fits
      · rw [counted] at fits
        exact fits.1
    simp only [RedisState.serve, queue]
    simp [Fits, Local.noteCmd, Local.setPhase, RedisState.setConn]
  | multi =>
    obtain ⟨v, counted, _⟩ := allowed
    rw [counted] at fits
    obtain ⟨queue, guards⟩ := fits
    have opened : isOK (some (.status okText)) = true := by decide
    simp only [RedisState.serve, queue, Local.noteCmd, counted, opened, if_true]
    exact ⟨by simp [RedisState.setConn], by simpa [RedisState.setConn, Guards] using guards⟩
  | exec =>
    obtain ⟨_, _, v, name, queued, _⟩ := allowed
    rw [queued] at fits
    obtain ⟨⟨key, queue⟩, guards⟩ := fits
    simp only [RedisState.serve, queue]
    split
    · -- the watched key was touched, and the reply is nil
      simp [Fits, Local.noteCmd, granted, Local.setPhase, Local.retried, RedisState.setConn,
        Conn.forget]
    · simp [Fits, Local.noteCmd, granted, Local.setPhase, Local.grant, Conn.forget]
  | get =>
    obtain refused | watched := allowed
    · -- a server that answers never refuses the `WATCH`
      rw [refused] at fits
      exact fits.elim
    · rw [watched] at fits
      obtain ⟨queue, isSome⟩ := fits
      have counted : (l.noteCmd .get (some (.string s.data.totalCount))).redis.phase =
          .counted s.data.totalCount := by
        simp only [Local.noteCmd, Local.noteGet, watched, Option.bind_some, RedisReply.str]
        split <;> rfl
      obtain ⟨touched, on⟩ := Option.isSome_iff_exists.mp isSome
      rw [serve_data queue (by simp)]
      simp only [RedisData.run, counted, RedisState.touch]
      exact ⟨queue, touched, on, fun _ => rfl⟩
  | decr =>
    -- queued, so the count is still the one that was read
    obtain ⟨v, opened⟩ := allowed
    rw [opened] at fits
    obtain ⟨queue, guards⟩ := fits
    rw [serve_queued queue (by simp)]
    simp only [Local.noteCmd, opened]
    exact ⟨by simp [RedisState.setConn], by simpa [RedisState.setConn, Guards] using guards⟩
  | hmset key field value =>
    cases key with
    | usrInfo => exact allowed.elim
    | orderInfo =>
      obtain ⟨v, name, decred, _, _⟩ := allowed
      rw [decred] at fits
      obtain ⟨queue, guards⟩ := fits
      rw [serve_queued queue (by simp)]
      simp only [Local.noteCmd, decred]
      exact ⟨⟨value, by simp [RedisState.setConn]⟩, by simpa [RedisState.setConn, Guards] using guards⟩
  | set value =>
    -- the refill has given its watch up
    have stays : (l.noteCmd (.set value) (some (s.serve c (.set value)).1)).redis.phase = .free := by
      simp only [Local.noteCmd]
      (repeat' split) <;> exact allowed.1
    rw [stays]
    rw [allowed.1] at fits
    exact fits.data (by simp)
  | hget key field =>
    rw [allowed.1.1] at fits
    have stays : (l.noteCmd (.hget key field) (some (s.serve c (.hget key field)).1)).redis.phase =
        .free := allowed.1.1
    rw [stays]
    exact fits.data (by simp)
  | lpush value | lpop =>
    rw [allowed.1] at fits
    simp only [Local.noteCmd, allowed.1]
    exact fits.data (by simp)
  | llen =>
    rw [allowed.1] at fits
    have stays : (l.noteCmd .llen (some (s.serve c .llen).1)).redis.phase = .free := by
      unfold Local.noteCmd
      split <;> first | exact allowed.1 | simp_all
    rw [stays]
    exact fits.data (by simp)

/-! ## All connections -/

/-- The context the thread holds, unless it has an error, fits the thread. -/
def InStep (s : RedisState) (l : Local) : Prop :=
  ∀ c, l.redis.ctx = some c → (s.conn c).err = false →
    Fits (s.conn c) s.data.totalCount l.redis.phase

/-- Every thread is in step with its context, and an idle context has no open `MULTI`. -/
structure Watches (s : RedisState) (ls : Nat → Local) : Prop where
  fits : ∀ t, InStep s (ls t)
  idle : ∀ c ∈ s.redispool, (s.conn c).err = false → (s.conn c).queue = none

variable {ls : Nat → Local} {t : Nat}

/-- The thread's place does not change, nor does Redis. -/
theorem Watches.keep (watches : Watches s ls) (redis : l.redis = (ls t).redis) :
    Watches s (Function.update ls t l) where
  fits := by
    refine forall_update watches.fits ?_
    rw [InStep, redis]
    exact watches.fits t
  idle := watches.idle

theorem Watches.command {cmd : RedisCmd} {f : Fate} {r : Option RedisReply}
    (watches : Watches s ls) (holds : HoldsContexts s ls) (ctx : (ls t).redis.ctx = some c)
    (allowed : (ls t).AllowsCmd cmd) (sent : s.redisCommand c cmd f = some (r, x)) :
    Watches x (Function.update ls t ((ls t).note (.redis (.command c cmd)) f r)) := by
  have pool := (RedisState.redisCommand_pool sent).pool
  -- what held of another connection still does
  have others {c' : ConnId} {p : RedisPhase} (other : c' ≠ c)
      (before : (s.conn c').err = false → Fits (s.conn c') s.data.totalCount p)
      (healthy : (x.conn c').err = false) : Fits (x.conn c') x.data.totalCount p := by
    obtain ⟨conn, count⟩ | conn := RedisState.redisCommand_others sent other
    · rw [conn] at healthy ⊢
      rw [count]
      exact before healthy
    · rw [conn] at healthy ⊢
      exact (before healthy).touch
  constructor
  · intro t' c' held healthy
    by_cases same : t' = t
    · subst same
      rw [Function.update_self] at held ⊢
      rw [Local.note_command.1, ctx] at held
      cases held
      have served : f = .ok ∧ (s.conn c).err = false := by
        by_contra broken
        rw [Classical.not_and_iff_not_or_not, Bool.not_eq_false] at broken
        have err := (RedisState.redisCommand_broken sent broken).2
        simp [err] at healthy
      obtain ⟨rfl, before⟩ := served
      obtain ⟨rfl, rfl⟩ := RedisState.redisCommand_ok sent before
      exact (watches.fits t' c ctx before).serve allowed
    · rw [Function.update_of_ne same] at held ⊢
      have other : c' ≠ c := fun eq => same (holds.once (eq ▸ held) ctx)
      exact others other (watches.fits t' c' held) healthy
  · intro c' free healthy
    rw [pool] at free
    have other : c' ≠ c := fun eq => holds.apart ctx (eq ▸ free)
    exact others (p := .free) other (watches.idle c' free) healthy

theorem Watches.getOneConnect {connects : Bool} {r : Option ConnId} (watches : Watches s ls)
    (holds : HoldsContexts s ls) (redis : l.redis = ⟨r, .free⟩)
    (got : s.getOneConnect connects = (r, x)) : Watches x (Function.update ls t l) := by
  obtain ⟨c, rest, pool, taken⟩ | ⟨pool, _, made⟩ | none := s.getOneConnect_cases connects
  · rw [taken] at got
    cases got
    constructor
    · refine forall_update watches.fits fun c' held healthy => ?_
      rw [redis] at held ⊢
      cases held
      exact watches.idle c (by simp [pool]) healthy
    · exact fun c' free => watches.idle c' (by simp [pool, free])
  · rw [made] at got
    cases got
    have older {c' : ConnId} (made : c' < s.fresh) : (s.setConn s.fresh {}).conn c' = s.conn c' :=
      Function.update_of_ne (Nat.ne_of_lt made) _ _
    constructor
    · intro t' c' held healthy
      by_cases same : t' = t
      · subst same
        rw [Function.update_self] at held ⊢
        rw [redis] at held ⊢
        cases held
        simp [Fits, RedisState.setConn]
      · rw [Function.update_of_ne same] at held ⊢
        rw [older (holds.held_made held)] at healthy ⊢
        exact watches.fits t' c' held healthy
    · intro c' free
      change c' ∈ s.redispool at free
      rw [pool] at free
      exact absurd free List.not_mem_nil
  · rw [none] at got
    cases got
    refine ⟨forall_update watches.fits fun c' held => ?_, watches.idle⟩
    rw [redis] at held
    cases held

theorem Watches.close (watches : Watches s ls) (held : (ls t).redis = ⟨some c, .free⟩)
    (redis : l.redis.ctx = none) : Watches (s.close c) (Function.update ls t l) := by
  constructor
  · refine forall_update watches.fits fun c' held => ?_
    rw [redis] at held
    cases held
  · intro c' member healthy
    obtain free | last := List.mem_append.mp member
    · exact watches.idle c' free healthy
    · cases List.mem_singleton.mp last
      have fits := watches.fits t c (by rw [held]) healthy
      rwa [held] at fits

theorem watches (run : Run ok (boot st) h cfg) : Watches cfg.state.redis (locals watch h) := by
  refine server_invariant (fun _ s ls => Watches s.redis ls)
    ?initial ?redis ?mysql ?counter ?grpc ?start run
  case initial => exact ⟨fun _ _ => nofun, fun _ _ _ => rfl⟩
  case redis =>
    intro h cfg t c f r x run inv _ allowed exec
    have holds := contexts_exclusive run
    cases RedisState.exec_does exec with
    | getOneConnect got => exact inv.getOneConnect holds rfl got
    | close c => exact inv.close allowed rfl
    | command c cmd sent => exact inv.command holds allowed.1 allowed.2 sent
  case mysql =>
    intro h cfg t c f r x _ inv _ _ _
    exact inv.keep (by simp)
  case counter =>
    intro h cfg t c f r x _ inv _ _ _
    exact inv.keep (by simp)
  case grpc =>
    intro h cfg t c f r x _ inv _ _ _
    exact inv.keep (by simp)
  case start =>
    intro h cfg t e _ inv _ settled
    refine inv.keep ?_
    rw [settled.redis]
    cases e <;> rfl

/-! ## What `EXEC` does -/

/-- The two queued commands, on a count that is a positive `long`. -/
theorem runAll_order {d : RedisData} {k : Nat} {user key : Str}
    (count : d.totalCount = decimal (k + 1)) (long : (k : Int) + 1 ≤ longMax) :
    d.runAll [.decr, .hmset .orderInfo user key] =
      ({ d with totalCount := decimal k, orderInfo := d.orderInfo.insert user key }, true) := by
  have low : longMin ≤ (k : Int) + 1 := by
    simp only [longMin]
    omega
  have inRange : longMin < (k : Int) + 1 := by
    simp only [longMin]
    omega
  simp [RedisData.runAll, RedisData.run, count, strictInt_decimal low long, inRange,
    RedisData.setHash, RedisData.hash]

/-- `EXEC` at the end of the transaction: it is refused if the watch was touched, and takes
    exactly one from the count that was read if not. -/
theorem serve_exec {v user : Str} {n : Nat} (fits : Fits (s.conn c) s.data.totalCount (.queued v user))
    (positive : 0 < atoi v) (count : s.data.totalCount = decimal n) :
    (s.serve c .exec).1 = .nil ∧ (s.serve c .exec).2.data = s.data ∨
      ∃ (k : Nat) (key : Str), v = s.data.totalCount ∧ n = k + 1 ∧
        (s.serve c .exec).1 = .array 2 ∧ (s.serve c .exec).2.data =
          { s.data with totalCount := decimal k, orderInfo := s.data.orderInfo.insert user key } := by
  obtain ⟨⟨key, queue⟩, touched, watched, untouched⟩ := fits
  cases touched with
  | true => exact Or.inl (by simp [RedisState.serve, queue, watched])
  | false =>
    refine Or.inr ?_
    have same : s.data.totalCount = v := untouched rfl
    rw [← same, count] at positive
    obtain ⟨pos, long⟩ := pos_of_atoi_decimal (Int.natCast_nonneg n) positive
    obtain ⟨k, rfl⟩ : ∃ k, n = k + 1 := ⟨n - 1, by omega⟩
    refine ⟨k, key, same.symm, rfl, ?_⟩
    push_cast at count long
    simp [RedisState.serve, queue, watched, runAll_order count long]

/-! ## The count is never negative -/

/-- A failure count the thread has read is not negative. -/
def SawCount (l : Local) : Prop := ∀ first last, l.lock = .saw first last → 0 ≤ last

structure Counts (s : Server) (ls : Nat → Local) : Prop where
  count : ∃ n : Nat, s.redis.data.totalCount = decimal n
  failed : 0 ≤ s.counters.failedCount
  saw : ∀ t, SawCount (ls t)

/-- Only the refill, `EXEC` and a `DECR` outside `MULTI` write `total_count`. -/
theorem serve_untouched {cmd : RedisCmd} (exec : cmd ≠ .exec) (set : ∀ value, cmd ≠ .set value)
    (decr : cmd = .decr → (s.conn c).queue ≠ none) :
    (s.serve c cmd).2.data.totalCount = s.data.totalCount := by
  cases queue : (s.conn c).queue with
  | none =>
    by_cases data : cmd ≠ .watch ∧ cmd ≠ .unwatch ∧ cmd ≠ .multi ∧ cmd ≠ .exec
    · rw [serve_data queue data]
      refine s.data.run_untouched cmd ?_
      cases cmd with
      | set value => exact absurd rfl (set value)
      | decr => exact absurd queue (decr rfl)
      | lpop =>
        simp only [RedisData.run]
        split <;> rfl
      | watch | unwatch | multi | exec | get | hget _ _ | hmset _ _ _ | lpush _ | llen => rfl
    · cases cmd <;> simp_all [RedisState.serve]
  | some q =>
    by_cases queues : cmd ≠ .watch ∧ cmd ≠ .multi ∧ cmd ≠ .exec
    · rw [serve_queued queue queues]
      rfl
    · cases cmd <;> simp_all [RedisState.serve]

theorem serve_count {cmd : RedisCmd} {n : Nat}
    (fits : Fits (s.conn c) s.data.totalCount l.redis.phase) (allowed : l.AllowsCmd cmd)
    (saw : SawCount l) (count : s.data.totalCount = decimal n) :
    ∃ k : Nat, (s.serve c cmd).2.data.totalCount = decimal k := by
  cases cmd with
  | exec =>
    obtain ⟨_, _, v, name, queued, _, positive⟩ := allowed
    rw [queued] at fits
    obtain ⟨_, data⟩ | ⟨k, key, _, _, _, data⟩ := serve_exec fits positive count
    · exact ⟨n, by rw [data, count]⟩
    · exact ⟨k, by rw [data]⟩
  | set value =>
    obtain ⟨free, first, last, lock, _, rfl⟩ := allowed
    rw [free] at fits
    rw [serve_data fits (by simp)]
    have low := saw first last lock
    exact ⟨last.toNat, by simp [RedisData.run, Int.toNat_of_nonneg low]⟩
  | decr =>
    obtain ⟨v, opened⟩ := allowed
    rw [opened] at fits
    exact ⟨n, Eq.trans (serve_untouched (by simp) (by simp) (by simp [fits.1])) count⟩
  | watch | unwatch | multi | get | hget key field | hmset key field value | lpush value
  | lpop | llen => exact ⟨n, Eq.trans (serve_untouched (by simp) (by simp) (by simp)) count⟩

theorem Counts.keep {s s' : Server} {ls : Nat → Local} {t : Nat} {l : Local} (counts : Counts s ls)
    (count : s'.redis.data.totalCount = s.redis.data.totalCount)
    (failed : s'.counters.failedCount = s.counters.failedCount) (lock : l.lock = (ls t).lock) :
    Counts s' (Function.update ls t l) where
  count := count ▸ counts.count
  failed := failed ▸ counts.failed
  saw := forall_update counts.saw (by rw [SawCount, lock]; exact counts.saw t)

theorem counts {n : Nat} (start : st.totalCount = decimal n) (run : Run ok (boot st) h cfg) :
    Counts cfg.state (locals watch h) := by
  refine server_invariant (fun _ s ls => Counts s ls)
    ?initial ?redis ?mysql ?counter ?grpc ?start run
  case initial => exact ⟨⟨n, start⟩, Int.le_refl 0, fun _ _ _ => (by simp)⟩
  case redis =>
    intro h cfg t c f r x run inv _ allowed exec
    refine ⟨?_, inv.failed, forall_update inv.saw ?_⟩
    · obtain ⟨n, count⟩ := inv.count
      cases RedisState.exec_does exec with
      | getOneConnect got =>
        exact ⟨n, (RedisState.getOneConnect_data got).symm ▸ count⟩
      | close c => exact ⟨n, count⟩
      | command c cmd sent =>
        obtain data | ⟨healthy, data⟩ := RedisState.redisCommand_data sent
        · exact ⟨n, data ▸ count⟩
        · -- what the command writes depends on where its connection is
          obtain ⟨ctx, allowed⟩ := allowed
          have fits := (watches run).fits t c ctx healthy
          simp only [data]
          exact serve_count fits allowed (inv.saw t) count
    · obtain same | ⟨_, _, _, refilled⟩ := Local.note_redis_lock (l := locals watch h t) (f := f)
        (c := c) (r := r)
      · exact fun first last lock => inv.saw t first last (same ▸ lock)
      · exact fun first last lock => absurd (refilled.symm.trans lock) (by simp)
  case mysql =>
    intro h cfg t c f r x _ inv _ _ _
    exact inv.keep rfl rfl (by simp)
  case counter =>
    intro h cfg t c f r x _ inv _ allowed exec
    have failed := inv.failed
    have saw := inv.saw t
    refine ⟨inv.count, ?_, forall_update inv.saw ?_⟩
    · cases Counters.exec_does exec with
      | setFailedCount n => exact Int.le_of_eq allowed.1.symm
      | incFailedCount => exact Int.add_nonneg failed (by decide)
      | wrlock nobody | unlock | failedCount | successNum | incSuccessNum => exact failed
    · cases Counters.exec_does exec with
      | failedCount =>
        intro first last lock
        simp only [Local.note, Local.noteCounter] at lock
        split at lock <;> cases lock <;> exact failed
      | wrlock nobody | unlock | setFailedCount n => rintro first last ⟨⟩
      | incFailedCount | incSuccessNum => exact saw
      | successNum =>
        intro first last lock
        refine saw first last ?_
        rw [← lock]
        simp only [Local.note, Local.noteCounter]
        (repeat' split) <;> rfl
  case grpc =>
    intro h cfg t c f r x _ inv _ _ _
    exact inv.keep rfl rfl (by simp)
  case start =>
    intro h cfg t e _ inv _ settled
    refine inv.keep rfl rfl ?_
    rw [settled.lock]
    cases e <;> rfl

/-! ## Optimistic locking -/

/-- The event is an `EXEC` that Redis executes and answers with an array, whether or not the
    reply arrives. -/
def ExecutesExec (s : Server) : Event server → Prop
  | .call _ (.redis (.command c .exec)) f _ =>
    (s.redis.conn c).err = false ∧ (f = .ok ∨ f = .lostAfter) ∧
      ∃ elements, (s.redis.serve c .exec).1 = .array elements
  | _ => False

/-- Whatever the fates of the commands: `total_count` is never negative, and an executed
    `EXEC` takes exactly one from the very value its thread has read, which was positive. -/
theorem exec_takes_one {n : Nat} (start : st.totalCount = decimal n)
    (run : Run ok (boot st) h cfg) :
    (∃ k : Nat, cfg.state.redis.data.totalCount = decimal k) ∧
      ∀ t c f r cfg', Step cfg (.call t (.redis (.command c .exec)) f r) cfg' →
        ExecutesExec cfg.state (.call t (.redis (.command c .exec)) f r) →
        ∃ k : Nat, lastGet t h = some (decimal (k + 1)) ∧
          cfg.state.redis.data.totalCount = decimal (k + 1) ∧
          cfg'.state.redis.data.totalCount = decimal k := by
  obtain ⟨⟨m, count⟩, _, _⟩ := counts start run
  refine ⟨⟨m, count⟩, ?_⟩
  intro t c f r cfg' step executes
  obtain ⟨healthy, answered, elements, array⟩ := executes
  cases step with
  | call next exec =>
    obtain ⟨ctx, _, _, v, name, queued, _, positive⟩ := run.allowed conforms next
    have fits := (watches run).fits t c ctx healthy
    rw [queued] at fits
    -- an array is no nil, so nobody touched the count since this thread read it
    obtain ⟨nil, _⟩ | ⟨k, key, same, rfl, _, data⟩ := serve_exec fits positive count
    · exact absurd (nil.symm.trans array) nofun
    refine ⟨k, ?_, by rw [count]; push_cast; rfl, ?_⟩
    · have read : (locals watch h t).count = some v := by rw [Local.count, queued]; rfl
      rw [lastGet_eq run t v read, same, count]
      push_cast
      rfl
    · obtain ⟨⟨r', x⟩, own, same⟩ := Option.map_eq_some_iff.mp exec
      cases same
      have after : x.data = (cfg.state.redis.serve c .exec).2.data := by
        obtain rfl | rfl := answered
        · rw [(RedisState.redisCommand_ok own healthy).2]
        · simp only [RedisState.exec, RedisState.redisCommand, healthy, Bool.false_eq_true,
            if_false, Option.some.injEq, Prod.mk.injEq] at own
          rw [← own.2]
          rfl
      rw [after, data]

/-- `EXEC` is executed and its reply is lost. -/
def execReplyLost : Event server → Bool
  | .call 0 (.redis (.command 0 .exec)) .lostAfter none => true
  | _ => false

/-- The last of one unit, taken over a connection that breaks before the reply arrives. -/
theorem exec_takes_one_of_one :
    ∃ h cfg cfg', Run anything (boot (agreeing [(['a'], ['k'])] 1)) h cfg ∧
      Step cfg (.call 0 (.redis (.command 0 .exec)) .lostAfter none) cfg' ∧
      lastGet 0 h = some (decimal 1) ∧ cfg'.state.redis.data.totalCount = decimal 0 := by
  have ready : ((replay (fun _ _ _ => true) (queues 0 ⟨0, ['a'], ['k']⟩) []
      (initial (boot (agreeing [(['a'], ['k'])] 1)))).any fun x =>
        (play x.2 (.go 0 Fate.lostAfter)).any fun y =>
          execReplyLost y.1 && !(x.2.state.redis.conn 0).err &&
          (x.2.state.redis.serve 0 .exec).1 == .array 2 &&
          x.2.state.redis.data.totalCount == decimal 1) = true := by decide +kernel
  obtain ⟨⟨h, cfg⟩, played, ready⟩ := (Option.any_eq_true _ _).mp ready
  obtain ⟨⟨ev, cfg'⟩, moved, ready⟩ := (Option.any_eq_true _ _).mp ready
  simp only [Bool.and_eq_true, Bool.not_eq_true', beq_iff_eq] at ready
  obtain ⟨⟨⟨isExec, healthy⟩, array⟩, count⟩ := ready
  unfold execReplyLost at isExec
  split at isExec
  next =>
    have run : Run anything _ h cfg := replay_meets played
    obtain ⟨_, takes⟩ := exec_takes_one (n := 1) rfl run
    obtain ⟨k, read, before, after⟩ := takes 0 0 .lostAfter none cfg' (play_step moved)
      ⟨healthy, Or.inr rfl, 2, array⟩
    have one : (k : Int) + 1 = 1 := decimal_injective (before.symm.trans count)
    obtain rfl : k = 0 := by omega
    exact ⟨h, cfg, cfg', run, play_step moved, read, after⟩
  · cases isExec

end Seckill

import Seckill.Model.Worker

/-! # A Redis that answers what it likes

The server's programs before any replies at all.  What is left open on a connection is told
by the replies alone: one that never comes sets the error flag of the context, an `OK` to
`WATCH` or `MULTI` opens something, and an `OK` to `UNWATCH` or an answer to `EXEC` ends it, unless
`EXEC` itself was refused.  Redis is one that answers so (`replies_cover`).
-/

namespace Seckill

open CStr CallTree Threads

/-! ## What a reply says -/

/-- `EXEC` itself was refused (`BUSY`, `LOADING`, `NOAUTH`), and the transaction stays open:
    `EXECABORT` is the one error that ends it. -/
def RedisReply.refusesExec : RedisReply → Bool
  | .error text => !"EXECABORT".toList.isPrefixOf text
  | _ => false

/-- The connection after a command was answered, or was not. -/
def Conn.hears (x : Conn) (cmd : RedisCmd) : Option RedisReply → Conn
  | none => { err := true }
  | some r =>
    match cmd with
    | .watch => if isOK (some r) then { x with watched := some (x.watched.getD false) } else x
    | .unwatch => if isOK (some r) then { x with watched := none } else x
    | .multi => if isOK (some r) then { x with queue := some [] } else x
    | .exec => if x.queue.isSome && !r.refusesExec then x.forget else x
    | _ => x

/-- The same is open on both. -/
structure Conn.Like (x y : Conn) : Prop where
  err : x.err = y.err
  watched : x.watched.isSome = y.watched.isSome
  queue : x.queue.isSome = y.queue.isSome

variable {s x : RedisState} {c : ConnId} {cmd : RedisCmd} {r : Option RedisReply}

theorem Conn.Like.refl {x : Conn} : x.Like x := ⟨rfl, rfl, rfl⟩

theorem Conn.Like.touch {conn : ConnId → Conn} {touched : Bool} :
    (RedisState.touch conn touched c).Like (conn c) := by
  cases touched with
  | true => exact ⟨rfl, Option.isSome_map, rfl⟩
  | false => exact .refl

theorem isOK_okText : isOK (some (.status okText)) = true := by decide

theorem isOK_queued : isOK (some (.status ['Q', 'U', 'E', 'U', 'E', 'D'])) = false := by decide

theorem Conn.Like.setConn {y : Conn} : ((s.setConn c y).conn c).Like y := by
  show (Function.update s.conn c y c).Like y
  rw [Function.update_self]
  exact .refl

/-- Redis itself is one that answers so: what it keeps of a connection is what its answer says. -/
theorem RedisState.serve_hears :
    ((s.serve c cmd).2.conn c).Like ((s.conn c).hears cmd (some (s.serve c cmd).1)) := by
  cases queue : (s.conn c).queue with
  | none =>
    cases cmd with
    | watch | unwatch | multi =>
      simp only [serve, queue, Conn.hears, isOK_okText, if_true]
      exact .setConn
    | exec =>
      simp only [serve, queue, Conn.hears, Option.isSome_none, Bool.false_and, Bool.false_eq_true,
        if_false]
      exact .refl
    | get | set value | decr | hget key field | hmset key field value | lpush value | lpop | llen =>
      simp only [serve, queue, Conn.hears]
      exact .touch
  | some q =>
    have queued (cmd : RedisCmd) :
        ((s.setConn c { s.conn c with queue := some (q ++ [cmd]) }).conn c).Like (s.conn c) := by
      show (Function.update s.conn c { s.conn c with queue := some (q ++ [cmd]) } c).Like (s.conn c)
      rw [Function.update_self]
      exact ⟨rfl, rfl, by rw [queue]; rfl⟩
    cases cmd with
    | watch | multi =>
      simp only [serve, queue, Conn.hears, isOK, Bool.false_eq_true, if_false]
      exact .refl
    | exec =>
      -- nil or an array: the transaction is over, and so is the watch
      simp only [serve, queue]
      split
      · simp only [Conn.hears, queue, Option.isSome_some, RedisReply.refusesExec, Bool.not_false,
          Bool.and_true, if_true]
        exact .setConn
      · simp only [Conn.hears, queue, Option.isSome_some, RedisReply.refusesExec, Bool.not_false,
          Bool.and_true, if_true, Function.update_self]
        exact .refl
    | unwatch =>
      simp only [serve, queue, Conn.hears, isOK_queued, Bool.false_eq_true, if_false]
      exact queued .unwatch
    | get | set value | decr | hget key field | hmset key field value | lpush value | lpop | llen =>
      simp only [serve, queue, Conn.hears]
      exact queued _

/-! ## Arbitrary replies -/

/-- What calls do before a Redis that answers what it likes, or breaks the connection.  A context
    with its error flag set answers `NULL`. -/
def Server.hear (t : Nat) : (c : Call) → Fate × Option RedisReply → Server → Option (c.Reply × Server)
  | .redis (.command c cmd), (_, r), s =>
    if (s.redis.conn c).err && r.isSome then none
    else some (r, { s with redis := s.redis.setConn c ((s.redis.conn c).hears cmd r) })
  | c, (f, _), s => s.exec t c f

abbrev anyReplies : Machine Call Call.Reply where
  State := Server
  Fate := Fate × Option RedisReply
  Entry := Entry
  exec := Server.hear
  body := Entry.body

/-! ### Redis answers so -/

theorem Conn.Like.trans {x y z : Conn} (first : x.Like y) (second : y.Like z) : x.Like z :=
  ⟨first.err.trans second.err, first.watched.trans second.watched, first.queue.trans second.queue⟩

theorem Conn.Like.hears {x y : Conn} (like : x.Like y) : (x.hears cmd r).Like (y.hears cmd r) := by
  obtain ⟨err, watched, queue⟩ := like
  cases r with
  | none => exact .refl
  | some reply =>
    cases cmd with
    | watch | unwatch | multi =>
      simp only [Conn.hears]
      split
      · exact ⟨err, by simp [watched], by simp [queue]⟩
      · exact ⟨err, watched, queue⟩
    | exec =>
      simp only [Conn.hears, queue]
      split
      · exact ⟨err, rfl, rfl⟩
      · exact ⟨err, watched, queue⟩
    | get | set value | decr | hget key field | hmset key field value | lpush value | lpop | llen =>
      exact ⟨err, watched, queue⟩

/-- `y` is the server before arbitrary replies while `s` is the one before Redis. -/
structure Alike (s y : Server) : Prop where
  mysql : y.mysql = s.mysql
  counters : y.counters = s.counters
  grpc : y.grpc = s.grpc
  pool : RedisState.SamePool s.redis y.redis
  conn : ∀ c, (s.redis.conn c).Like (y.redis.conn c)
  broken : ∀ c, (y.redis.conn c).err = true → y.redis.conn c = { err := true }

theorem Conn.hears_broken {x : Conn} (broken : x.err = true → x = { err := true } ∧ r = none)
    (err : (x.hears cmd r).err = true) : x.hears cmd r = { err := true } := by
  cases r with
  | none => rfl
  | some reply =>
    have healthy : x.err = false := by
      by_contra sick
      exact absurd (broken (by simpa using sick)).2 nofun
    have still : (x.hears cmd (some reply)).err = x.err := by
      cases cmd with
      | watch | unwatch | multi | exec =>
        simp only [Conn.hears]
        split <;> rfl
      | get | set value | decr | hget key field | hmset key field value | lpush value | lpop
      | llen => rfl
    rw [still, healthy] at err
    cases err

theorem Alike.answer {s y : Server} {f : Fate} {x : RedisState} (alike : Alike s y)
    (sent : s.redis.redisCommand c cmd f = some (r, x)) :
    (x.conn c).Like ((y.redis.conn c).hears cmd r) ∧ ((y.redis.conn c).err = true → r = none) := by
  have same := alike.conn c
  unfold RedisState.redisCommand at sent
  (repeat' split at sent) <;> cases sent
  next err =>
    -- the context was broken before, and both sides have forgotten what was open
    have broken := alike.broken c (same.err.symm.trans err)
    rw [broken] at same
    exact ⟨same, fun _ => rfl⟩
  next healthy =>
    refine ⟨RedisState.serve_hears.trans same.hears, fun err => ?_⟩
    exact absurd (same.err.trans err) healthy
  all_goals
    refine ⟨?_, fun _ => rfl⟩
    exact .setConn

theorem Alike.command {s y : Server} {f : Fate} {x : RedisState} (alike : Alike s y)
    (sent : s.redis.redisCommand c cmd f = some (r, x)) :
    Alike { s with redis := x }
      { y with redis := y.redis.setConn c ((y.redis.conn c).hears cmd r) } := by
  obtain ⟨answer, none⟩ := alike.answer sent
  obtain ⟨pool, fresh, count, limit⟩ := RedisState.redisCommand_pool sent
  refine ⟨alike.mysql, alike.counters, alike.grpc, ?_, fun c' => ?_, fun c' => ?_⟩
  · exact ⟨alike.pool.pool.trans pool.symm, alike.pool.fresh.trans fresh.symm,
      alike.pool.count.trans count.symm, alike.pool.limit.trans limit.symm⟩
  · by_cases own : c' = c
    · subst own
      refine answer.trans ?_
      show Conn.Like _ (Function.update y.redis.conn c' _ c')
      rw [Function.update_self]
      exact .refl
    · show (x.conn c').Like (Function.update y.redis.conn c _ c')
      rw [Function.update_of_ne own]
      obtain ⟨same, _⟩ | touched := RedisState.redisCommand_others sent own
      · rw [same]
        exact alike.conn c'
      · rw [touched]
        exact ⟨(alike.conn c').err, Option.isSome_map.trans (alike.conn c').watched,
          (alike.conn c').queue⟩
  · show (Function.update y.redis.conn c _ c').err = true → Function.update y.redis.conn c _ c' = _
    by_cases own : c' = c
    · subst own
      rw [Function.update_self]
      exact Conn.hears_broken fun err => ⟨alike.broken c' err, none err⟩
    · rw [Function.update_of_ne own]
      exact alike.broken c'

/-- The pool does the same on both sides. -/
theorem Alike.getOneConnect {s y : Server} {connects : Bool} {x : RedisState} {r : Option ConnId}
    (alike : Alike s y) (got : s.redis.getOneConnect connects = (r, x)) :
    ∃ z, y.redis.getOneConnect connects = (r, z) ∧
      Alike { s with redis := x } { y with redis := z } := by
  obtain ⟨pool, fresh, count, limit⟩ := alike.pool
  unfold RedisState.getOneConnect RedisState.createOneConnect at got ⊢
  rw [pool, count, limit]
  cases queue : s.redis.redispool with
  | cons c rest =>
    rw [queue] at got
    cases got
    exact ⟨_, rfl, alike.mysql, alike.counters, alike.grpc, ⟨rfl, fresh, rfl, rfl⟩, alike.conn,
      alike.broken⟩
  | nil =>
    rw [queue] at got
    simp only at got ⊢
    by_cases room : s.redis.connectCount < s.redis.maxConnect
    · rw [if_pos room] at got ⊢
      cases connects with
      | false =>
        cases got
        exact ⟨_, rfl, alike⟩
      | true =>
        cases got
        rw [fresh]
        refine ⟨_, rfl, alike.mysql, alike.counters, alike.grpc, ⟨pool, rfl, count, limit⟩, ?_, ?_⟩
        · intro c
          show (Function.update s.redis.conn _ _ c).Like (Function.update y.redis.conn _ _ c)
          by_cases own : c = s.redis.fresh
          · subst own
            rw [Function.update_self, Function.update_self]
            exact .refl
          · rw [Function.update_of_ne own, Function.update_of_ne own]
            exact alike.conn c
        · intro c
          show (Function.update y.redis.conn _ _ c).err = true → Function.update y.redis.conn _ _ c = _
          by_cases own : c = s.redis.fresh
          · subst own
            rw [Function.update_self]
            exact nofun
          · rw [Function.update_of_ne own]
            exact alike.broken c
    · rw [if_neg room] at got ⊢
      cases got
      exact ⟨_, rfl, alike⟩

/-- Every step of the server is one before arbitrary replies. -/
theorem Alike.exec {s y x : Server} {t : Nat} {c : Call} {f : Fate} {r : c.Reply}
    (alike : Alike s y) (done : s.exec t c f = some (r, x)) :
    ∃ f' z, y.hear t c f' = some (r, z) ∧ Alike x z := by
  cases c with
  | crash why => exact r.elim
  | mysql c =>
    obtain ⟨⟨r', m⟩, own, same⟩ := Option.map_eq_some_iff.mp done
    cases same
    refine ⟨(f, none), { y with mysql := m }, ?_, rfl, alike.counters, alike.grpc, alike.pool,
      alike.conn, alike.broken⟩
    simp [Server.hear, Server.exec, alike.mysql, own]
  | counter c =>
    obtain ⟨⟨r', m⟩, own, same⟩ := Option.map_eq_some_iff.mp done
    cases same
    refine ⟨(f, none), { y with counters := m }, ?_, alike.mysql, rfl, alike.grpc, alike.pool,
      alike.conn, alike.broken⟩
    simp [Server.hear, Server.exec, alike.counters, own]
  | grpc c =>
    obtain ⟨⟨r', m⟩, own, same⟩ := Option.map_eq_some_iff.mp done
    cases same
    refine ⟨(f, none), { y with grpc := m }, ?_, alike.mysql, alike.counters, rfl, alike.pool,
      alike.conn, alike.broken⟩
    simp [Server.hear, Server.exec, alike.grpc, own]
  | redis c =>
    obtain ⟨⟨r', m⟩, own, same⟩ := Option.map_eq_some_iff.mp done
    cases same
    cases c with
    | getOneConnect =>
      cases f <;> simp only [RedisState.exec, Option.some.injEq, reduceCtorEq] at own
      case ok =>
        obtain ⟨z, got, after⟩ := alike.getOneConnect own
        exact ⟨(.ok, none), _, by simp [Server.hear, Server.exec, RedisState.exec, got], after⟩
      case fail =>
        obtain ⟨z, got, after⟩ := alike.getOneConnect own
        exact ⟨(.fail, none), _, by simp [Server.hear, Server.exec, RedisState.exec, got], after⟩
    | close c =>
      cases f <;> cases own
      refine ⟨(.ok, none), _, rfl, alike.mysql, alike.counters, alike.grpc, ?_, alike.conn,
        alike.broken⟩
      obtain ⟨pool, fresh, count, limit⟩ := alike.pool
      exact ⟨congrArg (· ++ [c]) pool, fresh, count, limit⟩
    | command c cmd =>
      -- the reply of Redis is one that may be chosen, as a broken context has no other
      refine ⟨(.ok, r'), _, ?_, alike.command own⟩
      have answered : ¬((y.redis.conn c).err && Option.isSome r') = true := by
        intro both
        rw [Bool.and_eq_true] at both
        rw [(alike.answer own).2 both.1] at both
        exact absurd both.2 nofun
      simp only [Server.hear]
      rw [if_neg answered]

/-- Redis is one that answers what it likes: every run of the server is one before arbitrary
    replies. -/
theorem replies_cover {ok : Condition server} {st : Stores} {h : History server}
    {cfg : Config server} (run : Run ok (boot st) h cfg) :
    ∃ (h' : History anyReplies) (cfg' : Config anyReplies),
      Run (meets fun _ _ _ => true) (boot st) h' cfg' ∧ cfg'.prog = cfg.prog ∧
        Alike cfg.state cfg'.state := by
  induction run with
  | init =>
    exact ⟨[], initial (boot st), .init, rfl, rfl, rfl, rfl, ⟨rfl, rfl, rfl, rfl⟩, fun _ => .refl,
      fun _ => nofun⟩
  | step run met step ih =>
    obtain ⟨h', ⟨y, prog⟩, run', same, alike⟩ := ih
    subst same
    cases step with
    | call next done =>
      obtain ⟨f', z, heard, alike'⟩ := alike.exec done
      exact ⟨_, _, .step run' rfl (.call next heard), rfl, alike'⟩
    | @start t e idle => exact ⟨.start t e :: h', _, .step run' rfl (.start idle), rfl, alike⟩

end Seckill

import Seckill.Verified.OptimisticLocking
import Seckill.Verified.Requests

/-! # Redis when no command is lost

What each command of the protocol does to the data, and what its reply says of it, in
runs where every `redisCommand` on a context succeeds.  `EXEC` is the only command that
writes `order_info`, and only `EXEC` and the refill write `total_count`.
-/

namespace Seckill

open CStr CallTree Threads Leases

variable {ok : Condition server} {st : Stores} {h : History server} {cfg : Config server}
  {s x : RedisState} {c : ConnId} {cmd : RedisCmd} {f : Fate} {r : Option RedisReply} {l : Local}
  {t n : Nat}

/-- Every command on a context succeeds; pools and MySQL may do as they like. -/
def redisWorks : History server → Server → Event server → Bool
  | _, _, .call _ (.redis (.command _ _)) f _ => f.isOk
  | _, _, _ => true

theorem serve_err (s : RedisState) (c c' : ConnId) (cmd : RedisCmd) :
    ((s.serve c cmd).2.conn c').err = (s.conn c').err := by
  have touch (conn : ConnId → Conn) (touched : Bool) :
      (RedisState.touch conn touched c').err = (conn c').err := by
    cases touched <;> rfl
  by_cases own : c' = c
  · subst own
    unfold RedisState.serve
    (repeat' split) <;> simp [RedisState.setConn, Conn.forget, touch]
  · obtain ⟨same, _⟩ | same := s.serve_others cmd own
    · rw [same]
    · rw [same]
      rfl

/-- No context ever has an error. -/
theorem healthy (works : ∀ {h s ev}, ok h s ev → redisWorks h s ev = true)
    (run : Run ok (boot st) h cfg) : ∀ c, (cfg.state.redis.conn c).err = false := by
  refine server_invariant (fun _ s _ => ∀ c, (s.redis.conn c).err = false)
    ?initial ?redis ?mysql ?counter ?grpc ?start run
  case initial => exact fun _ => rfl
  case redis =>
    intro h cfg t c f r x _ inv met _ exec c'
    cases RedisState.exec_does exec with
    | getOneConnect got =>
      obtain ⟨c, rest, _, taken⟩ | ⟨_, _, made⟩ | none :=
        cfg.state.redis.getOneConnect_cases f.isOk
      · rw [taken] at got
        cases got
        exact inv c'
      · rw [made] at got
        cases got
        by_cases new : c' = cfg.state.redis.fresh
        · simp [RedisState.setConn, new]
        · simpa [RedisState.setConn, new] using inv c'
      · rw [none] at got
        cases got
        exact inv c'
    | close c => exact inv c'
    | command c cmd sent =>
      obtain rfl := Fate.eq_ok (works met)
      obtain ⟨_, rfl⟩ := RedisState.redisCommand_ok sent (inv c)
      exact (serve_err _ _ _ _).trans (inv c')
  case mysql => exact fun _ inv _ _ _ => inv
  case counter => exact fun _ inv _ _ _ => inv
  case grpc => exact fun _ inv _ _ _ => inv
  case start => exact fun _ inv _ _ => inv

/-- A command is served, and its reply arrives. -/
theorem served (works : ∀ {h s ev}, ok h s ev → redisWorks h s ev = true)
    (run : Run ok (boot st) h cfg)
    (met : ok h cfg.state (.call t (.redis (.command c cmd)) f r))
    (sent : cfg.state.redis.redisCommand c cmd f = some (r, x)) :
    f = .ok ∧ r = some (cfg.state.redis.serve c cmd).1 ∧ x = (cfg.state.redis.serve c cmd).2 := by
  obtain rfl := Fate.eq_ok (works met)
  exact ⟨rfl, RedisState.redisCommand_ok sent (healthy works run c)⟩

/-- The thread's context is where the thread is. -/
theorem in_step (works : ∀ {h s ev}, ok h s ev → redisWorks h s ev = true)
    (run : Run ok (boot st) h cfg) (ctx : (locals watch h t).redis.ctx = some c) :
    Fits (cfg.state.redis.conn c) cfg.state.redis.data.totalCount
      (locals watch h t).redis.phase :=
  (watches run).fits t c ctx (healthy works run c)

/-- Commands other than `EXEC` leave both hashes alone. -/
theorem serve_hashes (fits : Fits (s.conn c) s.data.totalCount l.redis.phase)
    (allowed : l.AllowsCmd cmd) (exec : cmd ≠ .exec) :
    (s.serve c cmd).2.data.orderInfo = s.data.orderInfo ∧
      (s.serve c cmd).2.data.usrInfo = s.data.usrInfo := by
  have data (d : (s.data.run cmd).2.1.orderInfo = s.data.orderInfo ∧
      (s.data.run cmd).2.1.usrInfo = s.data.usrInfo) (queue : (s.conn c).queue = none)
      (other : cmd ≠ .watch ∧ cmd ≠ .unwatch ∧ cmd ≠ .multi ∧ cmd ≠ .exec) :
      (s.serve c cmd).2.data.orderInfo = s.data.orderInfo ∧
        (s.serve c cmd).2.data.usrInfo = s.data.usrInfo := by
    rw [serve_data queue other]
    exact d
  cases queue : (s.conn c).queue with
  | some q =>
    by_cases queues : cmd ≠ .watch ∧ cmd ≠ .multi ∧ cmd ≠ .exec
    · rw [serve_queued queue queues]
      exact ⟨rfl, rfl⟩
    · cases cmd <;> simp_all [RedisState.serve]
  | none =>
    cases cmd with
    | exec => exact absurd rfl exec
    | hmset key field value =>
      -- `HMSET` is only sent inside `MULTI`
      cases key with
      | usrInfo => exact allowed.elim
      | orderInfo =>
        obtain ⟨v, name, decred, _⟩ := allowed
        rw [decred] at fits
        exact absurd (queue.symm.trans fits.1) (by simp)
    | watch | unwatch | multi => simp [RedisState.serve, queue, RedisState.setConn]
    | decr =>
      obtain ⟨v, opened⟩ := allowed
      rw [opened] at fits
      exact absurd (queue.symm.trans fits.1) (by simp)
    | lpop =>
      refine data ?_ queue (by simp)
      simp only [RedisData.run]
      split <;> exact ⟨rfl, rfl⟩
    | get | set value | hget key field | lpush value | llen =>
      exact data ⟨rfl, rfl⟩ queue (by simp)

/-- What `EXEC` is answered and does: nothing if the watch was touched, else one unit is taken
    from the count the thread has read, and the order of its user is written. -/
theorem exec_served (start : st.totalCount = decimal n)
    (works : ∀ {h s ev}, ok h s ev → redisWorks h s ev = true) (run : Run ok (boot st) h cfg)
    (met : ok h cfg.state (.call t (.redis (.command c .exec)) f r))
    (allowed : (locals watch h t).Allowed (.redis (.command c .exec)))
    (sent : cfg.state.redis.redisCommand c .exec f = some (r, x)) :
    r = some .nil ∧ x.data = cfg.state.redis.data ∨
      r = some (.array 2) ∧ ∃ (k : Nat) (q : Request) (key : Str), serving t h = some q ∧
        cfg.state.redis.data.totalCount = decimal (k + 1) ∧
        (locals watch h t).count = some (decimal (k + 1)) ∧ 0 < atoi (decimal (k + 1)) ∧
        x.data = { cfg.state.redis.data with
          totalCount := decimal k
          orderInfo := cfg.state.redis.data.orderInfo.insert (cStr q.usrname) key } := by
  obtain ⟨_, rfl, rfl⟩ := served works run met sent
  obtain ⟨m, count⟩ := (counts start run).count
  obtain ⟨ctx, _, work, v, name, queued, named, positive⟩ := allowed
  have fits := in_step works run ctx
  rw [queued] at fits
  obtain ⟨nil, data⟩ | ⟨k, key, same, rfl, array, data⟩ := serve_exec fits positive count
  · exact Or.inl ⟨congrArg some nil, data⟩
  · obtain ⟨q, serves, delivered, _⟩ := serving_atWork run work
    push_cast at count
    rw [same, count] at positive
    refine Or.inr ⟨congrArg some array, k, q, key, serves, count, ?_, positive, ?_⟩
    · rw [Local.count, queued, ← count, ← same]
      rfl
    · rw [data, delivered name named]

/-! ## Orders in Redis -/

/-- The fields of `order_info` are the users that got a grant. -/
structure RedisOrders (st : Stores) (h : History server) (d : RedisData) : Prop where
  usrInfo : d.usrInfo = st.redisUsers
  orderInfo : ∀ user, user ∈ d.orderInfo ↔
    user ∈ st.redisOrders ∨ ∃ q ∈ grants h, cStr q.usrname = user

theorem redis_orders (start : st.totalCount = decimal n)
    (works : ∀ {h s ev}, ok h s ev → redisWorks h s ev = true) (run : Run ok (boot st) h cfg) :
    RedisOrders st h cfg.state.redis.data := by
  refine server_invariant (fun h s _ => RedisOrders st h s.redis.data)
    ?initial ?redis ?mysql ?counter ?grpc ?start run
  case initial => exact ⟨rfl, fun user => by simp [boot, grants]⟩
  case redis =>
    intro h cfg t c f r x run inv met allowed exec
    cases RedisState.exec_does exec with
    | getOneConnect got =>
      simp only [RedisState.getOneConnect_data got]
      exact ⟨inv.usrInfo, inv.orderInfo⟩
    | close c => exact ⟨inv.usrInfo, inv.orderInfo⟩
    | @command _ r _ c cmd sent =>
      by_cases isExec : cmd = .exec
      · subst isExec
        obtain ⟨rfl, data⟩ | ⟨rfl, k, q, key, serves, _, _, _, data⟩ :=
          exec_served start works run met allowed sent
        · -- answered nil: nothing of the transaction was carried out
          simp only [data]
          exact ⟨inv.usrInfo, inv.orderInfo⟩
        · -- the grant comes with the field of its user
          simp only [data]
          refine ⟨inv.usrInfo, fun user => ?_⟩
          have all : grants (.call t (.redis (.command c .exec)) f (some (.array 2)) :: h) =
              q :: grants h := by
            simp [grants, granted, serves]
          rw [AList.mem_insert, inv.orderInfo, all, List.exists_mem_cons_iff, eq_comm]
          exact or_left_comm
      · obtain ⟨_, _, rfl⟩ := served works run met sent
        obtain ⟨orderInfo, usrInfo⟩ :=
          serve_hashes (in_step works run allowed.1) allowed.2 isExec
        have same : grants (.call t (.redis (.command c cmd)) f r :: h) = grants h := by
          cases cmd <;> first | rfl | exact absurd rfl isExec
        refine ⟨usrInfo.trans inv.usrInfo, fun user => ?_⟩
        simp only [orderInfo, same]
        exact inv.orderInfo user
  case mysql =>
    intro h cfg t c f r x _ inv _ _ _
    exact ⟨inv.usrInfo, inv.orderInfo⟩
  case counter =>
    intro h cfg t c f r x _ inv _ _ _
    exact ⟨inv.usrInfo, inv.orderInfo⟩
  case grpc =>
    intro h cfg t c f r x _ inv _ _ _
    exact ⟨inv.usrInfo, inv.orderInfo⟩
  case start =>
    intro h cfg t e _ inv _ _
    exact ⟨inv.usrInfo, inv.orderInfo⟩

end Seckill

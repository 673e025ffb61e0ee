import Seckill.Lib.Loans
import Seckill.Verified.Scenario

/-! # The accounts of `RedisPool`

The same runs as for `MysqlPool`.  `RedisPool::createOneConnect` does not count the context
it makes, so `connect_count` stays zero: the limit is never reached, and the destructor
counts down from zero.  The accounts agree only as long as there is nothing to count.
-/

namespace Seckill

open CallTree Threads Loans

/-- Threads over the Redis interface.  What a thread does is any program. -/
abbrev redisClients : Machine RedisCall RedisCall.Reply where
  State := RedisState
  Fate := Fate
  Entry := Prog RedisCall RedisCall.Reply Unit
  exec _ c f s := s.exec c f
  body := id

/-- How contexts are lent. -/
abbrev redisDesk : Desk RedisCall RedisCall.Reply where
  got
    | .getOneConnect, r => r
    | _, _ => none
  back
    | .close c => some c
    | _ => none

/-- No `redisConnect` succeeds. -/
def neverConnects : History redisClients → Bool
  | [] => true
  | .call _ .getOneConnect f _ :: h => !f.isOk && neverConnects h
  | _ :: h => neverConnects h

namespace RedisState

/-- The accounts agree: the counter is the number of contexts idle or handed out, which the limit
    bounds; each of them is in one place; and the loop of the destructor never finds the counter
    at zero and leaves those handed out. -/
structure Accounts (s : RedisState) (out : List (Nat × ConnId)) : Prop where
  count : s.connectCount.toNat = s.redispool.length + out.length
  limit : s.redispool.length + out.length ≤ s.maxConnect.toNat
  books : Balanced s.redispool out s.fresh
  counts : ∀ dead c rest, s.redispool = dead ++ c :: rest → (dead.foldl discard s).connectCount ≠ 0
  destroys : (destroy s.redispool s).connectCount.toNat = out.length

/-- What is true of the pool instead. -/
structure Uncounted (limit : UInt32) (h : History redisClients) (s : RedisState) : Prop where
  count : s.connectCount = 0
  limited : s.maxConnect = limit
  books : Balanced s.redispool (loans redisDesk h) s.fresh
  empty : s.redispool.length + (loans redisDesk h).length = 0 ↔ limit = 0 ∨ neverConnects h = true

variable {s x : RedisState} {h h' : History redisClients} {limit : UInt32} {t : Nat}

/-- With nothing idle or handed out the accounts agree, and only then. -/
theorem Uncounted.accounts (pool : Uncounted limit h s) :
    Accounts s (loans redisDesk h) ↔ limit = 0 ∨ neverConnects h = true := by
  rw [← pool.empty]
  constructor
  · intro accounts
    have count := accounts.count
    rw [pool.count, UInt32.toNat_zero] at count
    exact count.symm
  · intro none
    obtain ⟨idle, out⟩ := Nat.add_eq_zero_iff.mp none
    have idle : s.redispool = [] := List.length_eq_zero_iff.mp idle
    refine ⟨?_, ?_, pool.books, ?_, ?_⟩
    · rw [pool.count, none, UInt32.toNat_zero]
    · rw [none]
      exact Nat.zero_le _
    · intro dead c rest queue
      simp [idle] at queue
    · rw [out, idle]
      show s.connectCount.toNat = 0
      rw [pool.count, UInt32.toNat_zero]

/-- A step that neither connects nor changes how many contexts there are. -/
theorem Uncounted.keep (pool : Uncounted limit h s) (count : x.connectCount = s.connectCount)
    (limited : x.maxConnect = s.maxConnect) (books : Balanced x.redispool (loans redisDesk h') x.fresh)
    (same : x.redispool.length + (loans redisDesk h').length =
      s.redispool.length + (loans redisDesk h).length)
    (never : limit = 0 ∨ neverConnects h' = true ↔ limit = 0 ∨ neverConnects h = true) :
    Uncounted limit h' x where
  count := count.trans pool.count
  limited := limited.trans pool.limited
  books := books
  empty := by
    rw [same, never]
    exact pool.empty

theorem Uncounted.getOneConnect {f : Fate} {connects : Bool} {r : Option ConnId}
    (pool : Uncounted limit h s) (fate : f.isOk = connects)
    (got : s.getOneConnect connects = (r, x)) :
    Uncounted limit (.call t .getOneConnect f r :: h) x := by
  have some_room : (0 : UInt32) < limit ↔ limit ≠ 0 := UInt32.pos_iff_ne_zero
  cases idle : s.redispool with
  | cons c rest =>
    -- there is a context already, so one was made before
    simp only [RedisState.getOneConnect, idle] at got
    cases got
    have before := pool.empty
    have books := pool.books
    rw [idle] at before books
    refine ⟨pool.count, pool.limited, books.lend, ?_⟩
    simp only [loans, neverConnects, List.length_cons, Bool.and_eq_true] at before ⊢
    constructor
    · intro none
      omega
    · intro never
      have earlier := before.mpr (never.imp_right And.right)
      omega
  | nil =>
    simp only [RedisState.getOneConnect, idle, pool.count, pool.limited] at got
    by_cases room : (0 : UInt32) < limit
    · rw [if_pos room] at got
      cases connects with
      | true =>
        cases got
        refine ⟨pool.count, pool.limited, pool.books.make, ?_⟩
        simp only [loans, neverConnects, fate, List.length_cons]
        simp [some_room.mp room]
      | false =>
        cases got
        refine pool.keep rfl rfl pool.books rfl ?_
        simp [neverConnects, fate]
    · rw [if_neg room] at got
      cases got
      have full : limit = 0 := not_not.mp fun ne => room (some_room.mpr ne)
      refine pool.keep rfl rfl pool.books rfl ?_
      simp [full]

theorem Uncounted.close {c : ConnId} {f : Fate} {r : Unit} (pool : Uncounted limit h s)
    (held : (t, c) ∈ loans redisDesk h) :
    Uncounted limit (.call t (.close c) f r :: h) (s.close c) := by
  have some := List.length_pos_of_mem held
  refine pool.keep rfl rfl (pool.books.back held) ?_ Iff.rfl
  show (s.redispool ++ [c]).length + ((loans redisDesk h).erase (t, c)).length = _
  rw [List.length_erase_of_mem held, List.length_append, List.length_singleton]
  omega

end RedisState

/-! ## Runs -/

variable {h : History redisClients} {cfg : Config redisClients} {store : RedisState}
  {limit : UInt32}

theorem redis_uncounted (run : Run (meets redisDesk.fair) (store.setParameter limit) h cfg) :
    RedisState.Uncounted limit h cfg.state := by
  induction run with
  | init => exact ⟨rfl, rfl, .init, by simp [RedisState.setParameter, loans, neverConnects]⟩
  | @step h cfg cfg' ev run fair step pool =>
    cases step with
    | start done => exact pool.keep rfl rfl pool.books rfl Iff.rfl
    | @call t c k f r s next exec =>
      change cfg.state.exec c f = some (r, s) at exec
      cases RedisState.exec_does exec with
      | getOneConnect got => exact pool.getOneConnect rfl got
      | close c =>
        apply pool.close
        simpa [meets, Desk.fair] using fair
      | command c cmd sent =>
        obtain ⟨idle, fresh, count, limited⟩ := RedisState.redisCommand_pool sent
        refine pool.keep count limited ?_ ?_ Iff.rfl
        · show Balanced s.redispool (loans redisDesk h) s.fresh
          rw [idle, fresh]
          exact pool.books
        · show s.redispool.length + (loans redisDesk h).length = _
          rw [idle]

/-- The accounts of `RedisPool` agree in a state reached exactly if `MAX_CONNECT` is 0 or no
    `redisConnect` has succeeded. -/
theorem redis_pool_accounts
    (run : Run (meets redisDesk.fair) (store.setParameter limit) h cfg) :
    RedisState.Accounts cfg.state (loans redisDesk h) ↔ limit = 0 ∨ neverConnects h = true :=
  (redis_uncounted run).accounts

/-- A thread that gets a context and gives it back. -/
def borrow : Prog RedisCall RedisCall.Reply Unit := do
  let conn : Option ConnId ← Prog.perform RedisCall.getOneConnect
  match conn with
  | some c => Prog.perform (RedisCall.close c)
  | none => pure ()

/-- Redis cannot be reached: the thread is given `NULL`. -/
theorem redis_pool_accounts_unreachable :
    ∃ (h : History redisClients) (cfg : Config redisClients),
      Run (meets redisDesk.fair) ((boot (agreeing [] 50)).redis.setParameter 1) h cfg ∧
      h.length = 2 ∧ RedisState.Accounts cfg.state (loans redisDesk h) := by
  have ran : ((replay redisDesk.fair [.start 0 borrow, .go 0 Fate.fail] []
      (initial (M := redisClients) ((boot (agreeing [] 50)).redis.setParameter 1))).any fun x =>
        neverConnects x.1 && x.1.length == 2) = true := by decide +kernel
  obtain ⟨⟨h, cfg⟩, played, after⟩ := (Option.any_eq_true _ _).mp ran
  simp only [Bool.and_eq_true, beq_iff_eq] at after
  have run : Run (meets redisDesk.fair) _ h cfg := replay_meets played
  exact ⟨h, cfg, run, after.2, (redis_pool_accounts run).mpr (Or.inr after.1)⟩

/-- With `MAX_CONNECT` 1 two threads are given a context each, and none is counted.  One is given
    back; the destructor counts it down from zero. -/
theorem redis_pool_uncounted :
    ∃ (h : History redisClients) (cfg : Config redisClients),
      Run (meets redisDesk.fair) ((boot (agreeing [] 50)).redis.setParameter 1) h cfg ∧
      cfg.state.maxConnect = 1 ∧ cfg.state.connectCount = 0 ∧
      cfg.state.redispool.length = 1 ∧ (loans redisDesk h).length = 1 ∧
      (RedisState.destroy cfg.state.redispool cfg.state).connectCount = 4294967295 ∧
      ¬RedisState.Accounts cfg.state (loans redisDesk h) := by
  have ran : ((replay redisDesk.fair
      [.start 0 borrow, .start 1 borrow, .go 0 Fate.ok, .go 1 Fate.ok, .go 0 Fate.ok] []
      (initial (M := redisClients) ((boot (agreeing [] 50)).redis.setParameter 1))).any fun x =>
        x.2.state.maxConnect == 1 && x.2.state.connectCount == 0 &&
          x.2.state.redispool.length == 1 && (loans redisDesk x.1).length == 1 &&
          (RedisState.destroy x.2.state.redispool x.2.state).connectCount == 4294967295) = true := by
    decide +kernel
  obtain ⟨⟨h, cfg⟩, played, after⟩ := (Option.any_eq_true _ _).mp ran
  simp only [Bool.and_eq_true, beq_iff_eq] at after
  obtain ⟨⟨⟨⟨limit, count⟩, idle⟩, out⟩, wrapped⟩ := after
  refine ⟨h, cfg, replay_meets played, limit, count, idle, out, wrapped, fun accounts => ?_⟩
  have same := accounts.count
  rw [count, idle, out, UInt32.toNat_zero] at same
  omega

end Seckill

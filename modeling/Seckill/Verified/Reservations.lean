import Seckill.Verified.OptimisticLocking
import Seckill.Verified.Parts
import Seckill.Verified.Requests

/-! # What a failed reservation leaves behind

A request that is answered without a call of `seckillGoods_mysql`, over every run: whatever
Redis holds, whatever the other workers do and whatever becomes of each command.  What a
command makes Redis execute is its own list (`executed`), so that a `DECR` whose answer is
lost still counts.  A request whose `EXEC` was answered with the transaction goes on to
MySQL; so the trace of one that did not is an `EXEC` that Redis carried out unanswered.
-/

namespace Seckill

open CStr CallTree Threads Leases

/-! ## What Redis executes -/

namespace RedisState

/-- The commands on data that Redis executes when this one is sent. -/
def executed (s : RedisState) (c : ConnId) (cmd : RedisCmd) : Fate → List RedisCmd
  | .ok | .lostAfter =>
    if (s.conn c).err then []
    else
      match (s.conn c).queue with
      | none =>
        match cmd with
        | .watch | .unwatch | .multi | .exec => []
        | cmd => [cmd]
      | some q =>
        match cmd with
        | .exec => if (s.conn c).watched = some true then [] else q
        | _ => []
  | _ => []

variable {s x : RedisState} {c : ConnId} {cmd : RedisCmd} {f : Fate} {r : Option RedisReply}

theorem serve_executed (healthy : (s.conn c).err = false) :
    (s.serve c cmd).2.data = (s.data.runAll (s.executed c cmd .ok)).1 := by
  unfold executed serve
  rw [if_neg (by simp [healthy])]
  cases queue : (s.conn c).queue with
  | none => cases cmd <;> rfl
  | some q =>
    cases cmd with
    | exec =>
      simp only
      split <;> rfl
    | watch | unwatch | multi | get | set value | decr | hget key field | hmset key field value
    | lpush value | lpop | llen => rfl

/-- The data after a command are those that the executed commands make. -/
theorem redisCommand_executed (sent : s.redisCommand c cmd f = some (r, x)) :
    x.data = (s.data.runAll (s.executed c cmd f)).1 := by
  unfold redisCommand at sent
  (repeat' split at sent) <;> cases sent
  next err =>
    unfold executed
    rw [if_pos err]
    rfl
  next healthy => exact serve_executed (by simpa using healthy)
  next => rfl
  next healthy => exact serve_executed (by simpa using healthy)

end RedisState

/-- Decrements `total_count` or writes a field of `order_info`. -/
def RedisCmd.books : RedisCmd → Bool
  | .decr | .hmset .orderInfo _ _ => true
  | _ => false

/-! ## What a run shows -/

/-- The requests for which Redis decremented `total_count` or wrote an order. -/
def traces (s₀ : Server) : History server → List Request
  | [] => []
  | .call t (.redis (.command c cmd)) f _ :: h =>
    if ((after (M := server) s₀ h).redis.executed c cmd f).any RedisCmd.books then
      (serving t h).toList ++ traces s₀ h
    else traces s₀ h
  | _ :: h => traces s₀ h

/-- The requests with an `EXEC` that Redis carried out and whose reply was lost. -/
def unanswered (s₀ : Server) : History server → List Request
  | [] => []
  | .call t (.redis (.command c .exec)) .lostAfter _ :: h =>
    if ((after (M := server) s₀ h).redis.executed c .exec .lostAfter).isEmpty then unanswered s₀ h
    else (serving t h).toList ++ unanswered s₀ h
  | _ :: h => unanswered s₀ h

/-- The requests for which `seckillGoods_mysql` was called. -/
def atMysql : History server → List Request
  | [] => []
  | .call t (.mysql (.query _ .selectGoods)) _ _ :: h => (serving t h).toList ++ atMysql h
  | _ :: h => atMysql h

/-- The requests that raised `*failedCount_`. -/
def failures : History server → List Request
  | [] => []
  | .call t (.counter .incFailedCount) _ _ :: h => (serving t h).toList ++ failures h
  | _ :: h => failures h

/-- A request left no trace in Redis, or its unit is counted as failed and its mark removed. -/
def Traceless (s₀ : Server) (h : History server) (d : RedisData) (q : Request) : Prop :=
  q ∉ traces s₀ h ∨ q ∈ failures h ∧ cStr q.usrname ∉ d.orderInfo

/-! ## Only `EXEC` leaves a trace -/

variable {ok : Condition server} {st : Stores} {h : History server} {cfg : Config server}
  {s x : RedisState} {c : ConnId} {cmd : RedisCmd} {f : Fate} {r : Option RedisReply} {l : Local}

/-- What is executed is sent over a context without an error, to a server that got it. -/
theorem executed_sent {done : RedisCmd} (member : done ∈ s.executed c cmd f) :
    (s.conn c).err = false ∧ (f = .ok ∨ f = .lostAfter) := by
  unfold RedisState.executed at member
  split at member
  · split at member
    · exact absurd member List.not_mem_nil
    next healthy => exact ⟨by simpa using healthy, Or.inl rfl⟩
  · split at member
    · exact absurd member List.not_mem_nil
    next healthy => exact ⟨by simpa using healthy, Or.inr rfl⟩
  · exact absurd member List.not_mem_nil

/-- What `EXEC` executes is what the thread has queued. -/
theorem executed_exec {done : RedisCmd} {v user : Str}
    (fits : Fits (s.conn c) s.data.totalCount (.queued v user))
    (member : done ∈ s.executed c .exec f) :
    (s.conn c).watched ≠ some true ∧
      ∃ key, s.executed c .exec f = [.decr, .hmset .orderInfo user key] ∧
        (s.conn c).queue = some [.decr, .hmset .orderInfo user key] := by
  obtain ⟨⟨key, queue⟩, _⟩ := fits
  obtain ⟨healthy, rfl | rfl⟩ := executed_sent member <;>
    · simp only [RedisState.executed, healthy, queue, Bool.false_eq_true, if_false] at member ⊢
      split at member
      · exact absurd member List.not_mem_nil
      next fresh => exact ⟨fresh, key, if_neg fresh, rfl⟩

/-- A trace is left by an `EXEC` that was answered with the transaction, or not at all. -/
theorem trace_exec (fits : InStep s l) (ctx : l.redis.ctx = some c) (allowed : l.AllowsCmd cmd)
    (sent : s.redisCommand c cmd f = some (r, x))
    (trace : (s.executed c cmd f).any RedisCmd.books = true) :
    cmd = .exec ∧ (granted r = true ∨ f = .lostAfter) := by
  obtain ⟨done, member, books⟩ := List.any_eq_true.mp trace
  obtain ⟨healthy, reached⟩ := executed_sent member
  have fits := fits c ctx healthy
  -- inside MULTI a command is queued, outside it only data are read or the refill is set
  have queued {q : List RedisCmd} (queue : (s.conn c).queue = some q) (other : cmd ≠ .exec) : False := by
    obtain rfl | rfl := reached <;>
      · simp only [RedisState.executed, healthy, queue, Bool.false_eq_true, if_false] at member
        cases cmd <;> exact absurd member List.not_mem_nil
  have plain (other : cmd ≠ .exec) (unbooked : cmd.books = false) : False := by
    cases queue : (s.conn c).queue with
    | some q => exact queued queue other
    | none =>
      obtain rfl | rfl := reached <;>
        · simp only [RedisState.executed, healthy, queue, Bool.false_eq_true, if_false] at member
          cases cmd <;> simp_all [RedisCmd.books]
  cases cmd with
  | exec =>
    refine ⟨rfl, ?_⟩
    obtain rfl | lost := reached
    · obtain ⟨_, _, v, name, phase, _⟩ := allowed
      rw [phase] at fits
      obtain ⟨fresh, key, _, queue⟩ := executed_exec fits member
      obtain ⟨rfl, _⟩ := RedisState.redisCommand_ok sent healthy
      exact Or.inl (by simp [RedisState.serve, queue, fresh, granted])
    · exact Or.inr lost
  | decr =>
    obtain ⟨v, opened⟩ := allowed
    rw [opened] at fits
    exact (queued fits.1 (by simp)).elim
  | hmset key field value =>
    cases key with
    | usrInfo => exact allowed.elim
    | orderInfo =>
      obtain ⟨v, name, decred, _⟩ := allowed
      rw [decred] at fits
      exact (queued fits.1 (by simp)).elim
  | watch | unwatch | multi | get | set value | hget key field | lpush value | lpop | llen =>
    exact (plain (by simp) rfl).elim

/-- A command leaves the requests granted, and those left without an answer, as they are. -/
theorem command_cons {t : Nat} {q : Request} {s₀ : Server}
    (before : q ∈ grants h ∨ q ∈ unanswered s₀ h) :
    q ∈ grants (.call t (.redis (.command c cmd)) f r :: h) ∨
      q ∈ unanswered s₀ (.call t (.redis (.command c cmd)) f r :: h) := by
  by_cases exec : cmd = .exec
  · subst exec
    refine before.imp (fun member => ?_) fun member => ?_
    · simp only [grants]
      split
      · exact List.mem_append_right _ member
      · exact member
    · cases f with
      | lostAfter =>
        simp only [unanswered]
        split
        · exact member
        · exact List.mem_append_right _ member
      | ok | lostBefore | fail | failRollback | connect _ _ | deliver _ _ _ | finished _ =>
        exact member
  · cases cmd <;> first | exact before | exact absurd rfl exec

/-- A trace belongs to a grant, or its `EXEC` was not answered. -/
theorem traces_sub (run : Run ok (boot st) h cfg) :
    ∀ q ∈ traces (boot st) h, q ∈ grants h ∨ q ∈ unanswered (boot st) h := by
  refine server_invariant
    (fun h _ _ => ∀ q ∈ traces (boot st) h, q ∈ grants h ∨ q ∈ unanswered (boot st) h)
    ?initial ?redis ?mysql ?counter ?grpc ?start run
  case initial => exact fun _ => nofun
  case redis =>
    intro h cfg t c f r x run inv _ allowed exec q member
    cases c with
    | getOneConnect | close c => exact inv q member
    | command c cmd =>
      have now : after (M := server) (boot st) h = cfg.state := run.after_eq
      simp only [traces, now] at member
      split at member
      next trace =>
        obtain ⟨rfl, went⟩ := trace_exec ((watches run).fits t) allowed.1 allowed.2 exec trace
        obtain mine | before := List.mem_append.mp member
        · obtain granted | rfl := went
          · simp only [grants, granted, if_true]
            exact Or.inl (List.mem_append_left _ mine)
          · have carried : ¬(cfg.state.redis.executed c .exec .lostAfter).isEmpty := by
              intro none
              rw [List.isEmpty_iff.mp none] at trace
              cases trace
            simp only [unanswered, now, if_neg carried]
            exact Or.inr (List.mem_append_left _ mine)
        · exact command_cons (inv q before)
      next => exact command_cons (inv q member)
  case mysql =>
    intro h cfg t c f r x _ inv _ _ _
    cases c <;> exact inv
  case counter => exact fun _ inv _ _ _ => inv
  case grpc => exact fun _ inv _ _ _ => inv
  case start => exact fun _ inv _ _ => inv

/-! ## What an unanswered `EXEC` leaves -/

theorem run_orders {d : RedisData} {cmd : RedisCmd} {user : Str} (member : user ∈ d.orderInfo) :
    user ∈ (d.run cmd).2.1.orderInfo := by
  cases cmd with
  | decr =>
    simp only [RedisData.run]
    (repeat' split) <;> exact member
  | lpop =>
    simp only [RedisData.run]
    split <;> exact member
  | hmset key field value =>
    cases key with
    | usrInfo => exact member
    | orderInfo => exact (AList.mem_insert _).mpr (Or.inr member)
  | watch | unwatch | multi | exec | get | set _ | hget _ _ | lpush _ | llen => exact member

/-- Marks are never removed. -/
theorem runAll_orders {d : RedisData} {cmds : List RedisCmd} {user : Str}
    (member : user ∈ d.orderInfo) : user ∈ (d.runAll cmds).1.orderInfo := by
  induction cmds generalizing d with
  | nil => exact member
  | cons cmd cmds ih => exact ih (run_orders member)

theorem runAll_marks {d : RedisData} {user key : Str} :
    user ∈ (d.runAll [.decr, .hmset .orderInfo user key]).1.orderInfo :=
  (AList.mem_insert _).mpr (Or.inl rfl)

/-- An `EXEC` that was carried out unanswered has left a trace, and the mark stays. -/
theorem unanswered_trace (run : Run ok (boot st) h cfg) :
    ∀ q ∈ unanswered (boot st) h,
      q ∈ traces (boot st) h ∧ cStr q.usrname ∈ cfg.state.redis.data.orderInfo := by
  refine server_invariant (fun h s _ => ∀ q ∈ unanswered (boot st) h,
    q ∈ traces (boot st) h ∧ cStr q.usrname ∈ s.redis.data.orderInfo)
      ?initial ?redis ?mysql ?counter ?grpc ?start run
  case initial => exact fun _ => nofun
  case redis =>
    intro h cfg t c f r x run inv _ allowed exec q member
    cases RedisState.exec_does exec with
    | getOneConnect got =>
      simp only [RedisState.getOneConnect_data got]
      exact inv q member
    | close c => exact inv q member
    | @command _ r _ c cmd sent =>
      have now : after (M := server) (boot st) h = cfg.state := run.after_eq
      have data := RedisState.redisCommand_executed sent
      have stays (before : q ∈ unanswered (boot st) h) :
          q ∈ traces (boot st) (.call t (.redis (.command c cmd)) f r :: h) ∧
            cStr q.usrname ∈ x.data.orderInfo := by
        obtain ⟨trace, mark⟩ := inv q before
        rw [data]
        refine ⟨?_, runAll_orders mark⟩
        simp only [traces]
        split
        · exact List.mem_append_right _ trace
        · exact trace
      -- only an `EXEC` whose reply is lost adds to the unanswered
      by_cases lost : cmd = .exec ∧ f = .lostAfter
      · obtain ⟨rfl, rfl⟩ := lost
        simp only [unanswered, now] at member
        split at member
        · exact stays member
        next carried =>
          obtain mine | before := List.mem_append.mp member
          · -- the HMSET of the transaction is the mark of the thread's own user
            obtain ⟨done, executed⟩ := List.exists_mem_of_ne_nil _ fun none =>
              carried (List.isEmpty_iff.mpr none)
            obtain ⟨ctx, _, work, v, name, queued, named, _⟩ := allowed
            have fits := (watches run).fits t c ctx (executed_sent executed).1
            rw [queued] at fits
            obtain ⟨_, key, list, _⟩ := executed_exec fits executed
            obtain ⟨q', serves, delivered, _⟩ := serving_atWork run work
            rw [serves] at mine
            obtain rfl := List.mem_singleton.mp mine
            constructor
            · simp only [traces, now, list]
              show q ∈ (serving t h).toList ++ traces (boot st) h
              rw [serves]
              exact List.mem_append_left _ mine
            · show cStr q.usrname ∈ x.data.orderInfo
              rw [data, list, delivered name named]
              exact runAll_marks
          · exact stays before
      · apply stays
        rw [not_and_or] at lost
        obtain other | other := lost
        · cases cmd <;> first | exact member | exact absurd rfl other
        · cases cmd <;> cases f <;> first | exact member | exact absurd rfl other
  case mysql =>
    intro h cfg t c f r x _ inv _ _ _
    cases c <;> exact inv
  case counter => exact fun _ inv _ _ _ => inv
  case grpc => exact fun _ inv _ _ _ => inv
  case start => exact fun _ inv _ _ => inv

/-! ## A grant goes on to MySQL -/

/-- A thread whose `EXEC` went through calls `seckillGoods_mysql` before it answers. -/
abbrev booking : Watch server where
  Local := Bool
  allowed owing
    | .redis (.command _ .exec) | .grpc (.finish _ _) => owing = false
    | _ => True
  note owing
    | .redis (.command _ .exec), _, r => owing || granted r
    | .mysql (.query _ .selectGoods), _, _ => false
    | _, _, _ => owing
  idle := false
  begin _ := false
  settled owing := owing = false

section Programs

variable {this : WorkerId} {usrName usrKey : Str} {redisconn : Option ConnId}
  {connection : Option SessId} {α β : Type} {owing : Bool}

abbrev Owes {α : Type} (p : Code α) (owing : Bool) (post : α → Bool → Prop) : Prop :=
  p.Keeps booking.toMonitor owing post

/-- A program that begins and ends with nothing owed. -/
abbrev Even {α : Type} (p : Code α) : Prop := Owes p false fun _ owing => owing = false

theorem Even.bind {p : Code α} {f : α → Code β} (first : Even p) (rest : ∀ a, Even (f a)) :
    Even (p >>= f) :=
  Prog.Keeps.bind first fun a owing even => by
    subst even
    exact rest a

theorem even_of_quiet {p : Code α} (only : p.Only Call.Quiet) : Even p := by
  apply only.keeps
  · intro c quiet
    cases c with
    | mysql c => exact absurd quiet id
    | redis c =>
      cases c with
      | getOneConnect | close c => exact ⟨trivial, fun _ _ => rfl⟩
      | command c cmd =>
        cases cmd <;> first | exact absurd quiet id | exact ⟨trivial, fun _ _ => rfl⟩
    | counter c | crash why => exact ⟨trivial, fun _ _ => rfl⟩
    | grpc c => cases c <;> first | exact ⟨trivial, fun _ _ => rfl⟩ | exact ⟨rfl, fun _ _ => rfl⟩
  · exact fun _ => rfl

theorem even_of_noRedis {p : Code α} (only : p.Only Call.NoRedis) : Even p := by
  apply only.keeps
  · intro c noRedis
    cases c with
    | redis c => exact absurd noRedis id
    | mysql c =>
      cases c with
      | query m stmt => cases stmt <;> exact ⟨trivial, fun _ _ => rfl⟩
      | getOneConnect | close m | autocommit m mode | fetchRows m | rollback m | commit m =>
        exact ⟨trivial, fun _ _ => rfl⟩
    | counter c | crash why => exact ⟨trivial, fun _ _ => rfl⟩
    | grpc c => cases c <;> first | exact ⟨trivial, fun _ _ => rfl⟩ | exact ⟨rfl, fun _ _ => rfl⟩
  · exact fun _ => rfl

/-- `seckillGoods_mysql` pays what is owed. -/
theorem seckillGoodsMysql_owes :
    Owes (seckillGoodsMysql this usrName usrKey connection) owing fun _ owing => owing = false := by
  have away : (seckillGoodsMysql this usrName usrKey connection).Only Call.NoRedis :=
    seckillGoodsMysql_noRedis
  cases connection with
  | none => exact ⟨trivial, nofun⟩
  | some m =>
    -- after the SELECT nothing is owed, and what follows does not talk to Redis
    obtain ⟨_, afterOff⟩ := away
    refine ⟨trivial, fun _ error => ⟨trivial, fun _ selError => ?_⟩⟩
    obtain ⟨_, afterSelect⟩ := afterOff error
    exact even_of_noRedis (afterSelect selError)

/-- `seckillGoods` goes by the same test as `granted`. -/
theorem reserve_owes :
    Owes (reserve usrName usrKey redisconn) false fun reserved owing => owing = reserved := by
  apply Prog.Keeps.bind (even_of_quiet (redisCommand_quiet _ (by simp)))
  rintro multiReply _ rfl
  split
  · apply Prog.Keeps.bind (even_of_quiet (redisCommand_quiet _ (by simp)))
    rintro _ _ rfl
    apply Prog.Keeps.bind (even_of_quiet (redisCommand_quiet _ (by simp)))
    rintro _ _ rfl
    cases redisconn with
    | none => exact ⟨trivial, nofun⟩
    | some c =>
      refine ⟨rfl, fun _ execReply => ?_⟩
      match execReply with
      | some (.array elements) => exact Bool.false_or _
      | none | some .nil | some (.status _) | some (.error _) | some (.string _)
      | some (.integer _) => exact rfl
  · exact rfl

theorem seckillGoodsFrom_even {fuel repeatCount : Nat} :
    Even (seckillGoodsFrom this usrName usrKey redisconn connection fuel repeatCount) := by
  have answer : Even (setResult this zero) := even_of_quiet setResult_quiet
  induction fuel generalizing repeatCount with
  | zero => exact rfl
  | succ fuel ih =>
    have retry : Even (if repeatCount + 1 < RETRYCOUNT then
        seckillGoodsFrom this usrName usrKey redisconn connection fuel (repeatCount + 1)
        else setResult this zero) := by
      split
      · exact ih
      · exact answer
    apply (even_of_quiet watchCount_quiet).bind
    intro count
    cases count with
    | none => exact answer
    | some currGoodsCount =>
      show Even (if currGoodsCount > 0 then _ else _)
      split
      · apply reserve_owes.bind
        intro reserved owing same
        cases reserved with
        | true => exact seckillGoodsMysql_owes
        | false =>
          subst same
          apply (even_of_quiet (redisCommand_quiet _ (by simp))).bind
          exact fun _ => retry
      · exact (even_of_quiet refill_quiet).bind fun _ => answer

theorem serveRequest_even : Even (serveRequest this usrName usrKey redisconn connection) := by
  cases redisconn with
  | none => exact even_of_noRedis serveRequest_noRedis
  | some c =>
    have answer : Even (setResult this zero) := even_of_quiet setResult_quiet
    apply (even_of_quiet checkUserInfo_quiet).bind
    intro registered
    cases registered with
    | false => exact answer
    | true =>
      apply (even_of_quiet checkUserHasGot_quiet).bind
      intro hasgot
      cases hasgot with
      | true => exact answer
      | false => exact seckillGoodsFrom_even

theorem process_even : Even (process this redisconn connection) := by
  apply (even_of_quiet newWorker_quiet).bind
  intro _
  refine ⟨trivial, fun _ usrName => ⟨trivial, fun _ usrKey => ?_⟩⟩
  apply serveRequest_even.bind
  intro _
  apply (even_of_quiet redisClose_quiet).bind
  intro _
  apply (even_of_noRedis mysqlClose_noRedis).bind
  exact fun _ => ⟨trivial, fun _ _ => ⟨rfl, fun _ _ => rfl⟩⟩

theorem proceedAs_even {status : WorkerStatus} : Even (proceedAs this status) := by
  cases status with
  | create => exact ⟨trivial, fun _ _ => ⟨trivial, fun _ _ => rfl⟩⟩
  | process =>
    refine ⟨trivial, fun _ redisconn => ⟨trivial, fun _ connection => ⟨trivial, fun _ _ => ?_⟩⟩⟩
    apply (even_of_quiet (redisCommand_quiet _ (by simp))).bind
    exact fun _ => process_even
  | finish =>
    refine ⟨trivial, fun _ redisconn => ?_⟩
    apply (even_of_quiet (redisCommand_quiet _ (by simp))).bind
    intro _
    apply (even_of_quiet redisClose_quiet).bind
    exact fun _ => ⟨trivial, fun _ _ => rfl⟩

theorem booking_conforms : booking.Conforms := by
  refine ⟨rfl, fun e => ?_⟩
  cases e with
  | handleRPCS =>
    apply (even_of_quiet admission_quiet).bind
    intro passed
    cases passed with
    | false => exact rfl
    | true => exact ⟨trivial, fun _ _ => ⟨trivial, fun _ _ => proceedAs_even⟩⟩
  | fallback =>
    refine ⟨trivial, fun _ tag => ⟨trivial, fun _ status => ?_⟩⟩
    cases status with
    | create => exact (proceedAs_even : Even (proceedAs tag .create))
    | finish => exact (proceedAs_even : Even (proceedAs tag .finish))
    | process => exact ⟨trivial, fun _ connection => ⟨trivial, fun _ _ => process_even⟩⟩

end Programs

/-- Some thread serves the request and owes it a call of `seckillGoods_mysql`. -/
def Owed (h : History server) (q : Request) : Prop :=
  ∃ t, serving t h = some q ∧ locals booking h t = true

variable {q : Request} {t : Nat}

/-- A call of one thread leaves what the others owe, and what it owes itself as long as its
    record says so. -/
theorem Owed.call {c : Call} {f : Fate} {r : c.Reply} (owed : Owed h q)
    (own : serving t h = some q → locals booking h t = true →
      serving t (.call t c f r :: h) = some q ∧ booking.note (locals booking h t) c f r = true) :
    Owed (.call t c f r :: h) q := by
  obtain ⟨t', serves, owing⟩ := owed
  refine ⟨t', ?_⟩
  by_cases same : t' = t
  · subst same
    rw [locals_call, Function.update_self]
    exact own serves owing
  · rw [locals_call, Function.update_of_ne same, serving_other same]
    exact ⟨serves, owing⟩

/-- A request that was granted has come to MySQL, or its thread still owes it. -/
theorem grants_sub (run : Run ok (boot st) h cfg) : ∀ q ∈ grants h, Owed h q ∨ q ∈ atMysql h := by
  refine server_invariant (fun h _ _ => ∀ q ∈ grants h, Owed h q ∨ q ∈ atMysql h)
    ?initial ?redis ?mysql ?counter ?grpc ?start (run.obeys booking_conforms)
  case initial => exact fun _ member => absurd member List.not_mem_nil
  case redis =>
    intro h cfg t c f r x _ inv _ _ _ q member
    cases c with
    | getOneConnect | close c => exact (inv q member).imp_left fun owed => owed.call fun s o => ⟨s, o⟩
    | command c cmd =>
      have stays (before : q ∈ grants h) :
          Owed (.call t (.redis (.command c cmd)) f r :: h) q ∨ q ∈ atMysql h := by
        refine (inv q before).imp_left fun owed => owed.call fun serves owing => ⟨serves, ?_⟩
        cases cmd <;> first | exact owing | exact Bool.or_eq_true_iff.mpr (Or.inl owing)
      by_cases exec : cmd = .exec
      · subst exec
        simp only [grants] at member
        split at member
        next granted =>
          obtain mine | before := List.mem_append.mp member
          · -- the thread owes it from now on
            refine Or.inl ⟨t, Option.mem_toList.mp mine, ?_⟩
            rw [locals_call, Function.update_self]
            exact Bool.or_eq_true_iff.mpr (Or.inr granted)
          · exact stays before
        next => exact stays member
      · apply stays
        cases cmd <;> first | exact member | exact absurd rfl exec
  case mysql =>
    intro h cfg t c f r x _ inv _ _ _ q member
    by_cases select : ∃ m, c = .query m .selectGoods
    · obtain ⟨m, rfl⟩ := select
      simp only [atMysql]
      obtain ⟨t', serves, owing⟩ | called := inv q member
      · -- the thread that owes it pays with its `SELECT` of the goods
        by_cases same : t' = t
        · subst same
          exact Or.inr (List.mem_append_left _ (Option.mem_toList.mpr serves))
        · refine Or.inl ⟨t', serves, ?_⟩
          rwa [locals_call, Function.update_of_ne same]
      · exact Or.inr (List.mem_append_right _ called)
    · have same : atMysql (.call t (.mysql c) f r :: h) = atMysql h := by
        cases c with
        | query m stmt => cases stmt <;> first | rfl | exact absurd ⟨m, rfl⟩ select
        | getOneConnect | close m | autocommit m mode | fetchRows m | rollback m | commit m => rfl
      rw [same]
      refine (inv q ?_).imp_left fun owed => owed.call fun serves owing => ⟨serves, ?_⟩
      · exact member
      · cases c with
        | query m stmt => cases stmt <;> first | exact owing | exact absurd ⟨m, rfl⟩ select
        | getOneConnect | close m | autocommit m mode | fetchRows m | rollback m | commit m =>
          exact owing
  case counter =>
    intro h cfg t c f r x _ inv _ _ _ q member
    exact (inv q member).imp_left fun owed => owed.call fun s o => ⟨s, o⟩
  case grpc =>
    intro h cfg t c f r x run inv met allowed _ q member
    refine (inv q member).imp_left fun owed => owed.call fun serves owing => ?_
    cases c with
    -- a thread that owes the call does not answer, and takes no request
    | finish w result => exact absurd ((met.2 : locals booking h t = false).symm.trans owing) (by simp)
    | next => exact absurd ((serving_next run allowed).symm.trans serves) (by simp)
    | alloc | status w | setStatus w status | requestseckill w | usrname w | usrkey w
    | setResult w result | result w | delete w => exact ⟨serves, owing⟩
  case start =>
    intro h cfg t e _ inv met _ q member
    refine (inv q member).imp_left ?_
    rintro ⟨t', serves, owing⟩
    refine ⟨t', serves, ?_⟩
    have other : t' ≠ t := by
      rintro rfl
      exact absurd ((met.2 : locals booking h t' = false).symm.trans owing) (by simp)
    rwa [locals_start, Function.update_of_ne other]

/-- A request that was answered without a call of `seckillGoods_mysql` has left no trace if and
    only if no `EXEC` of it was carried out with its reply lost. -/
theorem reservation_traceless (run : Run ok (boot st) h cfg) {a : Answer} (answered : a ∈ answers h)
    (skipped : a.request ∉ atMysql h) :
    Traceless (boot st) h cfg.state.redis.data a.request ↔ a.request ∉ unanswered (boot st) h := by
  constructor
  · intro traceless lost
    obtain ⟨trace, mark⟩ := unanswered_trace run a.request lost
    obtain none | ⟨_, removed⟩ := traceless
    · exact none trace
    · exact removed mark
  · intro heard
    refine Or.inl fun trace => ?_
    obtain granted | lost := traces_sub run a.request trace
    · obtain ⟨t, serves, _⟩ | called := grants_sub run a.request granted
      · exact (requests run).spent a answered t serves
      · exact skipped called
    · exact heard lost

/-- Thread 0 serves a request whose `EXEC` meets `f` to its end. -/
def losesExec (f : Fate) : List (Move server) :=
  queues 0 ⟨0, ['a'], ['k']⟩ ++ [.go 0 f] ++ go 0 8

/-- The connection breaks before `EXEC` reaches Redis. -/
theorem reservation_traceless_lost :
    ∃ h cfg a, Run anything (boot (agreeing [(['a'], ['k'])] 50)) h cfg ∧ a ∈ answers h ∧
      a.result = zero ∧ Traceless (boot (agreeing [(['a'], ['k'])] 50)) h cfg.state.redis.data a.request := by
  have ran : ((replay (fun _ _ _ => true) (losesExec .lostBefore) []
      (initial (boot (agreeing [(['a'], ['k'])] 50)))).any fun x =>
        (answers x.1).any fun a => a.result == zero && !decide (a.request ∈ atMysql x.1) &&
          !decide (a.request ∈ unanswered (boot (agreeing [(['a'], ['k'])] 50)) x.1)) = true := by
    decide +kernel
  obtain ⟨⟨h, cfg⟩, played, after⟩ := (Option.any_eq_true _ _).mp ran
  obtain ⟨a, answered, after⟩ := List.any_eq_true.mp after
  simp only [Bool.and_eq_true, beq_iff_eq, Bool.not_eq_true', decide_eq_false_iff_not] at after
  have run : Run anything _ h cfg := replay_meets played
  exact ⟨h, cfg, a, run, answered, after.1.1, (reservation_traceless run answered after.1.2).mpr after.2⟩

/-- The connection breaks after Redis carried out `EXEC`: the request is answered `"0"` with its
    unit taken and its user marked. -/
theorem reservation_leaves_trace :
    ∃ h cfg a, Run anything (boot (agreeing [(['a'], ['k'])] 50)) h cfg ∧ a ∈ answers h ∧
      a.result = zero ∧ a.request ∉ atMysql h ∧ cfg.state.redis.data.totalCount = decimal 49 ∧
      cfg.state.counters.failedCount = 0 ∧
      ¬Traceless (boot (agreeing [(['a'], ['k'])] 50)) h cfg.state.redis.data a.request := by
  have ran : ((replay (fun _ _ _ => true) (losesExec .lostAfter) []
      (initial (boot (agreeing [(['a'], ['k'])] 50)))).any fun x =>
        x.2.state.redis.data.totalCount == decimal 49 && x.2.state.counters.failedCount == 0 &&
        (answers x.1).any fun a => a.result == zero && !decide (a.request ∈ atMysql x.1) &&
          decide (a.request ∈ traces (boot (agreeing [(['a'], ['k'])] 50)) x.1) &&
          !decide (a.request ∈ failures x.1)) = true := by
    decide +kernel
  obtain ⟨⟨h, cfg⟩, played, after⟩ := (Option.any_eq_true _ _).mp ran
  simp only [Bool.and_eq_true, beq_iff_eq] at after
  obtain ⟨⟨count, failed⟩, after⟩ := after
  obtain ⟨a, answered, after⟩ := List.any_eq_true.mp after
  simp only [Bool.and_eq_true, beq_iff_eq, Bool.not_eq_true', decide_eq_false_iff_not,
    decide_eq_true_eq] at after
  obtain ⟨⟨⟨zero, skipped⟩, trace⟩, uncounted⟩ := after
  refine ⟨h, cfg, a, replay_meets played, answered, zero, skipped, count, failed, ?_⟩
  rintro (none | ⟨counted, _⟩)
  · exact none trace
  · exact uncounted counted

end Seckill

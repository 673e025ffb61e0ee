import Mathlib.Data.List.AList
import Mathlib.Logic.Function.Basic
import Seckill.Lib.CString

/-! # Redis and the pool of its contexts

The Redis server as far as this program talks to it: the four keys `total_count`,
`usr_info`, `order_info` and `work_list`, the commands it sends, and for every
connection the `WATCH` and `MULTI` state the server keeps.  `total_count` is the only
key ever watched.

`redisCommand` answers `NULL` from the moment a context has its error flag set, and
then sends nothing any more.  `RedisPool` is `redispool.cc`.
-/

namespace Seckill

open CStr

/-- What the environment decides about a call: it succeeds, the connection is lost
    before or after Redis executed the command, a statement fails and leaves the
    transaction or rolls it back, some pooled connections are dead, and what
    `cq_->Next` delivers. -/
inductive Fate where
  | ok
  | lostBefore
  | lostAfter
  | fail
  | failRollback
  | connect (alive : Nat → Bool) (connects : Bool)
  | deliver (w : Nat) (usrname usrkey : Str)
  | finished (w : Nat)

def Fate.isOk : Fate → Bool
  | .ok => true
  | _ => false

theorem Fate.eq_ok {f : Fate} (isOk : f.isOk = true) : f = .ok := by
  cases f with
  | ok => rfl
  | lostBefore | lostAfter | fail | failRollback | connect _ _ | deliver _ _ _ | finished _ =>
    cases isOk

abbrev ConnId := Nat

abbrev Hash := AList fun _ : Str => Str

inductive HashKey where
  | usrInfo
  | orderInfo
  deriving DecidableEq

inductive RedisCmd where
  | watch | unwatch | multi | exec
  | get | set (value : Str) | decr
  | hget (key : HashKey) (field : Str) | hmset (key : HashKey) (field value : Str)
  | lpush (value : Str) | lpop | llen
  deriving DecidableEq

inductive RedisReply where
  | nil
  | status (s : Str)
  | error (s : Str)
  | string (s : Str)
  | integer (n : Int)
  | array (elements : Nat)
  deriving DecidableEq

/-- `reply->str`, which hiredis leaves `NULL` in nil, integer and array replies. -/
def RedisReply.str : RedisReply → Option Str
  | .status s | .error s | .string s => some s
  | .nil | .integer _ | .array _ => none

def okText : Str := ['O', 'K']

/-- `reply != NULL && reply->type == REDIS_REPLY_STATUS && strcasecmp(reply->str,"OK") == 0` -/
def isOK : Option RedisReply → Bool
  | some (.status s) => strcaseEq s okText
  | _ => false

structure RedisData where
  totalCount : Str
  usrInfo : Hash
  orderInfo : Hash
  workList : List Str

namespace RedisData

def hash (d : RedisData) : HashKey → Hash
  | .usrInfo => d.usrInfo
  | .orderInfo => d.orderInfo

def setHash (d : RedisData) : HashKey → Hash → RedisData
  | .usrInfo, h => { d with usrInfo := h }
  | .orderInfo, h => { d with orderInfo := h }

/-- Execute a data command; the flag says that `total_count` was written. -/
def run (d : RedisData) : RedisCmd → RedisReply × RedisData × Bool
  | .get => (.string d.totalCount, d, false)
  | .set value => (.status okText, { d with totalCount := value }, true)
  | .decr =>
    match strictInt d.totalCount with
    | some n =>
      -- `DECR` refuses to go below the smallest `long long`
      if longMin < n then (.integer (n - 1), { d with totalCount := decimal (n - 1) }, true)
      else (.error [], d, false)
    | none => (.error [], d, false)
  | .hget key field =>
    (match (d.hash key).lookup field with | some v => .string v | none => .nil, d, false)
  | .hmset key field value =>
    (.status okText, d.setHash key ((d.hash key).insert field value), false)
  | .lpush value => (.integer (d.workList.length + 1), { d with workList := value :: d.workList }, false)
  | .lpop =>
    match d.workList with
    | [] => (.nil, d, false)
    | v :: rest => (.string v, { d with workList := rest }, false)
  | .llen => (.integer d.workList.length, d, false)
  | .watch | .unwatch | .multi | .exec => (.status okText, d, false)

/-- The queued commands of a transaction, one after the other. -/
def runAll (d : RedisData) : List RedisCmd → RedisData × Bool
  | [] => (d, false)
  | cmd :: cmds =>
    let (_, d', touched) := d.run cmd
    let (d'', touched') := d'.runAll cmds
    (d'', touched || touched')

/-- The flag is set whenever `total_count` changes. -/
theorem run_untouched (d : RedisData) (cmd : RedisCmd) (untouched : (d.run cmd).2.2 = false) :
    (d.run cmd).2.1.totalCount = d.totalCount := by
  cases cmd with
  | set value => cases untouched
  | decr =>
    simp only [run] at untouched ⊢
    split
    next n number =>
      rw [number] at untouched
      split
      next inRange => simp [inRange] at untouched
      next => rfl
    next => rfl
  | hmset key field value => cases key <;> rfl
  | lpop =>
    simp only [run]
    split <;> rfl
  | watch | unwatch | multi | exec | get | hget key field | lpush value | llen => rfl

theorem runAll_untouched (d : RedisData) (cmds : List RedisCmd)
    (untouched : (d.runAll cmds).2 = false) : (d.runAll cmds).1.totalCount = d.totalCount := by
  induction cmds generalizing d with
  | nil => rfl
  | cons cmd cmds ih =>
    simp only [runAll, Bool.or_eq_false_iff] at untouched ⊢
    rw [ih _ untouched.2, d.run_untouched cmd untouched.1]

end RedisData

/-- A context and the server's side of its connection: the error flag, the watch on
    `total_count` with a mark that the key was written since, and the queue of an open
    `MULTI`. -/
structure Conn where
  err : Bool := false
  watched : Option Bool := none
  queue : Option (List RedisCmd) := none
  deriving DecidableEq

/-- `total_count` was written. -/
def Conn.touch (x : Conn) : Conn := { x with watched := x.watched.map fun _ => true }

/-- `EXEC` drops the queue and every watch of its connection. -/
def Conn.forget (x : Conn) : Conn := { x with watched := none, queue := none }

structure RedisState where
  data : RedisData
  conn : ConnId → Conn
  redispool : List ConnId
  connectCount : UInt32
  maxConnect : UInt32
  fresh : ConnId

namespace RedisState

def setConn (s : RedisState) (c : ConnId) (x : Conn) : RedisState :=
  { s with conn := Function.update s.conn c x }

/-- A write to `total_count` marks the watch of every connection. -/
def touch (conn : ConnId → Conn) (touched : Bool) : ConnId → Conn :=
  if touched then fun c => (conn c).touch else conn

/-- The server executes one command of connection `c`. -/
def serve (s : RedisState) (c : ConnId) (cmd : RedisCmd) : RedisReply × RedisState :=
  match (s.conn c).queue with
  | none =>
    match cmd with
    | .watch =>
      -- a second `WATCH` keeps the mark of the first
      (.status okText, s.setConn c { s.conn c with watched := some ((s.conn c).watched.getD false) })
    | .unwatch => (.status okText, s.setConn c { s.conn c with watched := none })
    | .multi => (.status okText, s.setConn c { s.conn c with queue := some [] })
    | .exec => (.error [], s)
    | cmd =>
      let (r, d, touched) := s.data.run cmd
      (r, { s with data := d, conn := touch s.conn touched })
  | some q =>
    match cmd with
    | .multi | .watch => (.error [], s)
    | .exec =>
      if (s.conn c).watched = some true then
        (.nil, s.setConn c (s.conn c).forget)
      else
        -- a command that fails inside the transaction does not stop the others
        let (d, touched) := s.data.runAll q
        (.array q.length,
          { s with data := d, conn := Function.update (touch s.conn touched) c (s.conn c).forget })
    | cmd =>
      (.status ['Q', 'U', 'E', 'U', 'E', 'D'],
        s.setConn c { s.conn c with queue := some (q ++ [cmd]) })

/-- The connection breaks: the context keeps the error flag and the server forgets the
    connection's watch and queue. -/
def lose (s : RedisState) (c : ConnId) : RedisState := s.setConn c { err := true }

/-- hiredis `redisCommand` on a context that is not `NULL`. -/
def redisCommand (s : RedisState) (c : ConnId) (cmd : RedisCmd) :
    Fate → Option (Option RedisReply × RedisState)
  | .ok =>
    if (s.conn c).err then some (none, s)
    else some (some (s.serve c cmd).1, (s.serve c cmd).2)
  | .lostBefore => if (s.conn c).err then none else some (none, s.lose c)
  | .lostAfter => if (s.conn c).err then none else some (none, (s.serve c cmd).2.lose c)
  | _ => none

@[simp] theorem setConn_frame {s : RedisState} {c : ConnId} {x : Conn} :
    (s.setConn c x).data = s.data ∧ (s.setConn c x).redispool = s.redispool ∧
      (s.setConn c x).fresh = s.fresh := ⟨rfl, rfl, rfl⟩

/-- Both states have the same pool. -/
structure SamePool (s x : RedisState) : Prop where
  pool : x.redispool = s.redispool
  fresh : x.fresh = s.fresh
  count : x.connectCount = s.connectCount
  limit : x.maxConnect = s.maxConnect

/-- Commands have nothing to do with the pool. -/
theorem serve_pool (s : RedisState) (c : ConnId) (cmd : RedisCmd) :
    SamePool s (s.serve c cmd).2 := by
  unfold serve
  (repeat' split) <;> exact ⟨rfl, rfl, rfl, rfl⟩

/-- The other connections notice a command only when it writes `total_count`. -/
theorem serve_others (s : RedisState) {c c' : ConnId} (cmd : RedisCmd) (other : c' ≠ c) :
    (s.serve c cmd).2.conn c' = s.conn c' ∧ (s.serve c cmd).2.data.totalCount = s.data.totalCount ∨
      (s.serve c cmd).2.conn c' = (s.conn c').touch := by
  have run (conn : ConnId → Conn) (d : RedisData) (touched : Bool)
      (untouched : touched = false → d.totalCount = s.data.totalCount)
      (same : conn c' = touch s.conn touched c') :
      conn c' = s.conn c' ∧ d.totalCount = s.data.totalCount ∨ conn c' = (s.conn c').touch := by
    cases touched with
    | true => exact Or.inr same
    | false => exact Or.inl ⟨same, untouched rfl⟩
  unfold serve
  split
  · split
    · exact Or.inl ⟨Function.update_of_ne other _ _, rfl⟩
    · exact Or.inl ⟨Function.update_of_ne other _ _, rfl⟩
    · exact Or.inl ⟨Function.update_of_ne other _ _, rfl⟩
    · exact Or.inl ⟨rfl, rfl⟩
    · exact run _ _ _ (s.data.run_untouched _) rfl
  · split
    · exact Or.inl ⟨rfl, rfl⟩
    · exact Or.inl ⟨rfl, rfl⟩
    · split
      · exact Or.inl ⟨Function.update_of_ne other _ _, rfl⟩
      · exact run _ _ _ (s.data.runAll_untouched _) (Function.update_of_ne other _ _)
    · exact Or.inl ⟨Function.update_of_ne other _ _, rfl⟩

theorem redisCommand_others {s x : RedisState} {c c' : ConnId} {cmd : RedisCmd} {f : Fate}
    {r : Option RedisReply} (sent : s.redisCommand c cmd f = some (r, x)) (other : c' ≠ c) :
    x.conn c' = s.conn c' ∧ x.data.totalCount = s.data.totalCount ∨
      x.conn c' = (s.conn c').touch := by
  unfold redisCommand at sent
  (repeat' split at sent) <;> cases sent
  · exact Or.inl ⟨rfl, rfl⟩
  · exact s.serve_others cmd other
  · exact Or.inl ⟨Function.update_of_ne other _ _, rfl⟩
  · have lose : ((s.serve c cmd).2.lose c).conn c' = (s.serve c cmd).2.conn c' :=
      Function.update_of_ne other _ _
    rw [lose]
    exact s.serve_others cmd other

/-- A command acts on the data at most once, and only over a context without an error. -/
theorem redisCommand_data {s x : RedisState} {c : ConnId} {cmd : RedisCmd} {f : Fate}
    {r : Option RedisReply} (sent : s.redisCommand c cmd f = some (r, x)) :
    x.data = s.data ∨ (s.conn c).err = false ∧ x.data = (s.serve c cmd).2.data := by
  unfold redisCommand at sent
  (repeat' split at sent) <;> cases sent
  · exact Or.inl rfl
  · next healthy => exact Or.inr ⟨Bool.eq_false_iff.mpr healthy, rfl⟩
  · exact Or.inl rfl
  · next healthy => exact Or.inr ⟨Bool.eq_false_iff.mpr healthy, rfl⟩

/-- After a command that was not answered the context is broken. -/
theorem redisCommand_broken {s x : RedisState} {c : ConnId} {cmd : RedisCmd} {f : Fate}
    {r : Option RedisReply} (sent : s.redisCommand c cmd f = some (r, x))
    (broken : f ≠ .ok ∨ (s.conn c).err = true) : r = none ∧ (x.conn c).err = true := by
  unfold redisCommand at sent
  (repeat' split at sent) <;> cases sent
  · next err => exact ⟨rfl, err⟩
  · next healthy => exact absurd broken (by simp [healthy])
  · exact ⟨rfl, by simp [lose, setConn]⟩
  · exact ⟨rfl, by simp [lose, setConn]⟩

/-- A command that was answered was served. -/
theorem redisCommand_ok {s x : RedisState} {c : ConnId} {cmd : RedisCmd} {r : Option RedisReply}
    (sent : s.redisCommand c cmd .ok = some (r, x)) (healthy : (s.conn c).err = false) :
    r = some (s.serve c cmd).1 ∧ x = (s.serve c cmd).2 := by
  simp only [redisCommand, healthy, Bool.false_eq_true, if_false, Option.some.injEq,
    Prod.mk.injEq] at sent
  exact ⟨sent.1.symm, sent.2.symm⟩

theorem redisCommand_pool {s x : RedisState} {c : ConnId} {cmd : RedisCmd} {f : Fate}
    {r : Option RedisReply} (sent : s.redisCommand c cmd f = some (r, x)) :
    SamePool s x := by
  unfold redisCommand at sent
  (repeat' split at sent) <;> cases sent
  · exact ⟨rfl, rfl, rfl, rfl⟩
  · exact s.serve_pool c cmd
  · exact ⟨rfl, rfl, rfl, rfl⟩
  · obtain ⟨pool, fresh, count, limit⟩ := s.serve_pool c cmd
    exact ⟨pool, fresh, count, limit⟩

/-- `RedisPool::createOneConnect`: `connect_count` is not counted up. -/
def createOneConnect (s : RedisState) (connects : Bool) : Option ConnId × RedisState :=
  if connects then
    (some s.fresh, { s.setConn s.fresh {} with fresh := s.fresh + 1 })
  else (none, s)

/-- `RedisPool::getOneConnect` -/
def getOneConnect (s : RedisState) (connects : Bool) : Option ConnId × RedisState :=
  match s.redispool with
  | c :: rest => (some c, { s with redispool := rest })
  | [] => if s.connectCount < s.maxConnect then s.createOneConnect connects else (none, s)

theorem getOneConnect_cases (s : RedisState) (connects : Bool) :
    (∃ c rest, s.redispool = c :: rest ∧
      s.getOneConnect connects = (some c, { s with redispool := rest })) ∨
    (s.redispool = [] ∧ connects = true ∧
      s.getOneConnect connects = (some s.fresh, { s.setConn s.fresh {} with fresh := s.fresh + 1 })) ∨
    s.getOneConnect connects = (none, s) := by
  unfold getOneConnect createOneConnect
  cases pool : s.redispool with
  | cons c rest => exact Or.inl ⟨c, rest, rfl, rfl⟩
  | nil =>
    by_cases room : s.connectCount < s.maxConnect
    · cases connects with
      | true => exact Or.inr (Or.inl ⟨rfl, rfl, by simp [room]⟩)
      | false => exact Or.inr (Or.inr (by simp [room]))
    · exact Or.inr (Or.inr (by simp [room]))

theorem getOneConnect_data {s x : RedisState} {connects : Bool} {r : Option ConnId}
    (got : s.getOneConnect connects = (r, x)) : x.data = s.data := by
  obtain ⟨c, rest, _, taken⟩ | ⟨_, _, made⟩ | none := s.getOneConnect_cases connects
  · rw [taken] at got
    cases got
    rfl
  · rw [made] at got
    cases got
    rfl
  · rw [none] at got
    cases got
    rfl

/-- `RedisPool::close` of a context that is not `NULL` -/
def close (s : RedisState) (c : ConnId) : RedisState :=
  { s with redispool := s.redispool ++ [c] }

/-- `RedisPool::setParameter` on the object as its constructor leaves it. -/
def setParameter (s : RedisState) (maxConnect : UInt32) : RedisState :=
  { s with redispool := [], maxConnect := maxConnect, connectCount := 0 }

/-- `redisFree` of the context at the head of the queue, and `connect_count--`. -/
def discard (s : RedisState) (c : ConnId) : RedisState :=
  { s.lose c with connectCount := s.connectCount - 1 }

/-- The loop of `~RedisPool`. -/
def destroy : List ConnId → RedisState → RedisState
  | [], s => { s with redispool := [] }
  | c :: rest, s => destroy rest (s.discard c)

end RedisState

inductive RedisCall where
  | getOneConnect
  | close (c : ConnId)
  | command (c : ConnId) (cmd : RedisCmd)

@[reducible] def RedisCall.Reply : RedisCall → Type
  | .getOneConnect => Option ConnId
  | .close _ => Unit
  | .command _ _ => Option RedisReply

def RedisState.exec (s : RedisState) : (c : RedisCall) → Fate → Option (c.Reply × RedisState)
  | .getOneConnect, .ok => some (s.getOneConnect true)
  | .getOneConnect, .fail => some (s.getOneConnect false)
  | .getOneConnect, _ => none
  | .close c, .ok => some ((), s.close c)
  | .close _, _ => none
  | .command c cmd, f => s.redisCommand c cmd f

end Seckill

import Mathlib.Data.List.DropRight
import Seckill.Model.Redis

/-! # MySQL and the pool of its connections

The rows the program reads and writes: the count of goods `'10'`, the orders and the
registered users.  Names compare under the collation of the tables, a weight for each
character with trailing blanks ignored.  A session's uncommitted work is kept beside the
committed rows; `lock` is the row lock on goods `'10'`, and an `INSERT` waits for another
session's uncommitted row of an equal name, as the primary key on `usr_name` makes it.  So
does `SELECT ... FOR UPDATE` on `order_info`; the rows and gaps that it then locks itself are
left out here, and are a parameter where waiting is what matters (`LockOrder`).

Statements stand for the text the code formats, with the names as the `'%s'` literals carry
them: that is what MySQL reads where names and keys have nothing that the lexer takes apart
and fit the buffer (`TextRuns`).  `Statements` has the texts, for any names and keys.
`mysql_use_result` gives a result here; `LibraryCalls` has it as a call of its own.
`MysqlPool` is `mysqlpool.cc`.
-/

namespace Seckill

open CStr

abbrev SessId := Nat

/-- What a name is compared by: its characters' weights, trailing blanks ignored. -/
def collate (weight : Char → Nat) (name : Str) : List Nat :=
  (name.rdropWhile (· == ' ')).map weight

structure OrderRow where
  usrName : Str
  usrKey : Str
  goodsId : Str
  deriving DecidableEq

inductive Stmt where
  /-- `SELECT usr_key FROM usr_info WHERE usr_name ='%s'` -/
  | selectUsrKey (name : Str)
  /-- `SELECT * FROM order_info WHERE usr_name ='%s' FOR UPDATE` -/
  | selectOrder (name : Str)
  /-- `SELECT g_totalcount FROM goods_info WHERE g_id ='10' FOR UPDATE` -/
  | selectGoods
  /-- `UPDATE goods_info SET g_totalcount = %d WHERE g_id = '10'` -/
  | updateGoods (count : Int)
  /-- `INSERT INTO order_info(usr_name,usr_key,goods_id) VALUES ('%s','%s','10')`, of a name and a
      key that the text carries unchanged; another text may insert other rows, or more. -/
  | insertOrder (name key : Str)
  deriving DecidableEq

/-- A session: its autocommit mode, whether a transaction is open, the count of goods
    `'10'` it has written and not committed, and the rows of its last `SELECT` that the
    client has not fetched. -/
structure Session where
  autocommit : Bool := true
  inTrx : Bool := false
  written : Option Nat := none
  result : List (List Str) := []
  deriving DecidableEq

structure MysqlState where
  weight : Char → Nat
  usrInfo : List (Str × Str)
  gTotalcount : Option Nat
  orderInfo : List OrderRow
  lock : Option SessId
  inserts : List (SessId × OrderRow)
  session : SessId → Session
  mysqlpool : List SessId
  connectCount : UInt32
  maxConnect : UInt32
  fresh : SessId

namespace MysqlState

def sameName (s : MysqlState) (a b : Str) : Bool := collate s.weight a == collate s.weight b

def setSession (s : MysqlState) (m : SessId) (x : Session) : MysqlState :=
  { s with session := Function.update s.session m x }

/-- End the transaction of session `m` and give up its lock. -/
def endTrx (s : MysqlState) (m : SessId) : MysqlState :=
  { s.setSession m { s.session m with inTrx := false, written := none } with
    lock := if s.lock = some m then none else s.lock
    inserts := s.inserts.filter fun x => x.1 != m }

/-- The rows session `m` has inserted and not committed. -/
def ownRows (s : MysqlState) (m : SessId) : List OrderRow :=
  (s.inserts.filter fun x => x.1 == m).map Prod.snd

def commitTrx (s : MysqlState) (m : SessId) : MysqlState :=
  { s.endTrx m with
    gTotalcount := (s.session m).written.or s.gTotalcount
    orderInfo := s.orderInfo ++ s.ownRows m }

def rollbackTrx (s : MysqlState) (m : SessId) : MysqlState := s.endTrx m

/-- A statement is over: in autocommit mode that ends its transaction. -/
def stmtDone (s : MysqlState) (m : SessId) : MysqlState :=
  if (s.session m).autocommit then s.commitTrx m
  else s.setSession m { s.session m with inTrx := true }

/-- A statement has to wait for another session's lock. -/
def blocked (s : MysqlState) (m : SessId) : Stmt → Bool
  | .selectUsrKey _ => false
  | .selectGoods | .updateGoods _ => s.lock.any (· != m)
  | .selectOrder name | .insertOrder name _ =>
    s.inserts.any fun x => x.1 != m && s.sameName name x.2.usrName

def setResult (s : MysqlState) (m : SessId) (rows : List (List Str)) : MysqlState :=
  s.setSession m { s.session m with result := rows }

def takeLock (s : MysqlState) (m : SessId) : MysqlState := { s with lock := some m }

def write (s : MysqlState) (m : SessId) (count : Option Nat) : MysqlState :=
  s.setSession m { s.session m with written := count }

def addInsert (s : MysqlState) (m : SessId) (row : OrderRow) : MysqlState :=
  { s with inserts := s.inserts ++ [(m, row)] }

/-- The count of goods `'10'` as session `m` sees it under its lock. -/
def seenCount (s : MysqlState) (m : SessId) : Option Nat := (s.session m).written.or s.gTotalcount

/-- Execute a statement that does not wait; the flag is the error answer of `mysql_query`.  It is
    the statement that runs, with its names as they are, and not a text (`queryText`). -/
def runStmt (s : MysqlState) (m : SessId) : Stmt → Bool × MysqlState
  | .selectUsrKey name =>
    (false, (s.setResult m ((s.usrInfo.filter fun u => s.sameName u.1 name).map fun u => [u.2])).stmtDone m)
  | .selectOrder name =>
    (false, (s.setResult m (((s.orderInfo ++ s.ownRows m).filter fun o => s.sameName o.usrName name).map
      fun o => [o.usrName, o.usrKey, o.goodsId])).stmtDone m)
  | .selectGoods =>
    (false, ((s.takeLock m).setResult m ((s.seenCount m).map fun g : Nat => [decimal g]).toList).stmtDone m)
  | .updateGoods count =>
    -- the column is `INT UNSIGNED`, and a count that it cannot hold is an error
    if count < 0 ∨ 4294967295 < count then (true, s)
    else (false, ((s.takeLock m).write m ((s.seenCount m).map fun _ => count.toNat)).stmtDone m)
  | .insertOrder name key =>
    -- the primary key refuses a name that is there, committed or inserted by this session
    if (s.orderInfo ++ s.ownRows m).any fun o => s.sameName o.usrName name then (true, s)
    else (false, (s.addInsert m ⟨name, key, ['1', '0']⟩).stmtDone m)

/-- `mysql_query`, whose answer is nonzero on an error. -/
def query (s : MysqlState) (m : SessId) (stmt : Stmt) : Fate → Option (Bool × MysqlState)
  | .ok => if s.blocked m stmt then none else some (s.runStmt m stmt)
  | .fail => some (true, s)
  | .failRollback => some (true, s.rollbackTrx m)
  | _ => none

/-- `mysql_use_result`, which gives a result here, the `mysql_fetch_row` loop and
    `mysql_free_result`, as one call: the rows up to the first `NULL`, which is the end of the
    result or a broken stream. -/
def fetchRows (s : MysqlState) (m : SessId) : Fate → Option (List (List Str) × MysqlState)
  | .ok => some ((s.session m).result, s.setResult m [])
  | .fail => some ([], s.setResult m [])
  | _ => none

/-- `mysql_autocommit`: switching it on commits what is open. -/
def autocommit (s : MysqlState) (m : SessId) (mode : Bool) : Fate → Option (Bool × MysqlState)
  | .ok =>
    let s := if mode then s.commitTrx m else s
    some (false, s.setSession m { s.session m with autocommit := mode })
  | .fail => some (true, s)
  | _ => none

def commit (s : MysqlState) (m : SessId) : Fate → Option (Bool × MysqlState)
  | .ok => some (false, s.commitTrx m)
  | .fail => some (true, s)
  | .failRollback => some (true, s.rollbackTrx m)
  | _ => none

def rollback (s : MysqlState) (m : SessId) : Fate → Option (Bool × MysqlState)
  | .ok => some (false, s.rollbackTrx m)
  | .fail => some (true, s)
  | _ => none

/-! What a call on a session leaves alone. -/

/-- Both states have the same pool. -/
structure SamePool (s x : MysqlState) : Prop where
  pool : x.mysqlpool = s.mysqlpool
  fresh : x.fresh = s.fresh
  count : x.connectCount = s.connectCount
  limit : x.maxConnect = s.maxConnect

theorem stmtDone_pool {s x : MysqlState} {m : SessId} (same : SamePool s x) :
    SamePool s (x.stmtDone m) := by
  obtain ⟨pool, fresh, count, limit⟩ := same
  unfold stmtDone
  split <;> exact ⟨pool, fresh, count, limit⟩

theorem runStmt_pool (s : MysqlState) (m : SessId) (stmt : Stmt) :
    SamePool s (s.runStmt m stmt).2 := by
  cases stmt with
  | selectUsrKey name | selectOrder name | selectGoods =>
    exact stmtDone_pool ⟨rfl, rfl, rfl, rfl⟩
  | updateGoods count | insertOrder name key =>
    simp only [runStmt]
    split
    · exact ⟨rfl, rfl, rfl, rfl⟩
    · exact stmtDone_pool ⟨rfl, rfl, rfl, rfl⟩

/-- `MysqlPool::createOneConnect` -/
def createOneConnect (s : MysqlState) (connects : Bool) : Option SessId × MysqlState :=
  if connects then
    (some s.fresh, { s.setSession s.fresh {} with
      fresh := s.fresh + 1, connectCount := s.connectCount + 1 })
  else (none, s)

/-- The loop of `getOneConnect` that closes dead connections at the head of the queue; the
    server rolls a closed connection's transaction back. -/
def evict (alive : SessId → Bool) : List SessId → MysqlState → MysqlState
  | [], s => { s with mysqlpool := [] }
  | m :: rest, s =>
    if alive m then { s with mysqlpool := m :: rest }
    else evict alive rest { s.rollbackTrx m with connectCount := s.connectCount - 1 }

/-- `MysqlPool::getOneConnect` -/
def getOneConnect (s : MysqlState) (alive : SessId → Bool) (connects : Bool) :
    Option SessId × MysqlState :=
  let s := evict alive s.mysqlpool s
  match s.mysqlpool with
  | m :: rest => (some m, { s with mysqlpool := rest })
  -- at the limit `NULL` is returned and nobody waits
  | [] => if s.connectCount < s.maxConnect then s.createOneConnect connects else (none, s)

theorem evict_pool (alive : SessId → Bool) (pool : List SessId) (s : MysqlState) :
    (evict alive pool s).mysqlpool.Sublist pool ∧ (evict alive pool s).fresh = s.fresh := by
  induction pool generalizing s with
  | nil => exact ⟨List.Sublist.refl [], rfl⟩
  | cons m rest ih =>
    unfold evict
    split
    · exact ⟨List.Sublist.refl _, rfl⟩
    · obtain ⟨pool, fresh⟩ := ih { s.rollbackTrx m with connectCount := s.connectCount - 1 }
      exact ⟨pool.trans (List.sublist_cons_self m rest), fresh⟩

theorem getOneConnect_cases (s : MysqlState) (alive : SessId → Bool) (connects : Bool) :
    ∃ s', s' = evict alive s.mysqlpool s ∧
      ((∃ m rest, s'.mysqlpool = m :: rest ∧
          s.getOneConnect alive connects = (some m, { s' with mysqlpool := rest })) ∨
        s'.mysqlpool = [] ∧ s.getOneConnect alive connects =
          (some s'.fresh, { s'.setSession s'.fresh {} with
            fresh := s'.fresh + 1, connectCount := s'.connectCount + 1 }) ∨
        s.getOneConnect alive connects = (none, s')) := by
  refine ⟨evict alive s.mysqlpool s, rfl, ?_⟩
  unfold getOneConnect createOneConnect
  generalize evict alive s.mysqlpool s = s'
  cases pool : s'.mysqlpool with
  | cons m rest => exact Or.inl ⟨m, rest, rfl, by simp [pool]⟩
  | nil =>
    by_cases room : s'.connectCount < s'.maxConnect
    · cases connects with
      | true => exact Or.inr (Or.inl ⟨rfl, by simp [pool, room]⟩)
      | false => exact Or.inr (Or.inr (by simp [pool, room]))
    · exact Or.inr (Or.inr (by simp [pool, room]))

/-- `MysqlPool::close` of a connection that is not `NULL` -/
def close (s : MysqlState) (m : SessId) : MysqlState :=
  { s with mysqlpool := s.mysqlpool ++ [m] }

/-- `MysqlPool::setParameter` on the object as its constructor leaves it. -/
def setParameter (s : MysqlState) (maxConnect : UInt32) : MysqlState :=
  { s with mysqlpool := [], maxConnect := maxConnect, connectCount := 0 }

/-- `mysql_close` of the connection at the head of the queue, and `connect_count--`. -/
def discard (s : MysqlState) (m : SessId) : MysqlState :=
  { s.rollbackTrx m with connectCount := s.connectCount - 1 }

/-- The loop of `~MysqlPool`. -/
def destroy : List SessId → MysqlState → MysqlState
  | [], s => { s with mysqlpool := [] }
  | m :: rest, s => destroy rest (s.discard m)

end MysqlState

inductive MysqlCall where
  | getOneConnect
  | close (m : SessId)
  | autocommit (m : SessId) (mode : Bool)
  | query (m : SessId) (stmt : Stmt)
  /-- the reading of a whole result set -/
  | fetchRows (m : SessId)
  | rollback (m : SessId)
  | commit (m : SessId)

@[reducible] def MysqlCall.Reply : MysqlCall → Type
  | .getOneConnect => Option SessId
  | .close _ => Unit
  | .autocommit _ _ | .query _ _ | .rollback _ | .commit _ => Bool
  | .fetchRows _ => List (List Str)

def MysqlState.exec (s : MysqlState) : (c : MysqlCall) → Fate → Option (c.Reply × MysqlState)
  | .getOneConnect, .ok => some (s.getOneConnect (fun _ => true) true)
  | .getOneConnect, .connect alive connects => some (s.getOneConnect alive connects)
  | .getOneConnect, _ => none
  | .close m, .ok => some ((), s.close m)
  | .close _, _ => none
  | .autocommit m mode, f => s.autocommit m mode f
  | .query m stmt, f => s.query m stmt f
  | .fetchRows m, f => s.fetchRows m f
  | .rollback m, f => s.rollback m f
  | .commit m, f => s.commit m f

/-- A call on a session has nothing to do with the pool. -/
theorem MysqlState.exec_pool {s x : MysqlState} {c : MysqlCall} {f : Fate} {r : c.Reply}
    (done : s.exec c f = some (r, x)) (get : c ≠ .getOneConnect) (close : ∀ m, c ≠ .close m) :
    SamePool s x := by
  cases c with
  | getOneConnect => exact absurd rfl get
  | close m => exact absurd rfl (close m)
  | query m stmt =>
    simp only [exec] at done
    cases f <;> simp only [MysqlState.query, reduceCtorEq] at done
    case ok =>
      split at done
      · cases done
      · have after : (s.runStmt m stmt).2 = x := congrArg Prod.snd (Option.some.inj done)
        rw [← after]
        exact runStmt_pool s m stmt
    all_goals
      cases done
      exact ⟨rfl, rfl, rfl, rfl⟩
  | autocommit m mode =>
    simp only [exec] at done
    unfold MysqlState.autocommit at done
    (repeat' split at done) <;> cases done <;> exact ⟨rfl, rfl, rfl, rfl⟩
  | fetchRows m =>
    simp only [exec] at done
    unfold MysqlState.fetchRows at done
    split at done <;> cases done <;> exact ⟨rfl, rfl, rfl, rfl⟩
  | rollback m =>
    simp only [exec] at done
    unfold MysqlState.rollback at done
    split at done <;> cases done <;> exact ⟨rfl, rfl, rfl, rfl⟩
  | commit m =>
    simp only [exec] at done
    unfold MysqlState.commit at done
    split at done <;> cases done <;> exact ⟨rfl, rfl, rfl, rfl⟩

end Seckill

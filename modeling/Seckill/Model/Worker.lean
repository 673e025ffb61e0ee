import Seckill.Model.Server

/-! # `Worker`

`Worker.cc` and the dispatch loop of `ServerImpl::HandleRPCS`, call by call.  Left out are
the lines that print, and `freeReplyObject`: nothing reads what they change.  A member
function takes its object as `this`.
-/

namespace Seckill

open CStr CallTree

def RETRYCOUNT : Nat := 20

/-! ## Identity check -/

def checkUserInfoMysql (usrName usrKey : Str) (mysqlcon : Option SessId) : Code Bool := do
  if ← mysqlQuery mysqlcon (.selectUsrKey (cStr usrName)) then
    return false
  else
    let rows ← mysqlFetchRows mysqlcon
    -- any row may match: under the collation there may be several, and none of exactly this name
    return rows.any fun row => row.head?.map cStr == some usrKey

def checkUserInfo (usrName usrKey : Str) (redisconn : Option ConnId) (mysqlcon : Option SessId) :
    Code Bool :=
  match redisconn with
  | none => checkUserInfoMysql usrName usrKey mysqlcon
  | some _ => do
    let confirmReply ← redisCommand redisconn (.hget .usrInfo (cStr usrName))
    -- the reply up to its first NUL is compared with the whole key of the request
    match confirmReply with
    | some (.string str) => return usrKey == cStr str
    | _ => return false

/-! ## Duplicate check -/

def checkUserHasGotMysql (usrName : Str) (mysqlcon : Option SessId) : Code Bool := do
  let _ ← mysqlAutocommit mysqlcon false
  let hasgot ← do
    if ← mysqlQuery mysqlcon (.selectOrder (cStr usrName)) then
      -- after an error the user counts as one without an order
      pure false
    else
      let rows ← mysqlFetchRows mysqlcon
      pure (rows.any fun row => 0 < row.length)
  let _ ← mysqlAutocommit mysqlcon true
  return hasgot

def checkUserHasGot (usrName : Str) (redisconn : Option ConnId) (mysqlcon : Option SessId) :
    Code Bool :=
  match redisconn with
  | none => checkUserHasGotMysql usrName mysqlcon
  | some _ => do
    let orderReply ← redisCommand redisconn (.hget .orderInfo (cStr usrName))
    match orderReply with
    | some (.string _) => return true
    | _ => return false

/-! ## Taking an order -/

def one : Str := ['1']
def zero : Str := ['0']

/-- `response_.set_result` -/
def setResult (this : WorkerId) (result : Str) : Code Unit := grpc (.setResult this result)

/-- What the `mysql_fetch_row` loop leaves in `total_count`. -/
def lastCount (rows : List (List Str)) : Int :=
  rows.foldl (fun totalCount row => match row with | [] => totalCount | v :: _ => atoi v) 0

def seckillGoodsMysql (this : WorkerId) (usrName usrKey : Str) (connection : Option SessId) :
    Code Unit := do
  let _ ← mysqlAutocommit connection false
  let selError ← mysqlQuery connection .selectGoods
  -- after an error the count stays 0, so that is answered as sold out
  let totalCount ← if selError then pure 0 else do
    let rows ← mysqlFetchRows connection
    pure (lastCount rows)
  if totalCount > 0 then
    let updateError ← mysqlQuery connection (.updateGoods (totalCount - 1))
    let insertError ← mysqlQuery connection (.insertOrder (cStr usrName) (cStr usrKey))
    -- `isSuc` is only looked at here: the `INSERT` is sent after a failed `UPDATE` too
    if selError || updateError || insertError then
      let _ ← mysqlRollback connection
      counter .wrlock
      counter .incFailedCount
      counter .unlock
      setResult this zero
    else
      -- whether the commit succeeded is not asked
      let _ ← mysqlCommit connection
      setResult this one
      counter .incSuccessNum
    let _ ← mysqlAutocommit connection true
  else
    setResult this zero
    let _ ← mysqlAutocommit connection true

/-! The parts of `seckillGoods_mysql`. -/

/-- With nothing to sell. -/
def refuseSale (this : WorkerId) (connection : Option SessId) : Code Unit := do
  setResult this zero
  let _ ← mysqlAutocommit connection true

/-- After a statement that failed, from the rollback on. -/
def failSale (this : WorkerId) (connection : Option SessId) : Code Unit := do
  let _ ← mysqlRollback connection
  counter .wrlock
  counter .incFailedCount
  counter .unlock
  setResult this zero
  let _ ← mysqlAutocommit connection true

/-- After none that failed, from the commit on. -/
def bookSale (this : WorkerId) (connection : Option SessId) : Code Unit := do
  let _ ← mysqlCommit connection
  setResult this one
  counter .incSuccessNum
  let _ ← mysqlAutocommit connection true

/-- From the `UPDATE` on. -/
def sellGoods (this : WorkerId) (usrName usrKey : Str) (connection : Option SessId)
    (selError : Bool) (totalCount : Int) : Code Unit := do
  let updateError ← mysqlQuery connection (.updateGoods (totalCount - 1))
  let insertError ← mysqlQuery connection (.insertOrder (cStr usrName) (cStr usrKey))
  if selError || updateError || insertError then
    failSale this connection
  else
    bookSale this connection

theorem seckillGoodsMysql_eq (this : WorkerId) (usrName usrKey : Str)
    (connection : Option SessId) :
    seckillGoodsMysql this usrName usrKey connection = (do
      let _ ← mysqlAutocommit connection false
      let selError ← mysqlQuery connection .selectGoods
      let totalCount ← if selError then pure 0 else do
        let rows ← mysqlFetchRows connection
        pure (lastCount rows)
      if totalCount > 0 then
        sellGoods this usrName usrKey connection selError totalCount
      else
        refuseSale this connection) := rfl

/-- `seckillGoods` from `WATCH` to the test of both replies: the count, or `none` where the
    replies are not as they should be. -/
def watchCount (redisconn : Option ConnId) : Code (Option Int) := do
  let watchReply ← redisCommand redisconn .watch
  let reply ← redisCommand redisconn .get
  match reply with
  | none => return none
  | some reply =>
    -- of a reply to `GET` only the text is used, whatever its type
    if isOK watchReply then
      match reply.str with
      | some str => return some (atoi str)
      | none => crash .nullStr
    else
      return none

/-- `seckillGoods` from `MULTI` to `EXEC`: whether the transaction was executed. -/
def reserve (usrName usrKey : Str) (redisconn : Option ConnId) : Code Bool := do
  let multiReply ← redisCommand redisconn .multi
  if isOK multiReply then
    let _ ← redisCommand redisconn .decr
    let _ ← redisCommand redisconn (.hmset .orderInfo (cStr usrName) (cStr usrKey))
    let execReply ← redisCommand redisconn .exec
    -- two commands were queued, so an `EXEC` that was carried out has two elements
    match execReply with
    | some (.array elements) => return 1 < elements
    | _ => return false
  else
    return false

/-- The sold-out branch of `seckillGoods` up to the unlock. -/
def refill (redisconn : Option ConnId) : Code Unit := do
  let _ ← redisCommand redisconn .unwatch
  counter .wrlock
  if (← counter .failedCount) > 0 then
    let failedC := decimal (← counter .failedCount)
    -- the count is replaced, not added to: the `WATCH` was given up above
    let setCreply ← redisCommand redisconn (.set failedC)
    if isOK setCreply then
      counter (.setFailedCount 0)
  counter .unlock

/-- One activation of `seckillGoods` below the `NULL` test; `retry` is what it does after
    its `UNWATCH` when `MULTI` or `EXEC` did not go through. -/
def attempt (this : WorkerId) (usrName usrKey : Str) (redisconn : Option ConnId)
    (connection : Option SessId) (retry : Code Unit) : Code Unit := do
  match ← watchCount redisconn with
  | none => setResult this zero
  | some currGoodsCount =>
    if currGoodsCount > 0 then
      if ← reserve usrName usrKey redisconn then
        seckillGoodsMysql this usrName usrKey connection
      else
        let _ ← redisCommand redisconn .unwatch
        retry
    else
      refill redisconn
      setResult this zero

/-- The recursion of `seckillGoods`, with fuel for it. -/
def seckillGoodsFrom (this : WorkerId) (usrName usrKey : Str) (redisconn : Option ConnId)
    (connection : Option SessId) : Nat → Nat → Code Unit
  | 0, _ => pure () -- never reached: `seckillGoods_eq`
  | fuel + 1, repeatCount =>
    attempt this usrName usrKey redisconn connection
      (if repeatCount + 1 < RETRYCOUNT then
        seckillGoodsFrom this usrName usrKey redisconn connection fuel (repeatCount + 1)
      else setResult this zero)

def seckillGoods (this : WorkerId) (usrName usrKey : Str) (redisconn : Option ConnId)
    (connection : Option SessId) (repeatCount : Nat) : Code Unit :=
  match redisconn with
  | none => seckillGoodsMysql this usrName usrKey connection
  | some _ =>
    seckillGoodsFrom this usrName usrKey redisconn connection (RETRYCOUNT - repeatCount + 1)
      repeatCount

/-- The fuel is enough: `seckillGoods` calls itself exactly as the source does. -/
theorem seckillGoods_eq (this : WorkerId) (usrName usrKey : Str) (c : ConnId)
    (connection : Option SessId) (repeatCount : Nat) :
    seckillGoods this usrName usrKey (some c) connection repeatCount =
      attempt this usrName usrKey (some c) connection
        (if repeatCount + 1 < RETRYCOUNT then
          seckillGoods this usrName usrKey (some c) connection (repeatCount + 1)
        else setResult this zero) := by
  simp only [seckillGoods, seckillGoodsFrom]
  by_cases more : repeatCount + 1 < RETRYCOUNT
  · have fuel : RETRYCOUNT - repeatCount = RETRYCOUNT - (repeatCount + 1) + 1 := by omega
    rw [if_pos more, if_pos more, fuel]
    rfl
  · rw [if_neg more, if_neg more]

/-! ## `Proceed` -/

/-- `new Worker(...)`: the constructor's `Proceed` finds `status_ == CREATE`. -/
def newWorker : Code Unit := do
  let this ← grpc .alloc
  grpc (.setStatus this .process)
  grpc (.requestseckill this)

/-- The two checks and the order, in the `PROCESS` branch. -/
def serveRequest (this : WorkerId) (usrName usrKey : Str) (redisconn : Option ConnId)
    (mysqlconnection : Option SessId) : Code Unit := do
  if ← checkUserInfo usrName usrKey redisconn mysqlconnection then
    if ← checkUserHasGot usrName redisconn mysqlconnection then
      setResult this zero
    else
      seckillGoods this usrName usrKey redisconn mysqlconnection 0
  else
    setResult this zero

/-- The `PROCESS` branch from `new Worker` on. -/
def process (this : WorkerId) (redisconn : Option ConnId) (mysqlconnection : Option SessId) :
    Code Unit := do
  newWorker
  let usrName ← grpc (.usrname this)
  let usrKey ← grpc (.usrkey this)
  serveRequest this usrName usrKey redisconn mysqlconnection
  redisClose redisconn
  mysqlClose mysqlconnection
  grpc (.finish this (← grpc (.result this)))

/-- The branches of `Proceed`. -/
def proceedAs (this : WorkerId) : WorkerStatus → Code Unit
  | .create => do
    grpc (.setStatus this .process)
    grpc (.requestseckill this)
  | .process => do
    let redisconn ← redisGetOneConnect
    let mysqlconnection ← mysqlGetOneConnect
    grpc (.setStatus this .finish)
    -- the context is used before anything asks whether it is `NULL`
    let _ ← redisCommand redisconn (.lpush one)
    process this redisconn mysqlconnection
  | .finish => do
    let redisconn ← redisGetOneConnect
    let _ ← redisCommand redisconn .lpop
    redisClose redisconn
    grpc (.delete this)

def proceed (this : WorkerId) : Code Unit := do
  proceedAs this (← grpc (.status this))

/-! ## The dispatch loop -/

/-- The admission gate of `HandleRPCS`: whether the thread goes on to `cq_->Next`. -/
def admission : Code Bool := do
  if (← counter .successNum) < 50 then
    let redisconn ← redisGetOneConnect
    let reply ← redisCommand redisconn .llen
    -- `sucNum_` is read once more, and a reply of another kind lets the thread through
    let closed ← match reply with
      | some (.integer workingNum) => do pure (decide (workingNum ≥ 50 - (← counter .successNum)))
      | _ => pure false
    redisClose redisconn
    return !closed
  else
    return true

/-- One turn of the loop of `HandleRPCS`. -/
def handleRPCS : Code Unit := do
  if ← admission then
    let tag ← grpc .next
    proceed tag

/-- A request processed the way the `redisconn == NULL` tests foresee it: the `PROCESS` branch
    with a `NULL` context, which a null-safe `LPUSH` would allow. -/
def fallback : Code Unit := do
  let tag ← grpc .next
  match ← grpc (.status tag) with
  | .process =>
    let mysqlconnection ← mysqlGetOneConnect
    grpc (.setStatus tag .finish)
    process tag none mysqlconnection
  | status => proceedAs tag status

inductive Entry where
  | handleRPCS
  | fallback
  deriving DecidableEq

def Entry.body : Entry → Code Unit
  | .handleRPCS => Seckill.handleRPCS
  | .fallback => Seckill.fallback

/-- The server: its handler threads, its stores and everything they share. -/
abbrev server : Threads.Machine Call Call.Reply where
  State := Server
  Fate := Fate
  Entry := Entry
  exec := Server.exec
  body := Entry.body

/-! ## The state `Run` starts from -/

/-- What the two stores hold when the server starts to serve, and the limits of the pools. -/
structure Stores where
  totalCount : Str
  redisUsers : Hash
  redisOrders : Hash
  workList : List Str
  weight : Char → Nat
  usrInfo : List (Str × Str)
  gTotalcount : Option Nat
  orderInfo : List OrderRow
  redisMax : UInt32
  mysqlMax : UInt32

/-- After `prepareForSeckill` each pool holds the connection it used, and `Run` has created
    the first `Worker`. -/
def boot (st : Stores) : Server where
  redis :=
    { data := ⟨st.totalCount, st.redisUsers, st.redisOrders, st.workList⟩
      conn := fun _ => {}
      redispool := [0]
      connectCount := 0
      maxConnect := st.redisMax
      fresh := 1 }
  mysql :=
    { weight := st.weight
      usrInfo := st.usrInfo
      gTotalcount := st.gTotalcount
      orderInfo := st.orderInfo
      lock := none
      inserts := []
      session := fun _ => {}
      mysqlpool := [0]
      connectCount := 1
      maxConnect := st.mysqlMax
      fresh := 1 }
  counters := {}
  grpc :=
    { worker := Function.update (fun _ => none) 0 (some { status := .process })
      fresh := 1
      registered := [0]
      finishing := [] }

end Seckill

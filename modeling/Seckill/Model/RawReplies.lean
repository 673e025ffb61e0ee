import Seckill.Model.Worker

/-! # Replies as hiredis gives them

A `redisReply` is one struct for all types, and which of its fields mean anything depends on the
type.  Here the functions of `Worker.cc` and the gate of `HandleRPCS` test and read its fields one
by one; reading a field that the reply does not have stops the program.
-/

namespace Seckill

open CStr CallTree

inductive ReplyType where
  | nil | status | error | string | integer | array
  deriving DecidableEq

/-- A `redisReply`, with the fields that its type has: `str` is `NULL` without one. -/
structure RawReply where
  type : ReplyType
  str : Option Str := none
  integer : Option Int := none
  elements : Option Nat := none

def RedisReply.raw : RedisReply → RawReply
  | .nil => { type := .nil }
  | .status s => { type := .status, str := some s }
  | .error s => { type := .error, str := some s }
  | .string s => { type := .string, str := some s }
  | .integer n => { type := .integer, integer := some n }
  | .array elements => { type := .array, elements := some elements }

namespace Raw

/-- A field that is used. -/
def field {α : Type} : Option α → Code α
  | some value => pure value
  | none => crash .nullStr

def command (redisconn : Option ConnId) (cmd : RedisCmd) : Code (Option RawReply) := do
  let reply ← redisCommand redisconn cmd
  return reply.map RedisReply.raw

/-- `reply != NULL && reply->type == REDIS_REPLY_STATUS && strcasecmp(reply->str,"OK") == 0` -/
def isOK : Option RawReply → Code Bool
  | none => return false
  | some reply => do
    if reply.type = .status then
      return strcaseEq (← field reply.str) okText
    else
      return false

/-! ## The checks -/

def checkUserInfo (usrName usrKey : Str) (redisconn : Option ConnId) (mysqlcon : Option SessId) :
    Code Bool :=
  match redisconn with
  | none => checkUserInfoMysql usrName usrKey mysqlcon
  | some _ => do
    match ← command redisconn (.hget .usrInfo (cStr usrName)) with
    | none => return false
    | some confirmReply =>
      if confirmReply.type = .string then
        let key ← field confirmReply.str
        return usrKey == cStr key
      else
        return false

/-- Of `str` only whether it is `NULL` is used. -/
def checkUserHasGot (usrName : Str) (redisconn : Option ConnId) (mysqlcon : Option SessId) :
    Code Bool :=
  match redisconn with
  | none => checkUserHasGotMysql usrName mysqlcon
  | some _ => do
    match ← command redisconn (.hget .orderInfo (cStr usrName)) with
    | none => return false
    | some orderReply => return decide (orderReply.type = .string) && orderReply.str.isSome

/-! ## `seckillGoods` -/

/-- The reply to `WATCH` is tested, and the reply to `GET` is read. -/
def watchCount (redisconn : Option ConnId) : Code (Option Int) := do
  let watchReply ← command redisconn .watch
  let reply ← command redisconn .get
  match reply with
  | none => return none
  | some reply =>
    if ← isOK watchReply then
      return some (atoi (← field reply.str))
    else
      return none

def reserve (usrName usrKey : Str) (redisconn : Option ConnId) : Code Bool := do
  let multiReply ← command redisconn .multi
  if ← isOK multiReply then
    let _ ← command redisconn .decr
    let _ ← command redisconn (.hmset .orderInfo (cStr usrName) (cStr usrKey))
    match ← command redisconn .exec with
    | none => return false
    | some execReply =>
      -- an array of one element counts as refused too
      if execReply.type = .array then
        return decide (1 < (← field execReply.elements))
      else
        return false
  else
    return false

def refill (redisconn : Option ConnId) : Code Unit := do
  let _ ← command redisconn .unwatch
  counter .wrlock
  if (← counter .failedCount) > 0 then
    let failedC := decimal (← counter .failedCount)
    let setCreply ← command redisconn (.set failedC)
    if ← isOK setCreply then
      counter (.setFailedCount 0)
  counter .unlock

def attempt (this : WorkerId) (usrName usrKey : Str) (redisconn : Option ConnId)
    (connection : Option SessId) (retry : Code Unit) : Code Unit := do
  match ← watchCount redisconn with
  | none => setResult this zero
  | some currGoodsCount =>
    if currGoodsCount > 0 then
      if ← reserve usrName usrKey redisconn then
        seckillGoodsMysql this usrName usrKey connection
      else
        let _ ← command redisconn .unwatch
        retry
    else
      refill redisconn
      setResult this zero

def seckillGoodsFrom (this : WorkerId) (usrName usrKey : Str) (redisconn : Option ConnId)
    (connection : Option SessId) : Nat → Nat → Code Unit
  | 0, _ => pure ()
  | fuel + 1, repeatCount =>
    attempt this usrName usrKey redisconn connection
      (if repeatCount + 1 < RETRYCOUNT then
        seckillGoodsFrom this usrName usrKey redisconn connection fuel (repeatCount + 1)
      else setResult this zero)

def seckillGoods (this : WorkerId) (usrName usrKey : Str) (redisconn : Option ConnId)
    (connection : Option SessId) (repeatCount : Nat) : Code Unit :=
  match redisconn with
  | none => seckillGoodsMysql this usrName usrKey connection
  | some _ =>
    seckillGoodsFrom this usrName usrKey redisconn connection (RETRYCOUNT - repeatCount + 1)
      repeatCount

/-! ## `Proceed` -/

def serveRequest (this : WorkerId) (usrName usrKey : Str) (redisconn : Option ConnId)
    (mysqlconnection : Option SessId) : Code Unit := do
  if ← checkUserInfo usrName usrKey redisconn mysqlconnection then
    if ← checkUserHasGot usrName redisconn mysqlconnection then
      setResult this zero
    else
      seckillGoods this usrName usrKey redisconn mysqlconnection 0
  else
    setResult this zero

def process (this : WorkerId) (redisconn : Option ConnId) (mysqlconnection : Option SessId) :
    Code Unit := do
  newWorker
  let usrName ← grpc (.usrname this)
  let usrKey ← grpc (.usrkey this)
  serveRequest this usrName usrKey redisconn mysqlconnection
  redisClose redisconn
  mysqlClose mysqlconnection
  grpc (.finish this (← grpc (.result this)))

def proceedAs (this : WorkerId) : WorkerStatus → Code Unit
  | .create => do
    grpc (.setStatus this .process)
    grpc (.requestseckill this)
  | .process => do
    let redisconn ← redisGetOneConnect
    let mysqlconnection ← mysqlGetOneConnect
    grpc (.setStatus this .finish)
    let _ ← command redisconn (.lpush one)
    process this redisconn mysqlconnection
  | .finish => do
    let redisconn ← redisGetOneConnect
    let _ ← command redisconn .lpop
    redisClose redisconn
    grpc (.delete this)

def proceed (this : WorkerId) : Code Unit := do
  proceedAs this (← grpc (.status this))

/-! ## The gate -/

/-- `workingNum` is an `int`. -/
def admission : Code Bool := do
  if (← counter .successNum) < 50 then
    let redisconn ← redisGetOneConnect
    let closed ← match ← command redisconn .llen with
      | none => pure false
      | some reply => do
        if reply.type = .integer then
          let workingNum := toInt32 (← field reply.integer)
          pure (decide (workingNum ≥ 50 - (← counter .successNum)))
        else
          pure false
    redisClose redisconn
    return !closed
  else
    return true

def handleRPCS : Code Unit := do
  if ← admission then
    let tag ← grpc .next
    proceed tag

end Raw

end Seckill

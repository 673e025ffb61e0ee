import Seckill.Lib.SqlText
import Seckill.Model.Worker

/-! # `prepareForSeckill`

What `main` does before `ServerImpl::Run`, call by call, on any stores: the tables may be
absent or hold any rows, and a key of Redis may hold anything.  Each call works or fails as
the environment says; a statement that is no SQL fails in any case.  `GenerateMD5` is a
parameter, `ToString` is not.
-/

namespace Seckill

open CStr CallTree SqlText

/-! ## The stores -/

structure GoodsRow where
  gName : Str
  gId : Str
  gTotalcount : UInt32
  deriving DecidableEq

/-- An order in which `SELECT *` returns the rows of a table. -/
structure Scan where
  order : List GoodsRow → List GoodsRow
  perm : ∀ rows, (order rows).Perm rows

/-- The tables of the database, as far as they exist; `elsewhere` says that another database of
    the server has a table `usr_info`. -/
structure Database where
  weight : Char → Nat
  scan : Scan
  usrInfo : Option (List (Str × Str))
  goodsInfo : Option (List GoodsRow)
  orderInfo : Option (List OrderRow)
  elsewhere : Bool

inductive RedisValue where
  | string (s : Str)
  | hash (h : Hash)
  | list (l : List Str)
  | other

def totalCountKey : Str := "total_count".toList
def usrInfoKey : Str := "usr_info".toList
def orderInfoKey : Str := "order_info".toList
def workListKey : Str := "work_list".toList

/-- The stores, the rows of the last `SELECT`, and the connections in the two pools. -/
structure Setup where
  db : Database
  redis : Str → Option RedisValue
  result : List (List Str) := []
  mysqlpool : List SessId := []
  redispool : List ConnId := []

/-! ## Statements -/

inductive SetupStmt where
  /-- `CREATE TABLE IF NOT EXISTS goods_info(g_name ..., g_id ..., g_totalcount INT UNSIGNED
      NOT NULL,PRIMARY KEY (g_id))` -/
  | createGoods
  /-- `INSERT INTO goods_info(g_name, g_id, g_totalcount) VALUES('BMW', '10', 50)
      ON DUPLICATE KEY UPDATE g_id = '10', g_totalcount = 50` -/
  | insertGoods
  /-- `DROP TABLE IF EXISTS order_info` -/
  | dropOrders
  /-- `SELECT table_name FROM information_schema.TABLES WHERE table_name ='usr_info'` -/
  | selectTable
  /-- `CREATE TABLE usr_info(usr_name ..., usr_key ...,PRIMARY KEY (usr_name))` -/
  | createUsers
  /-- The text in `insertSql`. -/
  | insertUsers (text : Str)
  /-- `SELECT * FROM usr_info` -/
  | selectUsers
  /-- `SELECT * FROM goods_info` -/
  | selectGoods
  /-- `CREATE TABLE IF NOT EXISTS order_info(...)` -/
  | createOrders

def insertHeader : Str := "INSERT INTO usr_info(usr_name,usr_key) VALUES ".toList

/-- The rows after `VALUES`, each in parentheses, with commas between them. -/
def valueRows : List Token → Option (List (Str × Str))
  | [.char '(', .literal name, .char ',', .literal key, .char ')'] => some [(name, key)]
  | .char '(' :: .literal name :: .char ',' :: .literal key :: .char ')' :: .char ',' :: tokens =>
    (valueRows tokens).map ((name, key) :: ·)
  | _ => none

/-- The rows of an `INSERT INTO usr_info`, if the text is one. -/
def insertedUsers (text : Str) : Option (List (Str × Str)) :=
  (lex text).bind fun tokens =>
    if insertHeader.map .char <+: tokens then valueRows (tokens.drop insertHeader.length) else none

namespace Database

def sameText (db : Database) (a b : Str) : Bool := collate db.weight a == collate db.weight b

def ten : Str := ['1', '0']

/-- The row of goods `'10'` is new, or the row that has its key is updated. -/
def upsert (db : Database) (rows : List GoodsRow) : List GoodsRow :=
  if rows.any fun row => db.sameText row.gId ten then
    rows.map fun row =>
      if db.sameText row.gId ten then { row with gId := ten, gTotalcount := 50 } else row
  else rows ++ [⟨"BMW".toList, ten, 50⟩]

/-- Two of the rows have the same name. -/
def clash (db : Database) : List (Str × Str) → Bool
  | [] => false
  | row :: rows => (rows.any fun other => db.sameText row.1 other.1) || db.clash rows

/-- Execute a statement; the flag is the error answer. -/
def run (db : Database) : SetupStmt → Bool × Database × List (List Str)
  | .createGoods => (false, { db with goodsInfo := some (db.goodsInfo.getD []) }, [])
  | .insertGoods =>
    match db.goodsInfo with
    | some rows => (false, { db with goodsInfo := some (db.upsert rows) }, [])
    | none => (true, db, [])
  | .dropOrders => (false, { db with orderInfo := none }, [])
  | .selectTable => (false, db, if db.usrInfo.isSome || db.elsewhere then [[usrInfoKey]] else [])
  | .createUsers =>
    if db.usrInfo.isSome then (true, db, []) else (false, { db with usrInfo := some [] }, [])
  | .insertUsers text =>
    match insertedUsers text, db.usrInfo with
    | some new, some rows =>
      if db.clash (rows ++ new) then (true, db, [])
      else (false, { db with usrInfo := some (rows ++ new) }, [])
    | _, _ => (true, db, [])
  | .selectUsers =>
    match db.usrInfo with
    | some rows => (false, db, rows.map fun row => [row.1, row.2])
    | none => (true, db, [])
  | .selectGoods =>
    match db.goodsInfo with
    | some rows =>
      (false, db, (db.scan.order rows).map fun row =>
        [row.gName, row.gId, decimal row.gTotalcount.toNat])
    | none => (true, db, [])
  | .createOrders => (false, { db with orderInfo := some (db.orderInfo.getD []) }, [])

end Database

/-! ## Redis commands -/

inductive SetupCmd where
  | hmset (key field value : Str)
  | set (key value : Str)
  | get (key : Str)
  | del (key : Str)

def Setup.setKey (s : Setup) (key : Str) (value : Option RedisValue) : Setup :=
  { s with redis := Function.update s.redis key value }

/-- A key of another type is answered with an error. -/
def Setup.runCmd (s : Setup) : SetupCmd → RedisReply × Setup
  | .hmset key field value =>
    match s.redis key with
    | none => (.status okText, s.setKey key (some (.hash ((∅ : Hash).insert field value))))
    | some (.hash h) => (.status okText, s.setKey key (some (.hash (h.insert field value))))
    | some _ => (.error [], s)
  | .set key value => (.status okText, s.setKey key (some (.string value)))
  | .get key =>
    match s.redis key with
    | some (.string value) => (.string value, s)
    | none => (.nil, s)
    | some _ => (.error [], s)
  | .del key =>
    (.integer (if (s.redis key).isSome then 1 else 0), s.setKey key none)

/-! ## Calls -/

inductive SetupCall where
  | mysqlGetOneConnect
  | redisGetOneConnect
  | query (m : SessId) (stmt : SetupStmt)
  | fetchRows (m : SessId)
  | command (c : ConnId) (cmd : SetupCmd)
  | redisFree (c : ConnId)
  | mysqlClose (m : SessId)
  | redisClose (c : ConnId)
  | exit
  | crash (why : Crash)

@[reducible] def SetupCall.Reply : SetupCall → Type
  | .mysqlGetOneConnect => Option SessId
  | .redisGetOneConnect => Option ConnId
  | .query _ _ => Bool
  | .fetchRows _ => List (List Str)
  | .command _ _ => Option RedisReply
  | .redisFree _ | .mysqlClose _ | .redisClose _ => Unit
  | .exit | .crash _ => Empty

/-- Each call as `works` says; `exit` and a crash do not return. -/
def Setup.exec (works : SetupCall → Bool) (c : SetupCall) (s : Setup) : Option (c.Reply × Setup) :=
  match c, works c with
  | .mysqlGetOneConnect, ok => some (if ok then some 0 else none, s)
  | .redisGetOneConnect, ok => some (if ok then some 0 else none, s)
  | .query _ stmt, true =>
    some ((s.db.run stmt).1, { s with db := (s.db.run stmt).2.1, result := (s.db.run stmt).2.2 })
  | .query _ _, false => some (true, s)
  | .fetchRows _, ok => some (if ok then s.result else [], { s with result := [] })
  | .command _ cmd, true => some (some (s.runCmd cmd).1, (s.runCmd cmd).2)
  | .command _ _, false => some (none, s)
  | .redisFree _, _ => some ((), s)
  | .mysqlClose m, _ => some ((), { s with mysqlpool := s.mysqlpool ++ [m] })
  | .redisClose c, _ => some ((), { s with redispool := s.redispool ++ [c] })
  | .exit, _ => none
  | .crash _, _ => none

abbrev SetupCode (α : Type) := Prog SetupCall SetupCall.Reply α

namespace Prepare

def setup (c : SetupCall) : SetupCode c.Reply := .perform c

/-- `mysql_query`, which dereferences its handle. -/
def query (connection : Option SessId) (stmt : SetupStmt) : SetupCode Bool :=
  match connection with
  | some m => setup (.query m stmt)
  | none => .call (.crash .nullHandle) nofun

def fetchRows (connection : Option SessId) : SetupCode (List (List Str)) :=
  match connection with
  | some m => setup (.fetchRows m)
  | none => .call (.crash .nullHandle) nofun

/-- `redisCommand`, which dereferences its context. -/
def command (redisconn : Option ConnId) (cmd : SetupCmd) : SetupCode (Option RedisReply) :=
  match redisconn with
  | some c => setup (.command c cmd)
  | none => .call (.crash .nullContext) nofun

def redisFree (redisconn : Option ConnId) : SetupCode Unit :=
  match redisconn with
  | some c => setup (.redisFree c)
  | none => pure ()

/-- `close` of both pools, which do nothing with `NULL`. -/
def closeBoth (connection : Option SessId) (redisconn : Option ConnId) : SetupCode Unit := do
  match connection with
  | some m => setup (.mysqlClose m)
  | none => pure ()
  match redisconn with
  | some c => setup (.redisClose c)
  | none => pure ()

def exit {α : Type} : SetupCode α := .call .exit nofun

/-! ## The test data -/

def salt : Str := "salt".toList

/-- `sprintf("%02x", byte)` -/
def hex (byte : UInt8) : Str :=
  [Nat.digitChar (byte.toNat / 16), Nat.digitChar (byte.toNat % 16)]

/-- `MD5::ToString` of the sixteen bytes in `m_data`. -/
def toString (mData : Fin 16 → UInt8) : Str := (List.ofFn mData).flatMap hex

/-- The key of user `i`. -/
def md5Str (generateMD5 : Str → Fin 16 → UInt8) (i : Nat) : Str :=
  toString (generateMD5 (decimal i ++ decimal i ++ salt))

/-- What the loop appends to `insertSql` for user `i`. -/
def insertPart (generateMD5 : Str → Fin 16 → UInt8) (i : Nat) : Str :=
  -- the comma after the row is left out at 300, where the loop once ended
  if i = 300 then
    "('".toList ++ decimal i ++ "','".toList ++ md5Str generateMD5 i ++ "')".toList
  else
    "('".toList ++ decimal i ++ "','".toList ++ md5Str generateMD5 i ++ "'),".toList

/-- The loop `for (int i = 1; i <=400; i ++)`. -/
def insertSql (generateMD5 : Str → Fin 16 → UInt8) : Str :=
  (List.range' 1 400).foldl (fun insertSql i => insertSql ++ insertPart generateMD5 i) insertHeader

/-! ## The function -/

/-- The users where the table is new. -/
def seedUsers (generateMD5 : Str → Fin 16 → UInt8) (connection : Option SessId) :
    SetupCode Unit := do
  let _ ← query connection .createUsers
  let _ ← query connection (.insertUsers (insertSql generateMD5))

/-- The `HMSET` loop; whether it came to its end. -/
def loadUsers (redisconn : Option ConnId) : List (List Str) → SetupCode Bool
  | [] => pure true
  | (name :: key :: _) :: rows => do
    let reply ← command redisconn (.hmset usrInfoKey (cStr name) (cStr key))
    if isOK reply then loadUsers redisconn rows
    else
      -- the function returns, with neither connection given back
      redisFree redisconn
      return false
  | _ :: rows => loadUsers redisconn rows

/-- What the loop over `goods_info` leaves in `total_count`. -/
def countGoods (rows : List (List Str)) : Int :=
  rows.foldl (fun totalCount row => match row with
    | _ :: _ :: count :: _ => atoi count
    | _ => totalCount) 0

/-- From `CREATE TABLE` of the orders on. -/
def publish (connection : Option SessId) (redisconn : Option ConnId) (totalCount : Int) :
    SetupCode Unit := do
  let _ ← query connection .createOrders
  let reply ← command redisconn (.set totalCountKey (decimal totalCount))
  if isOK reply then
    let _ ← command redisconn (.get totalCountKey)
    let _ ← command redisconn (.del orderInfoKey)
    closeBoth connection redisconn
  else
    closeBoth connection redisconn

def prepareForSeckill (generateMD5 : Str → Fin 16 → UInt8) : SetupCode Unit := do
  let connection ← setup .mysqlGetOneConnect
  let redisconn ← setup .redisGetOneConnect
  -- the first three may fail unnoticed
  let _ ← query connection .createGoods
  let _ ← query connection .insertGoods
  let _ ← query connection .dropOrders
  if ← query connection .selectTable then exit
  else
    let result ← fetchRows connection
    if result.isEmpty then seedUsers generateMD5 connection
    if ← query connection .selectUsers then exit
    else
      let searchResult ← fetchRows connection
      if ← loadUsers redisconn searchResult then
        if ← query connection .selectGoods then exit
        else
          -- every row of `goods_info` is read, and the last one counts
          let result ← fetchRows connection
          publish connection redisconn (countGoods result)

end Prepare

/-! ## What `Run` starts with -/

/-- The fields of a key that is a hash. -/
def fields : Option RedisValue → Hash
  | some (.hash h) => h
  | _ => ∅

/-- The elements of a key that is a list. -/
def elements : Option RedisValue → List Str
  | some (.list l) => l
  | _ => []

/-- The stores as the server finds them.  A `work_list` or `usr_info` of another type is read as
    empty: `LLEN` and `HGET` answer it with an error, which has no count and is no string. -/
def Setup.stores (s : Setup) (redisMax mysqlMax : UInt32) : Stores where
  totalCount := match s.redis totalCountKey with
    | some (.string count) => count
    | _ => []
  redisUsers := fields (s.redis usrInfoKey)
  redisOrders := fields (s.redis orderInfoKey)
  workList := elements (s.redis workListKey)
  weight := s.db.weight
  usrInfo := s.db.usrInfo.getD []
  gTotalcount := ((s.db.goodsInfo.getD []).find? fun row => s.db.sameText row.gId Database.ten).map
    fun row => row.gTotalcount.toNat
  orderInfo := s.db.orderInfo.getD []
  redisMax := redisMax
  mysqlMax := mysqlMax

end Seckill

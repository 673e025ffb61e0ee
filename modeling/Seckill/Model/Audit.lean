import Mathlib.Data.List.Sort
import Mathlib.Data.Char
import Mathlib.Data.List.Lex
import Seckill.Lib.CallTree
import Seckill.Lib.OrdMap
import Seckill.Model.Mysql

/-! # The audit of the test client

`checkSeckillInfo` of `seckill_client.cc`, and `MysqlPool::executeSql`, which only the client
calls.  The texts that `executeSql` returns point into a result set that it has released by then;
what is read of them is up to the heap, and `checkSeckillInfoIn` takes it as a parameter.
`checkSeckillInfo` assumes that they are still there.  Left out are the lines that print and
`delete mysql`, which is the last step: a second call in the same process would work on the pool
that is gone, and what is said here is said of the first.
-/

namespace Seckill

open CStr CallTree OrdMap

/-! ## Calls -/

/-- An entry of a `MYSQL_ROW`: a text, or `NULL`. -/
abbrev Cell := Option Str

/-- What `mysql_store_result` gives: the names of the fields, and rows with a value for each. -/
structure ResultSet where
  fields : List Str
  rows : List (Vector Cell fields.length)

inductive AuditCall where
  | getOneConnect
  | close (m : SessId)
  | query (m : SessId) (sql : Str)
  | useResult (m : SessId)
  | storeResult (m : SessId)
  /-- a `NULL` text is read, a `NULL` connection is used, or an index is past the end -/
  | undefined

@[reducible] def AuditCall.Reply : AuditCall → Type
  | .getOneConnect => Option SessId
  | .close _ => Unit
  | .query _ _ => Bool
  | .useResult _ => List (List Cell)
  | .storeResult _ => Option ResultSet
  | .undefined => Empty

abbrev AuditCode (α : Type) := Prog AuditCall AuditCall.Reply α

def audit (c : AuditCall) : AuditCode c.Reply := .perform c

def undefined {α : Type} : AuditCode α := .call .undefined nofun

/-- What is read of a text after its result set was released; with `none` reading it is undefined. -/
abbrev Heap := Str → Option Str

/-- `std::atoi` -/
def atoiCell : Cell → AuditCode Int
  | some text => pure (atoi text)
  | none => undefined

/-! ## `executeSql` -/

/-- The `mysql_fetch_field` loop: an empty vector for each field. -/
def columns (fields : List Str) : Map Str (List Cell) :=
  fields.foldl (fun results name => results.insert name []) Map.empty

/-- The loop over the map for one row, with its counter `i`.  The map has no more entries than
    the row has values. -/
def pushRow {n : Nat} (results : Map Str (List Cell)) (row : Vector Cell n) :
    Map Str (List Cell) :=
  results.visit fun i column => column ++ row[i]?.toList

/-- The `mysql_fetch_row` loop. -/
def collect (res : ResultSet) : Map Str (List Cell) := res.rows.foldl pushRow (columns res.fields)

/-- The texts are given as they were when the rows were read; `mysql_free_result` has released them
    when the caller gets them. -/
def executeSql (sql : Str) : AuditCode (Map Str (List Cell)) := do
  match ← audit .getOneConnect with
  | some conn =>
    let results ← do
      if ← audit (.query conn sql) then
        pure Map.empty
      else
        match ← audit (.storeResult conn) with
        | some res => pure (collect res)
        | none => pure Map.empty
    audit (.close conn)
    return results
  | none => return Map.empty

/-! ## `checkSeckillInfo` -/

/-- `nums.size() - 1`, which is unsigned. -/
def lastIndex (size : Nat) : Nat := if size = 0 then 18446744073709551615 else size - 1

/-- The loop of `containsDuplicate` from `i` on, with fuel; `none` where it reads past the end. -/
def duplicateFrom (nums : List Int) : Nat → Nat → Option Bool
  | 0, _ => none
  | fuel + 1, i =>
    if i < lastIndex nums.length then
      match nums[i]?, nums[i + 1]? with
      | some a, some b => if a = b then some true else duplicateFrom nums fuel (i + 1)
      | _, _ => none
    else some false

def containsDuplicate (nums : List Int) : Option Bool :=
  duplicateFrom (nums.insertionSort (· ≤ ·)) (nums.length + 1) 0

/-- What the `mysql_fetch_row` loop leaves in `total_count`. -/
def fetchCount : List (List Cell) → Int → AuditCode Int
  | [], totalCount => pure totalCount
  | [] :: rows, totalCount => fetchCount rows totalCount
  | (cell :: _) :: rows, _ => do fetchCount rows (← atoiCell cell)

/-- The loop that fills `namesI`. -/
def readNames : List Cell → AuditCode (List Int)
  | [] => pure []
  | name :: names => do
    let first ← atoiCell name
    let rest ← readNames names
    return first :: rest

def goodsSql : Str := "SELECT g_totalcount FROM goods_info WHERE g_id ='10' ".toList

def ordersSql : Str := "SELECT usr_name FROM order_info".toList

def usrNameField : Str := "usr_name".toList

/-- The checks on the orders; `isnormol` is what the checks before have left of it.  No vector is so
    long that a negative `success_count` could be its size. -/
def checkOrders (successCount : Int32) (isnormol : Bool) (names : List Cell) : AuditCode Bool :=
  if names.length > 0 then do
    let namesI ← readNames names
    -- only where there are orders is their number compared
    let isnormol := isnormol && names.length == successCount.toInt
    match containsDuplicate namesI with
    | some duplicate => return isnormol && !duplicate
    | none => undefined
  else return isnormol

def checkSeckillInfoIn (heap : Heap) (successCount : Int32) : AuditCode Bool := do
  match ← audit .getOneConnect with
  | none => undefined
  | some connection =>
    let isnormol := !decide (successCount.toInt > 50)
    let totalCount ← do
      if ← audit (.query connection goodsSql) then
        -- an error leaves 0, as if all were sold
        pure 0
      else
        fetchCount (← audit (.useResult connection)) 0
    let isnormol := isnormol && toInt32 (50 - totalCount) == successCount.toInt
    let resulMap ← executeSql ordersSql
    match resulMap.find usrNameField with
    | some names => checkOrders successCount isnormol (names.map fun name => name.bind heap)
    | none => return isnormol

/-- Where the released texts are still there. -/
def checkSeckillInfo (successCount : Int32) : AuditCode Bool := checkSeckillInfoIn some successCount

end Seckill

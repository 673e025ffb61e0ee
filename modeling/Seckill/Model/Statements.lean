import Seckill.Lib.SqlText
import Seckill.Model.Worker

/-! # The texts of the statements

The statements as `Worker.cc` formats them, with `sprintf` into a buffer of 200 bytes, and
what MySQL makes of a text: it acts on the tokens.  Tokens that are none of the formats with
their values filled in are answered by a parameter, as any other statement may be.
-/

namespace Seckill

open CStr CallTree SqlText

/-! ## Formatting -/

/-- The bytes of a string. -/
def bytes (s : Str) : Nat := (s.map Char.utf8Size).sum

/-- What `%s` puts into a text. -/
def spliced : Str → List Str → Str
  | '%' :: 's' :: format, value :: values => cStr value ++ spliced format values
  | c :: format, values => c :: spliced format values
  | [], _ => []

/-- The size of `selSql`, `updateSql` and `insertOSql`. -/
def bufferSize : Nat := 200

/-- `sprintf` into such a buffer; what it does past the end is not defined. -/
def sprintf (format : Str) (values : List Str) : Option Str :=
  if bytes (spliced format values) < bufferSize then some (spliced format values) else none

def selUsrKeyFormat : Str := "SELECT usr_key FROM usr_info WHERE usr_name ='%s'".toList

def selOrderFormat : Str := "SELECT * FROM order_info WHERE usr_name ='%s' FOR UPDATE".toList

def insertOrderFormat : Str :=
  "INSERT INTO order_info(usr_name,usr_key,goods_id) VALUES ('%s','%s','10')".toList

/-- `updateSql` -/
def updateGoodsText (totalCount : Int) : Str :=
  "UPDATE goods_info SET g_totalcount = ".toList ++ decimal totalCount ++
    " WHERE g_id = '10' ".toList

/-- What `sprintf` writes for a statement; the `SELECT` of the goods is a `std::string`. -/
def Stmt.formatted : Stmt → Option Str
  | .selectUsrKey name => some (spliced selUsrKeyFormat [name])
  | .selectOrder name => some (spliced selOrderFormat [name])
  | .updateGoods totalCount => some (updateGoodsText totalCount)
  | .insertOrder name key => some (spliced insertOrderFormat [name, key])
  | .selectGoods => none

/-- The text and its terminating NUL fit the buffer. -/
def Stmt.Fits (stmt : Stmt) : Prop :=
  ∀ text, stmt.formatted = some text → bytes text + 1 ≤ bufferSize

/-! ## Limits -/

def MAX_RECEIVE_SIZE : Nat := 5000

/-- A string of a message: its tag, its length in groups of seven bits, and its bytes; an empty
    one is left out. -/
def fieldSize (s : Str) : Nat :=
  if s = [] then 0 else 1 + (Nat.log2 (bytes s) / 7 + 1) + bytes s

/-- The size of a `SeckillRequest`. -/
def requestSize (usrName usrKey : Str) : Nat := fieldSize usrName + fieldSize usrKey

/-- What the columns of `usr_info` admit, both `VARCHAR(100)`. -/
def Admits (usrInfo : List (Str × Str)) : Prop :=
  ∀ u ∈ usrInfo, u.1.length ≤ 100 ∧ u.2.length ≤ 100

/-! ## Reading -/

/-- The literals `'%s'` with values in their place. -/
def filled : List Token → List Str → List Token
  | .literal ['%', 's'] :: tokens, value :: values => .literal value :: filled tokens values
  | token :: tokens, values => token :: filled tokens values
  | [], _ => []

/-- The tokens of a format, each `'%s'` a literal of its value. -/
def meant (format : Str) (values : List Str) : Option (List Token) :=
  (lex format).map fun tokens => filled tokens values

/-- The literals of a text. -/
def literals (tokens : List Token) : List Str :=
  tokens.filterMap fun token => match token with
    | .char _ => none
    | .literal text => some text

/-- The statement that tokens are. -/
def readStmt (tokens : List Token) : Option Stmt :=
  match literals tokens with
  | [name] =>
    if meant selUsrKeyFormat [name] = some tokens then some (.selectUsrKey name)
    else if meant selOrderFormat [name] = some tokens then some (.selectOrder name)
    else none
  | [name, key, _] =>
    if meant insertOrderFormat [name, key] = some tokens then some (.insertOrder name key)
    else none
  | _ => none

/-- What MySQL may do with any tokens on a session. -/
abbrev Dialect := List Token → SessId → MysqlState → Bool × MysqlState

/-- `mysql_query` of a text. -/
def MysqlState.queryText (other : Dialect) (s : MysqlState) (m : SessId) (text : Str) :
    Option (Bool × MysqlState) :=
  match lex text with
  | none => some (true, s)
  | some tokens =>
    match readStmt tokens with
    | some stmt => s.query m stmt .ok
    | none => some (other tokens m s)

/-- The text of a statement that carries names. -/
def Stmt.text : Stmt → Option Str
  | .selectUsrKey name => sprintf selUsrKeyFormat [name]
  | .selectOrder name => sprintf selOrderFormat [name]
  | .insertOrder name key => sprintf insertOrderFormat [name, key]
  | .selectGoods | .updateGoods _ => none

/-- The calls of thread `t` where MySQL reads the statements as their texts; each call ends as
    `fate` says.  A text that does not fit its buffer is not sent: what follows is not defined. -/
def readingTexts (other : Dialect) (fate : Call → Fate) (t : Nat) (c : Call) (s : Server) :
    Option (c.Reply × Server) :=
  match c, fate c with
  | .mysql (.query m stmt), .ok =>
    match stmt with
    | .selectUsrKey _ | .selectOrder _ | .insertOrder _ _ =>
      -- without a text there is no step: the buffer has overflowed
      stmt.text.bind fun text =>
        (s.mysql.queryText other m text).map fun x => (x.1, { s with mysql := x.2 })
    | .selectGoods | .updateGoods _ => Server.exec t (.mysql (.query m stmt)) .ok s
  | c, f => Server.exec t c f s

/-- The server with its statements sent as texts. -/
abbrev textServer (other : Dialect) : Threads.Machine Call Call.Reply :=
  server.via fun t c f => readingTexts other (fun _ => f) t c

end Seckill

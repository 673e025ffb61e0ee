import Seckill.Model.Worker

/-! # Which calls a function makes

The functions that never call MySQL, and those that never call Redis.  A monitor of the
calls to one store does not mind the functions that only talk to the other.  `Quiet` are
those that neither call MySQL nor send `EXEC`.
-/

namespace Seckill

open CStr CallTree

def Call.NoMysql : Call → Prop
  | .mysql _ => False
  | .redis _ | .counter _ | .grpc _ | .crash _ => True

def Call.Quiet : Call → Prop
  | .mysql _ | .redis (.command _ .exec) => False
  | _ => True

theorem Call.Quiet.noMysql : ∀ c : Call, c.Quiet → c.NoMysql
  | .mysql _, quiet => quiet
  | .redis _, _ | .counter _, _ | .grpc _, _ | .crash _, _ => trivial

/-- A command that is neither `EXEC` nor one of the work list, or no call to a store at all. -/
def Call.Asks : Call → Prop
  | .redis (.command _ .exec) | .redis (.command _ (.lpush _)) | .redis (.command _ .lpop) => False
  | .redis (.command _ _) | .counter _ | .crash _ => True
  | .redis _ | .mysql _ | .grpc _ => False

theorem Call.Asks.quiet (c : Call) (asks : c.Asks) : c.Quiet := by
  rcases c with (_ | _ | ⟨c, cmd⟩) | c | c | c | why
  · trivial
  · trivial
  · cases cmd <;> trivial
  · exact absurd asks id
  · trivial
  · trivial
  · trivial

/-- A command that is not one of the work list. -/
def Call.Books : Call → Prop
  | .redis (.command _ (.lpush _)) | .redis (.command _ .lpop) => False
  | .redis (.command _ _) | .crash _ => True
  | .redis _ | .mysql _ | .counter _ | .grpc _ => False

theorem Call.Books.noMysql : ∀ c : Call, c.Books → c.NoMysql
  | .mysql _, books => books
  | .redis _, _ | .counter _, _ | .grpc _, _ | .crash _, _ => trivial

def Call.NoRedis : Call → Prop
  | .redis _ => False
  | .mysql _ | .counter _ | .grpc _ | .crash _ => True

/-- The calls of a sale, and of the checks at MySQL: no connection is taken or given back, and of
    the `Worker` only the result is touched. -/
def Call.Sells (this : WorkerId) : Call → Prop
  | .mysql .getOneConnect | .mysql (.close _) | .redis _ => False
  | .mysql _ | .counter _ | .crash _ => True
  | .grpc (.setResult w _) => w = this
  | .grpc _ => False

variable {this : WorkerId} {usrName usrKey : Str} {redisconn : Option ConnId}
  {connection : Option SessId} {α : Type} {P : Call → Prop}

theorem Call.Sells.noRedis (this : WorkerId) : ∀ c : Call, c.Sells this → c.NoRedis
  | .redis _, sells => sells
  | .mysql _, _ | .counter _, _ | .grpc _, _ | .crash _, _ => trivial

theorem crash_only {why : Crash} (crash : P (.crash why)) : (Seckill.crash why : Code α).Only P :=
  ⟨crash, nofun⟩

/-! ## Away from MySQL -/

theorem redisCommand_noMysql {cmd : RedisCmd} : (redisCommand redisconn cmd).Only Call.NoMysql := by
  cases redisconn with
  | none => exact crash_only trivial
  | some c => exact ⟨trivial, fun _ => trivial⟩

theorem redisCommand_books {cmd : RedisCmd} (push : ∀ value, cmd ≠ .lpush value)
    (pop : cmd ≠ .lpop) : (redisCommand redisconn cmd).Only Call.Books := by
  cases redisconn with
  | none => exact crash_only trivial
  | some c =>
    refine ⟨?_, fun _ => trivial⟩
    cases cmd <;> first | trivial | exact absurd rfl (push _)

theorem reserve_books : (reserve usrName usrKey redisconn).Only Call.Books := by
  apply (redisCommand_books (by simp) (by simp)).bind
  intro multiReply
  split
  · apply (redisCommand_books (by simp) (by simp)).bind
    intro _
    apply (redisCommand_books (by simp) (by simp)).bind
    intro _
    apply (redisCommand_books (by simp) (by simp)).bind
    intro execReply
    split <;> exact trivial
  · exact trivial

theorem reserve_noMysql : (reserve usrName usrKey redisconn).Only Call.NoMysql :=
  reserve_books.mono Call.Books.noMysql

/-! ## Away from MySQL and from `EXEC` -/

theorem redisCommand_quiet (cmd : RedisCmd) (other : cmd ≠ .exec) :
    (redisCommand redisconn cmd).Only Call.Quiet := by
  cases redisconn with
  | none => exact crash_only trivial
  | some c =>
    refine ⟨?_, fun _ => trivial⟩
    cases cmd <;> trivial

theorem redisClose_quiet : (redisClose redisconn).Only Call.Quiet := by
  cases redisconn with
  | none => exact trivial
  | some c => exact ⟨trivial, fun _ => trivial⟩

theorem setResult_quiet {result : Str} : (setResult this result).Only Call.Quiet :=
  ⟨trivial, fun _ => trivial⟩

theorem redisCommand_asks {cmd : RedisCmd} (exec : cmd ≠ .exec) (push : ∀ value, cmd ≠ .lpush value)
    (pop : cmd ≠ .lpop) : (redisCommand redisconn cmd).Only Call.Asks := by
  cases redisconn with
  | none => exact crash_only trivial
  | some c =>
    refine ⟨?_, fun _ => trivial⟩
    cases cmd <;> first | trivial | exact absurd rfl (push _)

theorem checkUserInfo_asks {c : ConnId} :
    (checkUserInfo usrName usrKey (some c) connection).Only Call.Asks := by
  apply (redisCommand_asks (by simp) (by simp) (by simp)).bind
  intro confirmReply
  split <;> exact trivial

theorem checkUserHasGot_asks {c : ConnId} :
    (checkUserHasGot usrName (some c) connection).Only Call.Asks := by
  apply (redisCommand_asks (by simp) (by simp) (by simp)).bind
  intro orderReply
  split <;> exact trivial

theorem watchCount_asks : (watchCount redisconn).Only Call.Asks := by
  apply (redisCommand_asks (by simp) (by simp) (by simp)).bind
  intro watchReply
  apply (redisCommand_asks (by simp) (by simp) (by simp)).bind
  intro reply
  cases reply with
  | none => exact trivial
  | some reply =>
    show (if isOK watchReply = true then _ else _ : Code (Option Int)).Only Call.Asks
    split
    · split
      · exact trivial
      · exact crash_only trivial
    · exact trivial

theorem refill_asks : (refill redisconn).Only Call.Asks := by
  apply (redisCommand_asks (by simp) (by simp) (by simp)).bind
  intro _
  refine ⟨trivial, fun _ => ⟨trivial, fun failedCount => ?_⟩⟩
  show (if failedCount > 0 then _ else _ : Code Unit).Only Call.Asks
  split
  · refine ⟨trivial, fun again => ?_⟩
    apply (redisCommand_asks (by simp) (by simp) (by simp)).bind
    intro setCreply
    split
    · exact ⟨trivial, fun _ => ⟨trivial, fun _ => trivial⟩⟩
    · exact ⟨trivial, fun _ => trivial⟩
  · exact ⟨trivial, fun _ => trivial⟩

theorem checkUserInfo_quiet {c : ConnId} :
    (checkUserInfo usrName usrKey (some c) connection).Only Call.Quiet :=
  checkUserInfo_asks.mono Call.Asks.quiet

theorem checkUserHasGot_quiet {c : ConnId} :
    (checkUserHasGot usrName (some c) connection).Only Call.Quiet :=
  checkUserHasGot_asks.mono Call.Asks.quiet

theorem watchCount_quiet : (watchCount redisconn).Only Call.Quiet :=
  watchCount_asks.mono Call.Asks.quiet

theorem refill_quiet : (refill redisconn).Only Call.Quiet :=
  refill_asks.mono Call.Asks.quiet

theorem newWorker_quiet : newWorker.Only Call.Quiet :=
  ⟨trivial, fun _ => ⟨trivial, fun _ => ⟨trivial, fun _ => trivial⟩⟩⟩

/-- The calls of the admission gate. -/
def Call.Gates : Call → Prop
  | .redis .getOneConnect | .redis (.close _) | .redis (.command _ .llen) | .counter _
  | .crash _ => True
  | .redis _ | .mysql _ | .grpc _ => False

theorem Call.Gates.quiet (c : Call) (gates : c.Gates) : c.Quiet := by
  rcases c with (_ | _ | ⟨c, cmd⟩) | c | c | c | why
  · trivial
  · trivial
  · cases cmd <;> trivial
  · exact absurd gates id
  · trivial
  · trivial
  · trivial

theorem admission_gates : admission.Only Call.Gates := by
  refine ⟨trivial, fun successNum => ?_⟩
  show (if successNum < 50 then _ else _ : Code Bool).Only Call.Gates
  split
  · refine ⟨trivial, fun redisconn => ?_⟩
    have close (closed : Bool) :
        (do redisClose redisconn; pure !closed : Code Bool).Only Call.Gates := by
      cases redisconn with
      | none => exact trivial
      | some c => exact ⟨trivial, fun _ => trivial⟩
    have ask : (redisCommand redisconn .llen).Only Call.Gates := by
      cases redisconn with
      | none => exact ⟨trivial, nofun⟩
      | some c => exact ⟨trivial, fun _ => trivial⟩
    apply ask.bind
    intro reply
    split
    · exact ⟨trivial, fun _ => close _⟩
    · exact close false
  · exact trivial

theorem admission_quiet : admission.Only Call.Quiet :=
  admission_gates.mono Call.Gates.quiet

/-! ## At MySQL -/

theorem onHandle_only {call : SessId → Code α} (crashes : P (.crash .nullHandle))
    (only : ∀ m, (call m).Only P) : (onHandle connection call).Only P := by
  cases connection with
  | none => exact crash_only crashes
  | some m => exact only m

theorem onHandle_sells {call : SessId → Code α} (only : ∀ m, (call m).Only (Call.Sells this)) :
    (onHandle connection call).Only (Call.Sells this) :=
  onHandle_only trivial only

theorem mysqlQuery_sells {stmt : Stmt} : (mysqlQuery connection stmt).Only (Call.Sells this) :=
  onHandle_sells fun _ => ⟨trivial, fun _ => trivial⟩

theorem mysqlAutocommit_sells {mode : Bool} :
    (mysqlAutocommit connection mode).Only (Call.Sells this) :=
  onHandle_sells fun _ => ⟨trivial, fun _ => trivial⟩

theorem mysqlFetchRows_sells : (mysqlFetchRows connection).Only (Call.Sells this) :=
  onHandle_sells fun _ => ⟨trivial, fun _ => trivial⟩

theorem checkUserInfoMysql_sells :
    (checkUserInfoMysql usrName usrKey connection).Only (Call.Sells this) := by
  apply mysqlQuery_sells.bind
  intro error
  split
  · exact trivial
  · exact mysqlFetchRows_sells.bind fun _ => trivial

theorem checkUserHasGotMysql_sells :
    (checkUserHasGotMysql usrName connection).Only (Call.Sells this) := by
  have after (hasgot : Bool) :
      (do let _ ← mysqlAutocommit connection true; pure hasgot : Code Bool).Only (Call.Sells this) :=
    mysqlAutocommit_sells.bind fun _ => trivial
  apply mysqlAutocommit_sells.bind
  intro _
  apply mysqlQuery_sells.bind
  intro error
  split
  · exact after false
  · exact mysqlFetchRows_sells.bind fun _ => after _

theorem lastCount_le (rows : List (List Str)) : lastCount rows ≤ intMax := by
  apply List.foldlRecOn (motive := fun totalCount => totalCount ≤ intMax) rows _ (by decide)
  intro totalCount below row _
  cases row with
  | nil => exact below
  | cons v _ => exact (atoi_range v).2

/-- The calls of a sale: three statements, the count in range, and nothing else that counts. -/
theorem seckillGoodsMysql_only
    (others : ∀ c : Call, c.Sells this → (∀ m stmt, c ≠ .mysql (.query m stmt)) → P c)
    (select : ∀ m, P (.mysql (.query m .selectGoods)))
    (update : ∀ m n, 0 ≤ n → n ≤ intMax → P (.mysql (.query m (.updateGoods n))))
    (insert : ∀ m, P (.mysql (.query m (.insertOrder (cStr usrName) (cStr usrKey))))) :
    (seckillGoodsMysql this usrName usrKey connection).Only P := by
  have crashes : P (.crash .nullHandle) := others _ trivial (by simp)
  have query {stmt : Stmt} (formatted : ∀ m, P (.mysql (.query m stmt))) :
      (mysqlQuery connection stmt).Only P :=
    onHandle_only crashes fun m => ⟨formatted m, fun _ => trivial⟩
  have autocommit {mode : Bool} : (mysqlAutocommit connection mode).Only P :=
    onHandle_only crashes fun m => ⟨others _ trivial (by simp), fun _ => trivial⟩
  have fetch : (mysqlFetchRows connection).Only P :=
    onHandle_only crashes fun m => ⟨others _ trivial (by simp), fun _ => trivial⟩
  have rollback : (mysqlRollback connection).Only P :=
    onHandle_only crashes fun m => ⟨others _ trivial (by simp), fun _ => trivial⟩
  have commit : (mysqlCommit connection).Only P :=
    onHandle_only crashes fun m => ⟨others _ trivial (by simp), fun _ => trivial⟩
  have count {c : CounterCall} : (counter c).Only P := ⟨others _ trivial (by simp), fun _ => trivial⟩
  have answer {result : Str} : (setResult this result).Only P :=
    ⟨others _ rfl (by simp), fun _ => trivial⟩
  have finish : (do let _ ← mysqlAutocommit connection true; pure () : Code Unit).Only P :=
    autocommit.bind fun _ => trivial
  have refuse : (refuseSale this connection).Only P := answer.bind fun _ => finish
  have fail : (failSale this connection).Only P := by
    apply rollback.bind
    intro _
    exact count.bind fun _ => count.bind fun _ => count.bind fun _ => answer.bind fun _ => finish
  have book : (bookSale this connection).Only P := by
    apply commit.bind
    intro _
    exact answer.bind fun _ => count.bind fun _ => finish
  -- the count written is one less than a positive `int`
  have sale (selError : Bool) (totalCount : Int) (high : totalCount ≤ intMax) :
      (if totalCount > 0 then sellGoods this usrName usrKey connection selError totalCount
        else refuseSale this connection).Only P := by
    split
    next positive =>
      apply (query fun m => update m (totalCount - 1) (by omega) (by omega)).bind
      intro updateError
      apply (query insert).bind
      intro insertError
      split
      · exact fail
      · exact book
    · exact refuse
  rw [seckillGoodsMysql_eq]
  apply autocommit.bind
  intro _
  apply (query select).bind
  intro selError
  cases selError with
  | true => exact sale true 0 (by decide)
  | false =>
    exact fetch.bind fun rows => sale false (lastCount rows) (lastCount_le rows)

theorem seckillGoodsMysql_sells :
    (seckillGoodsMysql this usrName usrKey connection).Only (Call.Sells this) :=
  seckillGoodsMysql_only (fun _ sells _ => sells) (fun _ => trivial) (fun _ _ _ _ => trivial)
    fun _ => trivial

/-! ## Away from Redis -/

theorem setResult_noRedis {result : Str} : (setResult this result).Only Call.NoRedis :=
  ⟨trivial, fun _ => trivial⟩

theorem counter_noRedis {c : CounterCall} : (counter c).Only Call.NoRedis :=
  ⟨trivial, fun _ => trivial⟩

theorem mysqlClose_noRedis : (mysqlClose connection).Only Call.NoRedis := by
  cases connection with
  | none => exact trivial
  | some m => exact ⟨trivial, fun _ => trivial⟩

theorem newWorker_noRedis : newWorker.Only Call.NoRedis :=
  ⟨trivial, fun _ => ⟨trivial, fun _ => ⟨trivial, fun _ => trivial⟩⟩⟩

theorem seckillGoodsMysql_noRedis :
    (seckillGoodsMysql this usrName usrKey connection).Only Call.NoRedis :=
  seckillGoodsMysql_sells.mono (Call.Sells.noRedis this)

theorem serveRequest_noRedis : (serveRequest this usrName usrKey none connection).Only Call.NoRedis := by
  have answer : (setResult this zero).Only Call.NoRedis := setResult_noRedis
  apply (checkUserInfoMysql_sells.mono (Call.Sells.noRedis this)).bind
  intro registered
  cases registered with
  | false => exact answer
  | true =>
    apply (checkUserHasGotMysql_sells.mono (Call.Sells.noRedis this)).bind
    intro hasgot
    cases hasgot with
    | true => exact answer
    | false => exact seckillGoodsMysql_noRedis

theorem process_noRedis : (process this none connection).Only Call.NoRedis := by
  apply newWorker_noRedis.bind
  intro _
  refine ⟨trivial, fun usrName => ⟨trivial, fun usrKey => ?_⟩⟩
  apply serveRequest_noRedis.bind
  intro _
  apply mysqlClose_noRedis.bind
  exact fun _ => ⟨trivial, fun _ => ⟨trivial, fun _ => trivial⟩⟩

/-! ## Serving a request -/

/-- The calls of the two checks and the order: no connection is taken or given back, `work_list` is
    left alone, and of the `Worker` only the result is touched. -/
def Call.Serves (this : WorkerId) : Call → Prop
  | .redis (.command _ (.lpush _)) | .redis (.command _ .lpop) => False
  | .redis (.command _ _) => True
  | .redis _ | .mysql .getOneConnect | .mysql (.close _) => False
  | .mysql _ | .counter _ | .crash _ => True
  | .grpc (.setResult w _) => w = this
  | .grpc _ => False

theorem Call.Sells.serves (this : WorkerId) : ∀ c : Call, c.Sells this → c.Serves this
  | .redis _, sells => absurd sells id
  | .mysql .getOneConnect, sells | .mysql (.close _), sells => sells
  | .mysql (.autocommit _ _), _ | .mysql (.query _ _), _ | .mysql (.fetchRows _), _
  | .mysql (.rollback _), _ | .mysql (.commit _), _ | .counter _, _ | .crash _, _ => trivial
  | .grpc (.setResult _ _), sells => sells
  | .grpc .alloc, sells | .grpc (.status _), sells | .grpc (.setStatus _ _), sells
  | .grpc (.requestseckill _), sells | .grpc (.usrname _), sells | .grpc (.usrkey _), sells
  | .grpc (.result _), sells | .grpc (.finish _ _), sells | .grpc (.delete _), sells
  | .grpc .next, sells => absurd sells id

theorem Call.Asks.serves (this : WorkerId) (c : Call) (asks : c.Asks) : c.Serves this := by
  rcases c with (_ | _ | ⟨c, cmd⟩) | c | c | c | why
  · exact asks
  · exact asks
  · cases cmd <;> trivial
  · exact absurd asks id
  · trivial
  · exact absurd asks id
  · trivial

theorem Call.Books.serves (this : WorkerId) (c : Call) (books : c.Books) : c.Serves this := by
  rcases c with (_ | _ | ⟨c, cmd⟩) | c | c | c | why
  · exact books
  · exact books
  · cases cmd <;> trivial
  · exact absurd books id
  · exact absurd books id
  · exact absurd books id
  · trivial

theorem setResult_serves {result : Str} : (setResult this result).Only (Call.Serves this) :=
  ⟨rfl, fun _ => trivial⟩

theorem checkUserInfo_serves :
    (checkUserInfo usrName usrKey redisconn connection).Only (Call.Serves this) := by
  cases redisconn with
  | none => exact checkUserInfoMysql_sells.mono (Call.Sells.serves this)
  | some c => exact checkUserInfo_asks.mono (Call.Asks.serves this)

theorem checkUserHasGot_serves :
    (checkUserHasGot usrName redisconn connection).Only (Call.Serves this) := by
  cases redisconn with
  | none => exact checkUserHasGotMysql_sells.mono (Call.Sells.serves this)
  | some c => exact checkUserHasGot_asks.mono (Call.Asks.serves this)

/-- The attempts make the calls of their parts. -/
theorem seckillGoodsFrom_only {fuel repeatCount : Nat} (asks : ∀ c : Call, c.Asks → P c)
    (books : ∀ c : Call, c.Books → P c)
    (sells : (seckillGoodsMysql this usrName usrKey connection).Only P)
    (answers : (setResult this zero).Only P) :
    (seckillGoodsFrom this usrName usrKey redisconn connection fuel repeatCount).Only P := by
  induction fuel generalizing repeatCount with
  | zero => exact trivial
  | succ fuel ih =>
    apply (watchCount_asks.mono asks).bind
    intro currGoodsCount
    cases currGoodsCount with
    | none => exact answers
    | some currGoodsCount =>
      show (if currGoodsCount > 0 then _ else _ : Code Unit).Only P
      split
      · apply (reserve_books.mono books).bind
        intro reserved
        cases reserved with
        | true => exact sells
        | false =>
          apply ((redisCommand_books (by simp) (by simp)).mono books).bind
          intro _
          split
          · exact ih
          · exact answers
      · exact (refill_asks.mono asks).bind fun _ => answers

theorem seckillGoodsFrom_serves {fuel repeatCount : Nat} :
    (seckillGoodsFrom this usrName usrKey redisconn connection fuel repeatCount).Only
      (Call.Serves this) :=
  seckillGoodsFrom_only (Call.Asks.serves this) (Call.Books.serves this)
    (seckillGoodsMysql_sells.mono (Call.Sells.serves this)) setResult_serves

theorem serveRequest_serves :
    (serveRequest this usrName usrKey redisconn connection).Only (Call.Serves this) := by
  apply checkUserInfo_serves.bind
  intro registered
  cases registered with
  | false => exact setResult_serves
  | true =>
    apply checkUserHasGot_serves.bind
    intro hasgot
    cases hasgot with
    | true => exact setResult_serves
    | false =>
      cases redisconn with
      | none => exact seckillGoodsMysql_sells.mono (Call.Sells.serves this)
      | some c => exact seckillGoodsFrom_serves

end Seckill

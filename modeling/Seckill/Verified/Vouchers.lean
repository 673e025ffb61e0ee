import Seckill.Verified.Parts
import Seckill.Verified.Protocol

/-! # Nothing is written for a stranger

Before a thread writes anything for a request it was vouched for: Redis has answered with
the key of the request, or MySQL has sent a row with it.  That is a fact of the server's
programs, whatever the replies; `Verified.Authorization` adds what the replies tell.
-/

namespace Seckill

open CStr CallTree Threads

/-- The request as the thread read it; `asking` says that it waits for rows of `usr_info`, and
    `vouched` that it has heard of its key. -/
structure Voucher where
  name : Option Str := none
  key : Option Str := none
  asking : Bool := false
  vouched : Bool := false

namespace Voucher

/-- The key of the request stands first in one of the rows. -/
def finds (v : Voucher) (rows : List (List Str)) : Bool :=
  v.key.any fun key => rows.any fun row => row.head?.map cStr == some key

def note (v : Voucher) : (c : Call) → Fate → c.Reply → Voucher
  | .redis (.command _ (.hget .usrInfo _)), _, some (.string str) =>
    { v with vouched := v.vouched || v.key == some (cStr str) }
  | .mysql (.query _ (.selectUsrKey _)), _, error => { v with asking := !error }
  | .mysql (.fetchRows _), _, rows =>
    { v with asking := false, vouched := v.asking && v.finds rows || v.vouched }
  | .grpc .next, _, _ | .grpc (.finish _ _), _, _ => {}
  | .grpc (.usrname _), _, name => { v with name := some name }
  | .grpc (.usrkey _), _, key => { v with key := some key }
  | _, _, _ => v

def AllowsStmt (v : Voucher) : Stmt → Prop
  | .selectUsrKey user | .selectOrder user => ∃ name, v.name = some name ∧ user = cStr name
  | .selectGoods => True
  | .updateGoods _ => v.vouched = true
  | .insertOrder user key => v.vouched = true ∧
      ∃ usrName usrKey, v.name = some usrName ∧ v.key = some usrKey ∧ user = cStr usrName ∧
        key = cStr usrKey

/-- What is written needs a voucher, and a thread that asks waits for its rows. -/
def Allows (v : Voucher) : Call → Prop
  | .redis (.command _ (.hget .usrInfo field)) =>
    v.vouched = true ∨ ∃ name, v.name = some name ∧ field = cStr name
  | .redis (.command _ .multi) | .redis (.command _ .decr) | .redis (.command _ .exec)
  | .redis (.command _ (.set _)) | .redis (.command _ (.hmset _ _ _)) => v.vouched = true
  | .redis _ => True
  | .mysql (.fetchRows _) => True
  | .mysql (.query _ stmt) => v.asking = false ∧ v.AllowsStmt stmt
  | .mysql (.commit _) => v.asking = false ∧ v.vouched = true
  | .mysql _ => v.asking = false
  | .counter (.setFailedCount _) | .counter .incFailedCount | .counter .incSuccessNum =>
    v.vouched = true
  | .counter _ | .grpc _ | .crash _ => True

end Voucher

/-- A thread writes only for a request that was vouched for. -/
abbrev vouching : Watch server where
  Local := Voucher
  allowed := Voucher.Allows
  note := Voucher.note
  idle := {}
  begin _ := {}
  settled _ := True

/-! ## The programs wait for a voucher -/

section Programs

variable {this : WorkerId} {usrName usrKey : Str} {redisconn : Option ConnId}
  {connection : Option SessId} {α β : Type} {v : Voucher} {c : Call}

abbrev Vouches {α : Type} (p : Code α) (v : Voucher) (post : α → Voucher → Prop) : Prop :=
  p.Keeps vouching.toMonitor v post

/-- The calls that need no voucher and tell nothing of the user. -/
def Call.Plain : Call → Prop
  | .redis (.command _ (.hget .usrInfo _)) | .redis (.command _ .multi) | .redis (.command _ .decr)
  | .redis (.command _ .exec) | .redis (.command _ (.set _))
  | .redis (.command _ (.hmset _ _ _)) => False
  | .mysql (.query _ (.selectUsrKey _)) | .mysql (.query _ (.selectOrder _))
  | .mysql (.query _ (.updateGoods _)) | .mysql (.query _ (.insertOrder _ _))
  | .mysql (.commit _) => False
  | .counter (.setFailedCount _) | .counter .incFailedCount | .counter .incSuccessNum => False
  | .grpc .next | .grpc (.usrname _) | .grpc (.usrkey _) | .grpc (.finish _ _) => False
  | _ => True

theorem Call.Plain.neutral (plain : c.Plain) (calm : v.asking = false) :
    v.Allows c ∧ ∀ f r, v.note c f r = v := by
  rcases c with (_ | _ | ⟨c, cmd⟩) | c | c | c | why
  · exact ⟨trivial, fun _ _ => rfl⟩
  · exact ⟨trivial, fun _ _ => rfl⟩
  · cases cmd with
    | hget key field =>
      cases key with
      | usrInfo => exact absurd plain id
      | orderInfo => exact ⟨trivial, fun _ _ => rfl⟩
    | watch | unwatch | get | lpush value | lpop | llen => exact ⟨trivial, fun _ _ => rfl⟩
    | multi | exec | set value | decr | hmset key field value => exact absurd plain id
  · cases c with
    | query m stmt =>
      cases stmt <;> first | exact absurd plain id | exact ⟨⟨calm, trivial⟩, fun _ _ => rfl⟩
    | fetchRows m =>
      obtain ⟨name, key, asking, vouched⟩ := v
      cases calm
      exact ⟨trivial, fun _ _ => rfl⟩
    | commit m => exact absurd plain id
    | getOneConnect | close m | autocommit m mode | rollback m => exact ⟨calm, fun _ _ => rfl⟩
  · cases c <;> first | exact absurd plain id | exact ⟨trivial, fun _ _ => rfl⟩
  · cases c <;> first | exact absurd plain id | exact ⟨trivial, fun _ _ => rfl⟩
  · exact ⟨trivial, fun _ _ => rfl⟩

theorem plain_vouches {p : Code α} (only : p.Only Call.Plain) (calm : v.asking = false) :
    Vouches p v fun _ v' => v' = v :=
  only.keeps (fun _ plain => plain.neutral calm) fun _ => rfl

/-- A request that was read, vouched for or not. -/
def withNames (usrName usrKey : Str) (vouched : Bool) : Voucher :=
  ⟨some usrName, some usrKey, false, vouched⟩

/-- What may be called for a request that was vouched for. -/
def Call.Buys (usrName usrKey : Str) : Call → Prop
  | .mysql (.query _ (.selectUsrKey _)) => False
  | .mysql (.query _ (.selectOrder user)) => user = cStr usrName
  | .mysql (.query _ (.insertOrder user key)) => user = cStr usrName ∧ key = cStr usrKey
  | .grpc .next | .grpc (.usrname _) | .grpc (.usrkey _) | .grpc (.finish _ _) => False
  | _ => True

theorem Call.Buys.neutral (buys : c.Buys usrName usrKey) :
    (withNames usrName usrKey true).Allows c ∧
      ∀ f r, (withNames usrName usrKey true).note c f r = withNames usrName usrKey true := by
  rcases c with (_ | _ | ⟨c, cmd⟩) | c | c | c | why
  · exact ⟨trivial, fun _ _ => rfl⟩
  · exact ⟨trivial, fun _ _ => rfl⟩
  · cases cmd with
    | hget key field =>
      cases key with
      | usrInfo =>
        refine ⟨Or.inl rfl, fun _ r => ?_⟩
        match r with
        | some (.string _) => rfl
        | none | some .nil | some (.status _) | some (.error _) | some (.integer _)
        | some (.array _) => rfl
      | orderInfo => exact ⟨trivial, fun _ _ => rfl⟩
    | watch | unwatch | get | lpush value | lpop | llen => exact ⟨trivial, fun _ _ => rfl⟩
    | multi | exec | set value | decr | hmset key field value => exact ⟨rfl, fun _ _ => rfl⟩
  · cases c with
    | query m stmt =>
      cases stmt with
      | selectUsrKey name => exact absurd buys id
      | selectOrder user => exact ⟨⟨rfl, usrName, rfl, buys⟩, fun _ _ => rfl⟩
      | selectGoods => exact ⟨⟨rfl, trivial⟩, fun _ _ => rfl⟩
      | updateGoods count => exact ⟨⟨rfl, rfl⟩, fun _ _ => rfl⟩
      | insertOrder user key =>
        exact ⟨⟨rfl, rfl, usrName, usrKey, rfl, rfl, buys.1, buys.2⟩, fun _ _ => rfl⟩
    | fetchRows m => exact ⟨trivial, fun _ _ => rfl⟩
    | commit m => exact ⟨⟨rfl, rfl⟩, fun _ _ => rfl⟩
    | getOneConnect | close m | autocommit m mode | rollback m => exact ⟨rfl, fun _ _ => rfl⟩
  · cases c <;> first | exact ⟨rfl, fun _ _ => rfl⟩ | exact ⟨trivial, fun _ _ => rfl⟩
  · cases c <;> first | exact absurd buys id | exact ⟨trivial, fun _ _ => rfl⟩
  · exact ⟨trivial, fun _ _ => rfl⟩

theorem Call.Asks.buys (c : Call) (asks : c.Asks) : c.Buys usrName usrKey := by
  rcases c with c | c | c | c | why
  · trivial
  · exact absurd asks id
  · trivial
  · exact absurd asks id
  · trivial

theorem Call.Books.buys (c : Call) (books : c.Books) : c.Buys usrName usrKey := by
  rcases c with c | c | c | c | why
  · trivial
  · exact absurd books id
  · exact absurd books id
  · exact absurd books id
  · trivial

theorem Call.Sells.buys (c : Call) (sells : c.Sells this)
    (other : ∀ m stmt, c ≠ .mysql (.query m stmt)) : c.Buys usrName usrKey := by
  rcases c with c | c | c | c | why
  · trivial
  · cases c <;> first | trivial | exact absurd rfl (other _ _)
  · trivial
  · cases c <;> first | exact absurd sells id | trivial
  · trivial

theorem seckillGoodsMysql_buys :
    (seckillGoodsMysql this usrName usrKey connection).Only (Call.Buys usrName usrKey) :=
  seckillGoodsMysql_only Call.Sells.buys (fun _ => trivial) (fun _ _ _ _ => trivial)
    fun _ => ⟨rfl, rfl⟩

theorem checkUserHasGot_buys :
    (checkUserHasGot usrName redisconn connection).Only (Call.Buys usrName usrKey) := by
  cases redisconn with
  | some c => exact checkUserHasGot_asks.mono Call.Asks.buys
  | none =>
    have call {γ : Type} {make : SessId → Code γ} (buys : ∀ m, (make m).Only (Call.Buys usrName usrKey)) :
        (onHandle connection make).Only (Call.Buys usrName usrKey) := onHandle_only trivial buys
    have switch (mode : Bool) : (mysqlAutocommit connection mode).Only (Call.Buys usrName usrKey) :=
      call fun _ => ⟨trivial, fun _ => trivial⟩
    have after (hasgot : Bool) : (do let _ ← mysqlAutocommit connection true; pure hasgot :
        Code Bool).Only (Call.Buys usrName usrKey) := (switch true).bind fun _ => trivial
    have select : (mysqlQuery connection (.selectOrder (cStr usrName))).Only
        (Call.Buys usrName usrKey) := call fun _ => ⟨rfl, fun _ => trivial⟩
    have fetch : (mysqlFetchRows connection).Only (Call.Buys usrName usrKey) :=
      call fun _ => ⟨trivial, fun _ => trivial⟩
    apply (switch false).bind
    intro _
    apply select.bind
    intro error
    split
    · exact after false
    · exact fetch.bind fun _ => after _

theorem seckillGoods_buys {repeatCount : Nat} :
    (seckillGoods this usrName usrKey redisconn connection repeatCount).Only
      (Call.Buys usrName usrKey) := by
  cases redisconn with
  | none => exact seckillGoodsMysql_buys
  | some c =>
    exact seckillGoodsFrom_only Call.Asks.buys Call.Books.buys seckillGoodsMysql_buys
      ⟨trivial, fun _ => trivial⟩

/-- `checkUserInfo` lets nobody pass who was not vouched for. -/
theorem checkUserInfo_vouches :
    Vouches (checkUserInfo usrName usrKey redisconn connection) (withNames usrName usrKey false)
      fun known v => v = withNames usrName usrKey v.vouched ∧ (known = true → v.vouched = true) := by
  cases redisconn with
  | some c =>
    refine ⟨Or.inr ⟨usrName, rfl, rfl⟩, fun _ reply => ?_⟩
    match reply with
    | some (.string str) =>
      refine ⟨rfl, fun known => ?_⟩
      have same : usrKey = cStr str := beq_iff_eq.mp known
      rw [same]
      exact beq_self_eq_true (some (cStr str))
    | none | some .nil | some (.status _) | some (.error _) | some (.integer _)
    | some (.array _) => exact ⟨rfl, nofun⟩
  | none =>
    cases connection with
    | none => exact ⟨trivial, nofun⟩
    | some m =>
      refine ⟨⟨rfl, usrName, rfl, rfl⟩, fun _ error => ?_⟩
      cases error with
      | true => exact ⟨rfl, nofun⟩
      | false =>
        refine ⟨trivial, fun _ rows => ⟨rfl, fun known => ?_⟩⟩
        exact (Bool.or_false _).trans known

theorem serveRequest_vouches :
    Vouches (serveRequest this usrName usrKey redisconn connection) (withNames usrName usrKey false)
      fun _ v => v.asking = false := by
  have answer (vouched : Bool) : Vouches (setResult this zero) (withNames usrName usrKey vouched)
      fun _ v => v.asking = false := ⟨trivial, fun _ _ => rfl⟩
  apply Prog.Keeps.bind checkUserInfo_vouches
  rintro known v ⟨same, sound⟩
  rw [same]
  cases known with
  | false => exact answer _
  | true =>
    rw [sound rfl]
    have buys {γ : Type} {p : Code γ} (only : p.Only (Call.Buys usrName usrKey)) :
        Vouches p (withNames usrName usrKey true) fun _ v => v = withNames usrName usrKey true :=
      only.keeps (fun _ buys => buys.neutral) fun _ => rfl
    apply Prog.Keeps.bind (buys checkUserHasGot_buys)
    rintro hasgot _ rfl
    cases hasgot with
    | true => exact answer true
    | false => exact (buys seckillGoods_buys).mono fun _ _ same => by rw [same]; rfl

theorem newWorker_plain : newWorker.Only Call.Plain :=
  ⟨trivial, fun _ => ⟨trivial, fun _ => ⟨trivial, fun _ => trivial⟩⟩⟩

theorem redisClose_plain : (redisClose redisconn).Only Call.Plain := by
  cases redisconn with
  | none => exact trivial
  | some c => exact ⟨trivial, fun _ => trivial⟩

theorem mysqlClose_plain : (mysqlClose connection).Only Call.Plain := by
  cases connection with
  | none => exact trivial
  | some m => exact ⟨trivial, fun _ => trivial⟩

theorem process_vouches :
    Vouches (process this redisconn connection) {} fun _ v => v.asking = false := by
  apply Prog.Keeps.bind (plain_vouches newWorker_plain rfl)
  rintro _ _ rfl
  refine ⟨trivial, fun _ usrName => ⟨trivial, fun _ usrKey => ?_⟩⟩
  apply Prog.Keeps.bind (serveRequest_vouches : Vouches _ (withNames usrName usrKey false) _)
  intro _ v calm
  apply Prog.Keeps.bind (plain_vouches redisClose_plain calm)
  rintro _ _ rfl
  apply Prog.Keeps.bind (plain_vouches mysqlClose_plain calm)
  rintro _ _ rfl
  exact ⟨trivial, fun _ _ => ⟨trivial, fun _ _ => rfl⟩⟩

theorem work_plain {value : Str} : (redisCommand redisconn (.lpush value)).Only Call.Plain ∧
    (redisCommand redisconn .lpop).Only Call.Plain ∧
    (redisCommand redisconn .llen).Only Call.Plain := by
  cases redisconn with
  | none => exact ⟨crash_only trivial, crash_only trivial, crash_only trivial⟩
  | some c =>
    exact ⟨⟨trivial, fun _ => trivial⟩, ⟨trivial, fun _ => trivial⟩, ⟨trivial, fun _ => trivial⟩⟩

theorem proceedAs_vouches {status : WorkerStatus} :
    Vouches (proceedAs this status) {} fun _ v => v.asking = false := by
  cases status with
  | create => exact ⟨trivial, fun _ _ => ⟨trivial, fun _ _ => rfl⟩⟩
  | process =>
    refine ⟨trivial, fun _ redisconn => ⟨rfl, fun _ connection => ⟨trivial, fun _ _ => ?_⟩⟩⟩
    apply Prog.Keeps.bind (plain_vouches work_plain.1 rfl)
    rintro _ _ rfl
    exact process_vouches
  | finish =>
    refine ⟨trivial, fun _ redisconn => ?_⟩
    apply Prog.Keeps.bind (plain_vouches (@work_plain _ []).2.1 rfl)
    rintro _ _ rfl
    apply Prog.Keeps.bind (plain_vouches redisClose_plain rfl)
    rintro _ _ rfl
    exact ⟨trivial, fun _ _ => rfl⟩

theorem admission_plain : admission.Only Call.Plain := by
  refine ⟨trivial, fun successNum => ?_⟩
  show (if successNum < 50 then _ else _ : Code Bool).Only Call.Plain
  split
  · refine ⟨trivial, fun redisconn => ?_⟩
    apply (@work_plain _ []).2.2.bind
    intro reply
    split
    · exact ⟨trivial, fun _ => redisClose_plain.bind fun _ => trivial⟩
    · exact redisClose_plain.bind fun _ => trivial
  · exact trivial

theorem vouching_conforms : vouching.Conforms := by
  refine ⟨trivial, fun e => ?_⟩
  cases e with
  | handleRPCS =>
    apply Prog.Keeps.bind (plain_vouches admission_plain rfl)
    rintro passed _ rfl
    cases passed with
    | false => exact trivial
    | true =>
      refine ⟨trivial, fun _ _ => ⟨trivial, fun _ _ => ?_⟩⟩
      exact proceedAs_vouches.mono fun _ _ _ => trivial
  | fallback =>
    refine ⟨trivial, fun _ tag => ⟨trivial, fun _ status => ?_⟩⟩
    cases status with
    | create =>
      exact (proceedAs_vouches : Vouches (proceedAs tag .create) {} _).mono fun _ _ _ => trivial
    | finish =>
      exact (proceedAs_vouches : Vouches (proceedAs tag .finish) {} _).mono fun _ _ _ => trivial
    | process =>
      refine ⟨rfl, fun _ connection => ⟨trivial, fun _ _ => ?_⟩⟩
      exact process_vouches.mono fun _ _ _ => trivial

end Programs

end Seckill

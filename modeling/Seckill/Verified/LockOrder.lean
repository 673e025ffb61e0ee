import Seckill.Lib.Progress
import Seckill.Verified.CleanSessions
import Seckill.Verified.Failover
import Seckill.Verified.Ledger
import Seckill.Verified.Lifecycle
import Seckill.Verified.Scenario
import Seckill.Verified.TextRuns

/-! # Nobody waits in a circle

A thread can wait for `rwlock_`, for the row lock on the goods, for an order that another
session has not committed, or for what else a statement on `order_info` locks: the rows and
gaps of `SELECT ... FOR UPDATE`, and those of an `INSERT`.  The model takes none of the last
kind, so they are a parameter here (`OrderLocks`).  The programs take their locks in an
order: inside the section of `rwlock_` nothing is waited for, after a statement on
`order_info` only `rwlock_`, and whoever has the row of the goods never waits for it.  So a
chain of waiting threads ends at one that moves.
-/

namespace Seckill

open CStr CallTree CallTree.Prog Threads

/-! ## What the programs do while they hold something -/

/-- A thread inside the section of `rwlock_`, between `mysql_autocommit(OFF)` and `(ON)`, past
    the statement on `order_info` of that transaction, and with a reply to `GET` that has no
    text. -/
structure Grip where
  inside : Bool := false
  trx : Bool := false
  past : Bool := false
  textless : Bool := false

namespace Grip

def note (g : Grip) : (c : Call) → Fate → c.Reply → Grip
  | .counter .wrlock, _, _ => { g with inside := true }
  | .counter .unlock, _, _ => { g with inside := false }
  | .mysql (.autocommit _ mode), _, _ => { g with trx := !mode, past := g.past && !mode }
  | .mysql (.query _ (.selectOrder _)), _, _ => { g with past := true }
  | .mysql (.query _ (.insertOrder _ _)), _, _ => { g with past := true }
  | .redis (.command _ .get), _, r => { g with textless := r.any fun r => r.str.isNone }
  | _, _, _ => g

/-- Nothing is held. -/
structure Calm (g : Grip) : Prop where
  inside : g.inside = false
  trx : g.trx = false
  past : g.past = false

/-- Inside the section only the counters are used and the count is set; past the statement on
    `order_info` there is no other. -/
def Allows (g : Grip) : Call → Prop
  | .counter .wrlock => g.inside = false
  | .counter _ | .redis (.command _ (.set _)) => True
  | .mysql (.query _ _) => g.inside = false ∧ g.past = false
  | .grpc .next => g.Calm
  | .crash .nullStr => g.inside = false ∧ g.textless = true
  | _ => g.inside = false

end Grip

abbrev gripping : Watch server where
  Local := Grip
  allowed := Grip.Allows
  note := Grip.note
  idle := {}
  begin _ := {}
  settled := Grip.Calm

section Programs

variable {this : WorkerId} {usrName usrKey : Str} {redisconn : Option ConnId}
  {connection : Option SessId} {m : SessId} {α β : Type} {g : Grip} {c : Call}

/-- From here on the program lets go of everything it has taken. -/
abbrev Releases (p : Code α) (g : Grip) : Prop := p.Keeps gripping.toMonitor g fun _ g' => g'.Calm

/-- A program that holds nothing before and after. -/
def Orderly (p : Code α) : Prop := ∀ g : Grip, g.Calm → Releases p g

theorem Orderly.bind {p : Code α} {f : α → Code β} (first : Orderly p) (rest : ∀ a, Orderly (f a)) :
    Orderly (p >>= f) :=
  fun g calm => Prog.Keeps.bind (first g calm) fun a _ after => rest a _ after

theorem Orderly.ret {a : α} : Orderly (Prog.ret a : Code α) := fun _ calm => calm

/-- The calls that take nothing and let nothing go. -/
def Call.Loose : Call → Prop
  | .counter .wrlock | .counter .unlock | .mysql (.autocommit _ _)
  | .mysql (.query _ (.selectOrder _)) | .mysql (.query _ (.insertOrder _ _))
  | .redis (.command _ .get) | .grpc .next | .crash .nullStr => False
  | _ => True

theorem Call.Loose.neutral (loose : c.Loose) (calm : g.Calm) :
    g.Allows c ∧ ∀ f r, g.note c f r = g := by
  obtain ⟨inside, trx, past⟩ := calm
  rcases c with (_ | _ | ⟨c, cmd⟩) | c | c | c | why
  · exact ⟨inside, fun _ _ => rfl⟩
  · exact ⟨inside, fun _ _ => rfl⟩
  · cases cmd <;> first
      | exact absurd loose id | exact ⟨inside, fun _ _ => rfl⟩ | exact ⟨trivial, fun _ _ => rfl⟩
  · cases c with
    | query m stmt =>
      cases stmt <;> first | exact absurd loose id | exact ⟨⟨inside, past⟩, fun _ _ => rfl⟩
    | autocommit m mode => exact absurd loose id
    | getOneConnect | close m | fetchRows m | rollback m | commit m => exact ⟨inside, fun _ _ => rfl⟩
  · cases c <;> first | exact absurd loose id | exact ⟨trivial, fun _ _ => rfl⟩
  · cases c <;> first | exact absurd loose id | exact ⟨inside, fun _ _ => rfl⟩
  · cases why <;> first | exact absurd loose id | exact ⟨inside, fun _ _ => nofun⟩

theorem loose_orderly {p : Code α} (only : p.Only Call.Loose) : Orderly p :=
  fun _ calm => only.keeps (fun _ loose => loose.neutral calm) fun _ => calm

theorem redisCommand_orderly {cmd : RedisCmd} (get : cmd ≠ .get) : Orderly (redisCommand redisconn cmd) := by
  apply loose_orderly
  cases redisconn with
  | none => exact crash_only trivial
  | some c =>
    refine ⟨?_, fun _ => trivial⟩
    cases cmd <;> trivial

theorem redisClose_orderly : Orderly (redisClose redisconn) := by
  apply loose_orderly
  cases redisconn with
  | none => exact trivial
  | some c => exact ⟨trivial, fun _ => trivial⟩

theorem mysqlClose_orderly : Orderly (mysqlClose connection) := by
  apply loose_orderly
  cases connection with
  | none => exact trivial
  | some m => exact ⟨trivial, fun _ => trivial⟩

theorem setResult_orderly {result : Str} : Orderly (setResult this result) :=
  loose_orderly ⟨trivial, fun _ => trivial⟩

/-! ### The sale -/

theorem refuseSale_releases (outside : g.inside = false) : Releases (refuseSale this (some m)) g :=
  ⟨outside, fun _ _ => ⟨outside, fun _ _ => ⟨outside, rfl, Bool.and_false _⟩⟩⟩

/-- From the rollback on a thread waits for `rwlock_` at most. -/
theorem failSale_releases (outside : g.inside = false) : Releases (failSale this (some m)) g :=
  ⟨outside, fun _ _ => ⟨outside, fun _ _ => ⟨trivial, fun _ _ => ⟨trivial, fun _ _ =>
    ⟨rfl, fun _ _ => ⟨rfl, fun _ _ => ⟨rfl, rfl, Bool.and_false _⟩⟩⟩⟩⟩⟩⟩

theorem bookSale_releases (outside : g.inside = false) : Releases (bookSale this (some m)) g :=
  ⟨outside, fun _ _ => ⟨outside, fun _ _ => ⟨trivial, fun _ _ => ⟨outside, fun _ _ =>
    ⟨outside, rfl, Bool.and_false _⟩⟩⟩⟩⟩

theorem sellGoods_releases {selError : Bool} {totalCount : Int} (outside : g.inside = false)
    (before : g.past = false) :
    Releases (sellGoods this usrName usrKey (some m) selError totalCount) g := by
  refine ⟨⟨outside, before⟩, fun _ updateError => ⟨⟨outside, before⟩, fun _ insertError => ?_⟩⟩
  show Releases (if selError || updateError || insertError then _ else _) _
  split
  · exact failSale_releases outside
  · exact bookSale_releases outside

theorem seckillGoodsMysql_orderly : Orderly (seckillGoodsMysql this usrName usrKey connection) := by
  intro g calm
  obtain ⟨outside, _, before⟩ := calm
  rw [seckillGoodsMysql_eq]
  cases connection with
  | none => exact ⟨outside, fun _ => nofun⟩
  | some m =>
    have open' : (g.past && !false) = false := by rw [before]; rfl
    refine ⟨outside, fun _ _ => ⟨⟨outside, open'⟩, fun _ selError => ?_⟩⟩
    have sale (selError : Bool) (totalCount : Int) : Releases (if totalCount > 0 then
        sellGoods this usrName usrKey (some m) selError totalCount
        else refuseSale this (some m)) { g with trx := true, past := g.past && !false } := by
      split
      · exact sellGoods_releases outside open'
      · exact refuseSale_releases outside
    cases selError with
    | true => exact sale true 0
    | false => exact ⟨outside, fun _ rows => sale false (lastCount rows)⟩

/-! ### The checks -/

theorem checkUserInfo_orderly : Orderly (checkUserInfo usrName usrKey redisconn connection) := by
  cases redisconn with
  | some c =>
    apply (redisCommand_orderly (by simp)).bind
    intro confirmReply
    split <;> exact .ret
  | none =>
    cases connection with
    | none => exact fun g calm => ⟨calm.inside, fun _ => nofun⟩
    | some m =>
      refine loose_orderly ⟨trivial, fun error => ?_⟩
      cases error with
      | true => exact trivial
      | false => exact ⟨trivial, fun _ => trivial⟩

theorem checkUserHasGot_orderly : Orderly (checkUserHasGot usrName redisconn connection) := by
  cases redisconn with
  | some c =>
    apply (redisCommand_orderly (by simp)).bind
    intro orderReply
    split <;> exact .ret
  | none =>
    intro g calm
    obtain ⟨outside, _, before⟩ := calm
    cases connection with
    | none => exact ⟨outside, fun _ => nofun⟩
    | some m =>
      have open' : (g.past && !false) = false := by rw [before]; rfl
      refine ⟨outside, fun _ _ => ⟨⟨outside, open'⟩, fun _ error => ?_⟩⟩
      cases error with
      | true => exact ⟨outside, fun _ _ => ⟨outside, rfl, rfl⟩⟩
      -- what the `SELECT` has locked is let go with `mysql_autocommit(ON)`
      | false => exact ⟨outside, fun _ _ => ⟨outside, fun _ _ => ⟨outside, rfl, rfl⟩⟩⟩

/-! ### The order -/

theorem watchCount_orderly : Orderly (watchCount redisconn) := by
  intro g calm
  obtain ⟨outside, trx, past⟩ := calm
  cases redisconn with
  | none => exact ⟨outside, fun _ => nofun⟩
  | some c =>
    refine ⟨outside, fun _ watchReply => ⟨outside, fun _ reply => ?_⟩⟩
    match reply with
    | none => exact ⟨outside, trx, past⟩
    | some reply =>
      show Releases (if isOK watchReply then _ else _) _
      split
      · cases text : reply.str with
        | none =>
          -- the crash, which needs such a reply
          exact ⟨⟨outside, by simp [Grip.note, text]⟩, fun _ => nofun⟩
        | some str => exact ⟨outside, trx, past⟩
      · exact ⟨outside, trx, past⟩

theorem reserve_orderly : Orderly (reserve usrName usrKey redisconn) := by
  apply (redisCommand_orderly (by simp)).bind
  intro multiReply
  split
  · refine (redisCommand_orderly (by simp)).bind fun _ =>
      (redisCommand_orderly (by simp)).bind fun _ => (redisCommand_orderly (by simp)).bind fun _ => ?_
    split <;> exact .ret
  · exact .ret

theorem refill_orderly : Orderly (refill redisconn) := by
  intro g calm
  obtain ⟨outside, trx, past⟩ := calm
  cases redisconn with
  | none => exact ⟨outside, fun _ => nofun⟩
  | some c =>
    refine ⟨outside, fun _ _ => ⟨outside, fun _ _ => ⟨trivial, fun _ failedCount => ?_⟩⟩⟩
    show Releases (if failedCount > 0 then _ else _) _
    split
    · refine ⟨trivial, fun _ _ => ⟨trivial, fun _ setCreply => ?_⟩⟩
      show Releases (if isOK setCreply then _ else _) _
      split
      · exact ⟨trivial, fun _ _ => ⟨trivial, fun _ _ => ⟨rfl, trx, past⟩⟩⟩
      · exact ⟨trivial, fun _ _ => ⟨rfl, trx, past⟩⟩
    · exact ⟨trivial, fun _ _ => ⟨rfl, trx, past⟩⟩

theorem seckillGoodsFrom_orderly {fuel repeatCount : Nat} :
    Orderly (seckillGoodsFrom this usrName usrKey redisconn connection fuel repeatCount) := by
  induction fuel generalizing repeatCount with
  | zero => exact .ret
  | succ fuel ih =>
    have retry : Orderly (if repeatCount + 1 < RETRYCOUNT then
        seckillGoodsFrom this usrName usrKey redisconn connection fuel (repeatCount + 1)
        else setResult this zero) := by
      split
      · exact ih
      · exact setResult_orderly
    apply watchCount_orderly.bind
    intro count
    cases count with
    | none => exact setResult_orderly
    | some currGoodsCount =>
      show Orderly (if currGoodsCount > 0 then _ else _)
      split
      · apply reserve_orderly.bind
        intro reserved
        cases reserved with
        | true => exact seckillGoodsMysql_orderly
        | false => exact (redisCommand_orderly (by simp)).bind fun _ => retry
      · exact refill_orderly.bind fun _ => setResult_orderly

theorem serveRequest_orderly : Orderly (serveRequest this usrName usrKey redisconn connection) := by
  apply checkUserInfo_orderly.bind
  intro registered
  cases registered with
  | false => exact setResult_orderly
  | true =>
    apply checkUserHasGot_orderly.bind
    intro hasgot
    cases hasgot with
    | true => exact setResult_orderly
    | false =>
      cases redisconn with
      | none => exact seckillGoodsMysql_orderly
      | some c => exact seckillGoodsFrom_orderly

theorem grpc_orderly {c : GrpcCall} (next : c ≠ .next) : Orderly (grpc c) := by
  refine loose_orderly ⟨?_, fun _ => trivial⟩
  cases c <;> trivial

theorem newWorker_orderly : Orderly newWorker :=
  (grpc_orderly (by simp)).bind fun _ => (grpc_orderly (by simp)).bind fun _ =>
    grpc_orderly (by simp)

theorem process_orderly : Orderly (process this redisconn connection) := by
  refine newWorker_orderly.bind fun _ => (grpc_orderly (by simp)).bind fun usrName =>
    (grpc_orderly (by simp)).bind fun usrKey => serveRequest_orderly.bind fun _ => redisClose_orderly.bind fun _ =>
      mysqlClose_orderly.bind fun _ => (grpc_orderly (by simp)).bind fun _ => grpc_orderly (by simp)

theorem proceedAs_orderly {status : WorkerStatus} : Orderly (proceedAs this status) := by
  have get : Orderly redisGetOneConnect := loose_orderly ⟨trivial, fun _ => trivial⟩
  have getSession : Orderly mysqlGetOneConnect := loose_orderly ⟨trivial, fun _ => trivial⟩
  cases status with
  | create => exact (grpc_orderly (by simp)).bind fun _ => grpc_orderly (by simp)
  | process =>
    exact get.bind fun redisconn => getSession.bind fun connection => (grpc_orderly (by simp)).bind
      fun _ => (redisCommand_orderly (by simp)).bind fun _ => process_orderly
  | finish =>
    exact get.bind fun redisconn => (redisCommand_orderly (by simp)).bind fun _ =>
      redisClose_orderly.bind fun _ => grpc_orderly (by simp)

theorem admission_orderly : Orderly admission := by
  have successNum : Orderly (counter .successNum) := loose_orderly ⟨trivial, fun _ => trivial⟩
  have get : Orderly redisGetOneConnect := loose_orderly ⟨trivial, fun _ => trivial⟩
  apply successNum.bind
  intro n
  split
  · refine get.bind fun redisconn => (redisCommand_orderly (by simp)).bind fun reply => ?_
    have close (closed : Bool) : Orderly (do redisClose redisconn; pure !closed : Code Bool) :=
      redisClose_orderly.bind fun _ => .ret
    split
    · exact successNum.bind fun _ => close _
    · exact close false
  · exact .ret

/-- Every program of the server takes what it takes in order. -/
theorem gripping_conforms : gripping.Conforms := by
  refine ⟨⟨rfl, rfl, rfl⟩, fun e => ?_⟩
  cases e with
  | handleRPCS =>
    apply Prog.Keeps.bind (admission_orderly {} ⟨rfl, rfl, rfl⟩)
    intro passed g calm
    cases passed with
    | false => exact calm
    | true =>
      refine ⟨calm, fun _ tag => ?_⟩
      exact ((grpc_orderly (by simp)).bind fun _ => proceedAs_orderly) g calm
  | fallback =>
    refine ⟨⟨rfl, rfl, rfl⟩, fun _ tag => ⟨rfl, fun _ status => ?_⟩⟩
    have proceeds (status : WorkerStatus) : Releases (proceedAs tag status) {} :=
      proceedAs_orderly {} ⟨rfl, rfl, rfl⟩
    cases status with
    | create => exact proceeds .create
    | finish => exact proceeds .finish
    | process =>
      exact ⟨rfl, fun _ connection => ⟨rfl, fun _ _ => process_orderly {} ⟨rfl, rfl, rfl⟩⟩⟩

end Programs

/-! ## Who holds what -/

section Inserts

variable {s x : MysqlState} {m : SessId} {f : Fate}

theorem evict_inserts (alive : SessId → Bool) (pool : List SessId) (s : MysqlState) :
    (MysqlState.evict alive pool s).inserts ⊆ s.inserts := by
  induction pool generalizing s with
  | nil => exact fun _ => id
  | cons dead rest ih =>
    unfold MysqlState.evict
    split
    · exact fun _ => id
    · exact List.Subset.trans (ih _) (List.filter_subset_self _)

/-- Only an `INSERT` leaves a row that was not there. -/
theorem exec_inserts {c : MysqlCall} {r : c.Reply}
    (other : ∀ m name key, c ≠ .query m (.insertOrder name key))
    (done : s.exec c f = some (r, x)) : x.inserts ⊆ s.inserts := by
  have ends (m : SessId) : (s.endTrx m).inserts ⊆ s.inserts := List.filter_subset_self _
  have stmt {m : SessId} {y : MysqlState} (same : y.inserts = s.inserts) :
      (y.stmtDone m).inserts ⊆ s.inserts := by
    unfold MysqlState.stmtDone
    split
    · exact same ▸ List.filter_subset_self _
    · exact same ▸ List.Subset.refl _
  cases c with
  | getOneConnect =>
    obtain ⟨alive, connects, got⟩ := MysqlState.exec_getOneConnect done
    -- closing dead sessions only takes rows away
    obtain ⟨s', evicted, cases⟩ := s.getOneConnect_cases alive connects
    have fewer := evict_inserts alive s.mysqlpool s
    rw [← evicted] at fewer
    obtain ⟨_, _, _, taken⟩ | ⟨_, made⟩ | none := cases
    · rw [taken] at got
      cases got
      exact fewer
    · rw [made] at got
      cases got
      exact fewer
    · rw [none] at got
      cases got
      exact fewer
  | query m' statement =>
    by_cases ran : f = .ok
    · subst ran
      obtain ⟨_, same⟩ := query_ok done
      have after : x = (s.runStmt m' statement).2 := congrArg Prod.snd same
      rw [after]
      cases statement with
      | insertOrder name key => exact absurd rfl (other m' name key)
      | selectUsrKey name | selectOrder name | selectGoods => exact stmt rfl
      | updateGoods count =>
        simp only [MysqlState.runStmt]
        split
        · exact List.Subset.refl _
        · exact stmt rfl
    · cases f <;> simp only [MysqlState.exec, MysqlState.query, reduceCtorEq] at done
      · exact absurd rfl ran
      · cases done
        exact List.Subset.refl _
      · cases done
        exact ends m'
  | close m =>
    cases f <;> cases done
    exact List.Subset.refl _
  | autocommit m mode =>
    cases f <;> cases done
    · cases mode with
      | false => exact List.Subset.refl _
      | true => exact ends m
    · exact List.Subset.refl _
  | fetchRows m =>
    cases f <;> cases done
    all_goals exact List.Subset.refl _
  | rollback m =>
    cases f <;> cases done
    · exact ends m
    · exact List.Subset.refl _
  | commit m =>
    cases f <;> cases done
    · exact ends m
    · exact List.Subset.refl _
    · exact ends m

end Inserts

variable {ok : Condition server} {st : Stores} {h : History server} {cfg : Config server}
  {sv : Server} {s x : MysqlState} {ls : Nat → Local} {gs : Nat → Grip} {t t' : Nat} {m m' : SessId}
  {l : Local} {g : Grip} {locks : OrderLocks}

/-- Whatever is locked is locked by a thread that is where it says. -/
structure Gripped (s : Server) (ls : Nat → Local) (gs : Nat → Grip) : Prop where
  rwlock : ∀ t, s.counters.rwlock = some t → (gs t).inside = true
  off : ∀ m, (s.mysql.session m).autocommit = false →
    ∃ t, (ls t).sql.con = some m ∧ (gs t).trx = true
  rows : ∀ y ∈ s.mysql.inserts, ∃ t, (ls t).sql.con = some y.1 ∧ (gs t).past = true
  texts : ∀ t, (gs t).textless = false

/-- A step that has nothing to do with what is locked. -/
theorem Gripped.keep {s' : Server} (inv : Gripped sv ls gs) (mysql : s'.mysql = sv.mysql)
    (rwlock : s'.counters.rwlock = sv.counters.rwlock) (con : l.sql.con = (ls t).sql.con)
    (inside : g.inside = (gs t).inside) (trx : g.trx = (gs t).trx) (past : g.past = (gs t).past)
    (text : g.textless = false) : Gripped s' (Function.update ls t l) (Function.update gs t g) := by
  have cons := update_eq (fun l : Local => l.sql.con) con
  refine ⟨fun t' held => ?_, fun m off => ?_, fun y member => ?_, ?_⟩
  · rw [update_eq Grip.inside inside]
    exact inv.rwlock t' (rwlock ▸ held)
  · rw [mysql] at off
    obtain ⟨t', held, busy⟩ := inv.off m off
    exact ⟨t', (cons t').trans held, (update_eq Grip.trx trx t').trans busy⟩
  · rw [mysql] at member
    obtain ⟨t', held, gone⟩ := inv.rows y member
    exact ⟨t', (cons t').trans held, (update_eq Grip.past past t').trans gone⟩
  · exact forall_update (P := fun g : Grip => g.textless = false) inv.texts text

/-- What a call on a session leaves of the flags. -/
theorem note_open {c : MysqlCall} {f : Fate} {r : c.Reply} (mode : ∀ m mode, c ≠ .autocommit m mode) :
    (g.note (.mysql c) f r).trx = g.trx ∧ (g.past = true → (g.note (.mysql c) f r).past = true) := by
  cases c with
  | autocommit m mode' => exact absurd rfl (mode m mode')
  | query m stmt => cases stmt <;> first | exact ⟨rfl, id⟩ | exact ⟨rfl, fun _ => rfl⟩
  | getOneConnect | close m | fetchRows m | rollback m | commit m => exact ⟨rfl, id⟩

theorem Gripped.mysql {c : MysqlCall} {f : Fate} {r : c.Reply} (inv : Gripped sv ls gs)
    (sessions : Sessions h sv.mysql ls) (holds : HoldsSessions sv.mysql ls)
    (works : ∀ m mode, c = .autocommit m mode → f = .ok) (allowed : (ls t).AllowsMysql c)
    (on : c.session = some m) (done : sv.mysql.exec c f = some (r, x)) :
    Gripped { sv with mysql := x } (Function.update ls t ((ls t).note (.mysql c) f r))
      (Function.update gs t ((gs t).note (.mysql c) f r)) := by
  have con := allowed_con on allowed
  have own := MysqlState.exec_own (sessions.auto m) on works done
  have get : c ≠ .getOneConnect := by
    rintro rfl
    cases on
  have unswitched (other : ∀ m mode, c ≠ .autocommit m mode) :
      sv.mysql.modeAfter m c = (sv.mysql.session m).autocommit := by
    cases c <;> first | rfl | exact absurd rfl (other _ _)
  -- whoever has another session is another thread
  have others {m' : SessId} (other : m' ≠ m) {t' : Nat} (held : (ls t').sql.con = some m') :
      t' ≠ t := by
    rintro rfl
    exact other (Option.some.inj (held.symm.trans con))
  have still (off : (sv.mysql.session m).autocommit = false) :
      ((ls t).note (.mysql c) f r).sql.con = some m := by
    refine (Local.note_con get fun m' eq => ?_).trans con
    subst eq
    obtain ⟨t', held, busy⟩ := sessions.off m off
    obtain rfl := holds.once held con
    exact busy (congrArg MysqlLocal.phase allowed)
  refine ⟨fun t' held => ?_, fun m' off => ?_, fun y member => ?_, fun t' => ?_⟩
  · have same : ((gs t).note (.mysql c) f r).inside = (gs t).inside := by
      cases c with
      | query m stmt => cases stmt <;> rfl
      | getOneConnect | close m | autocommit m mode | fetchRows m | rollback m | commit m => rfl
    rw [update_eq Grip.inside same]
    exact inv.rwlock t' held
  · by_cases mine : m' = m
    · subst mine
      refine ⟨t, ?_⟩
      rw [Function.update_self, Function.update_self]
      have mode := own.mode.symm.trans off
      by_cases switch : ∃ m mode, c = .autocommit m mode
      · obtain ⟨m, auto, rfl⟩ := switch
        cases on
        change auto = false at mode
        subst mode
        exact ⟨con, rfl⟩
      · have other (m : SessId) (mode : Bool) : c ≠ .autocommit m mode := fun eq => switch ⟨m, mode, eq⟩
        have before := (unswitched other).symm.trans mode
        obtain ⟨t', held, busy⟩ := inv.off m' before
        obtain rfl := holds.once held con
        exact ⟨still before, (note_open other).1.trans busy⟩
    · rw [own.spares.session m' mine] at off
      obtain ⟨t', held, busy⟩ := inv.off m' off
      have other := others mine held
      refine ⟨t', ?_⟩
      rw [Function.update_of_ne other, Function.update_of_ne other]
      exact ⟨held, busy⟩
  · by_cases mine : y.1 = m
    · -- an open row, so the mode is off before and after
      have mode : (x.session m).autocommit = false := by
        by_contra auto
        rw [Bool.not_eq_false, own.mode] at auto
        exact (own.ended auto).rowless y member mine
      have after := own.mode.symm.trans mode
      refine ⟨t, ?_⟩
      rw [Function.update_self, Function.update_self, mine]
      by_cases insert : ∃ m name key, c = .query m (.insertOrder name key)
      · obtain ⟨m', name, key, rfl⟩ := insert
        exact ⟨still after, rfl⟩
      · have fewer := exec_inserts (fun m name key eq => insert ⟨m, name, key, eq⟩) done
        obtain ⟨t', held, gone⟩ := inv.rows y (fewer member)
        obtain rfl := holds.once held (mine ▸ con)
        by_cases switch : ∃ m mode, c = .autocommit m mode
        · obtain ⟨m', auto, rfl⟩ := switch
          cases on
          change auto = false at after
          subst after
          exact ⟨con, by simp [Grip.note, gone]⟩
        · have other (m : SessId) (mode : Bool) : c ≠ .autocommit m mode :=
            fun eq => switch ⟨m, mode, eq⟩
          have before := (unswitched other).symm.trans after
          exact ⟨still before, (note_open other).2 gone⟩
    · have left : y ∈ x.inserts.filter fun y => y.1 != m := by simp [member, mine]
      rw [own.spares.beside.inserts] at left
      obtain ⟨t', held, gone⟩ := inv.rows y (List.mem_filter.mp left).1
      have other := others mine held
      refine ⟨t', ?_⟩
      rw [Function.update_of_ne other, Function.update_of_ne other]
      exact ⟨held, gone⟩
  · have same : ((gs t).note (.mysql c) f r).textless = (gs t).textless := by
      cases c with
      | query m stmt => cases stmt <;> rfl
      | getOneConnect | close m | autocommit m mode | fetchRows m | rollback m | commit m => rfl
    rw [update_eq Grip.textless same]
    exact inv.texts t'

theorem Gripped.getOneConnect {f : Fate} {r : Option SessId} (inv : Gripped sv ls gs)
    (sessions : Sessions h sv.mysql ls) (holds : HoldsSessions sv.mysql ls)
    (without : (ls t).sql.con = none) (done : sv.mysql.exec .getOneConnect f = some (r, x)) :
    Gripped { sv with mysql := x } (Function.update ls t l) gs := by
  have new : (sv.mysql.session sv.mysql.fresh).autocommit = true := by
    by_contra off
    obtain ⟨t', held, _⟩ := sessions.off _ (Bool.not_eq_true _ ▸ off)
    exact Nat.lt_irrefl _ (holds.held_made held)
  obtain ⟨alive, connects, got⟩ := MysqlState.exec_getOneConnect done
  obtain ⟨mode, _, _⟩ := MysqlState.getOneConnect_calms new sessions.auto got
  have fewer : x.inserts ⊆ sv.mysql.inserts := exec_inserts (by simp) done
  have other {m : SessId} {t' : Nat} (held : (ls t').sql.con = some m) : t' ≠ t := by
    rintro rfl
    exact absurd (without.symm.trans held) nofun
  refine ⟨inv.rwlock, fun m off => ?_, fun y member => ?_, inv.texts⟩
  · obtain ⟨t', held, busy⟩ := inv.off m (mode m off)
    exact ⟨t', by rwa [Function.update_of_ne (other held)], busy⟩
  · obtain ⟨t', held, gone⟩ := inv.rows y (fewer member)
    exact ⟨t', by rwa [Function.update_of_ne (other held)], gone⟩

/-- A call on the counters; only the lock matters. -/
theorem Gripped.counter {c : CounterCall} {f : Fate} {r : c.Reply} {y : Counters}
    (inv : Gripped sv ls gs) (con : l.sql.con = (ls t).sql.con)
    (done : sv.counters.exec t c f = some (r, y)) :
    Gripped { sv with counters := y } (Function.update ls t l)
      (Function.update gs t ((gs t).note (.counter c) f r)) := by
  have locked {g : Grip} (rwlock : ∀ t', y.rwlock = some t' → (Function.update gs t g t').inside = true)
      (trx : g.trx = (gs t).trx) (past : g.past = (gs t).past) (text : g.textless = (gs t).textless) :
      Gripped { sv with counters := y } (Function.update ls t l) (Function.update gs t g) := by
    refine ⟨rwlock, fun m off => ?_, fun y member => ?_, fun t' => ?_⟩
    · obtain ⟨t', held, busy⟩ := inv.off m off
      exact ⟨t', (update_eq (fun l : Local => l.sql.con) con t').trans held,
        (update_eq Grip.trx trx t').trans busy⟩
    · obtain ⟨t', held, gone⟩ := inv.rows y member
      exact ⟨t', (update_eq (fun l : Local => l.sql.con) con t').trans held,
        (update_eq Grip.past past t').trans gone⟩
    · exact (update_eq Grip.textless text t').trans (inv.texts t')
  cases Counters.exec_does done with
  | wrlock nobody =>
    refine locked (fun t' mine => ?_) rfl rfl rfl
    cases mine
    rw [Function.update_self]
    rfl
  | unlock => exact locked (fun _ => nofun) rfl rfl rfl
  | failedCount | setFailedCount n | incFailedCount | successNum | incSuccessNum =>
    exact locked (fun t' mine => (update_eq Grip.inside rfl t').trans (inv.rwlock t' mine)) rfl rfl rfl

/-- A reply to `GET` has a text. -/
theorem get_text {d d' : RedisState} {c : ConnId} {f : Fate} {r : Option RedisReply}
    (sent : d.redisCommand c .get f = some (r, d')) : (r.any fun r => r.str.isNone) = false := by
  unfold RedisState.redisCommand at sent
  (repeat' split at sent) <;> cases sent <;> try rfl
  unfold RedisState.serve
  split <;> rfl

theorem gripped (run : Run (meets autocommitWorks) (boot st) h cfg) :
    Gripped cfg.state (locals watch h) (locals gripping h) := by
  refine server_invariant (fun h s ls => Gripped s ls (locals gripping h))
    ?initial ?redis ?mysql ?counter ?grpc ?start (run.obeys gripping_conforms)
  case initial => exact ⟨nofun, fun m off => absurd off nofun, nofun, fun _ => rfl⟩
  case redis =>
    intro h cfg t c f r x _ inv _ _ exec
    have sql : ((locals watch h t).note (.redis c) f r).sql.con = (locals watch h t).sql.con := by simp
    cases c with
    | getOneConnect | close c => exact inv.keep rfl rfl sql rfl rfl rfl (inv.texts t)
    | command c cmd =>
      by_cases get : cmd = .get
      · subst get
        exact inv.keep rfl rfl sql rfl rfl rfl (get_text exec)
      · have same : gripping.note (locals gripping h t) (.redis (.command c cmd)) f r =
            locals gripping h t := by
          cases cmd <;> first | rfl | exact absurd rfl get
        rw [locals_call, same]
        exact inv.keep rfl rfl sql rfl rfl rfl (inv.texts t)
  case mysql =>
    intro h cfg t c f r x run inv met allowed exec
    have worked : Run (meets autocommitWorks) (boot st) h cfg := run.mono fun _ met => met.1
    by_cases get : c = .getOneConnect
    · subst get
      have same : gripping.note (locals gripping h t) (.mysql .getOneConnect) f r =
          locals gripping h t := rfl
      rw [locals_call, same, Function.update_eq_self]
      exact inv.getOneConnect (sessions worked) (sessions_exclusive run)
        (congrArg MysqlLocal.con allowed.1) exec
    · obtain ⟨m, on⟩ : ∃ m, c.session = some m := by
        cases c <;> first | exact absurd rfl get | exact ⟨_, rfl⟩
      refine inv.mysql (sessions worked) (sessions_exclusive run) ?_ allowed on exec
      rintro m mode rfl
      exact Fate.eq_ok met.1
  case counter =>
    intro h cfg t c f r x _ inv _ _ exec
    exact inv.counter (by simp) exec
  case grpc =>
    intro h cfg t c f r x _ inv _ _ _
    have same : gripping.note (locals gripping h t) (.grpc c) f r = locals gripping h t := by
      cases c <;> rfl
    rw [locals_call, same]
    exact inv.keep rfl rfl (by simp) rfl rfl rfl (inv.texts t)
  case start =>
    intro h cfg t e _ inv met settled
    have calm : (locals gripping h t).Calm := met.2
    refine inv.keep rfl rfl ?_ calm.inside.symm calm.trx.symm calm.past.symm rfl
    rw [settled.sql]
    cases e <;> rfl

/-! ## Who waits for whom -/

/-- Session `m` has locked what the statement needs. -/
def MysqlState.Blocks (s : MysqlState) (m : SessId) : Stmt → Prop
  | .selectUsrKey _ => False
  | .selectGoods | .updateGoods _ => s.lock = some m
  | .selectOrder name | .insertOrder name _ => ∃ row, (m, row) ∈ s.inserts ∧ s.sameName name row.usrName

theorem MysqlState.blocked_by {stmt : Stmt} (blocked : s.blocked m stmt = true) :
    ∃ m', m' ≠ m ∧ s.Blocks m' stmt := by
  have rows {name : Str} (found : (s.inserts.any fun x => x.1 != m && s.sameName name x.2.usrName) = true) :
      ∃ m', m' ≠ m ∧ ∃ row, (m', row) ∈ s.inserts ∧ s.sameName name row.usrName := by
    obtain ⟨⟨m', row⟩, member, both⟩ := List.any_eq_true.mp found
    obtain ⟨other, same⟩ := Bool.and_eq_true_iff.mp both
    exact ⟨m', bne_iff_ne.mp other, row, member, same⟩
  have goods (found : s.lock.any (· != m) = true) : ∃ m', m' ≠ m ∧ s.lock = some m' := by
    obtain ⟨m', locked, other⟩ := (Option.any_eq_true _ _).mp found
    exact ⟨m', bne_iff_ne.mp other, locked⟩
  cases stmt with
  | selectUsrKey name => cases blocked
  | selectGoods | updateGoods count => exact goods blocked
  | selectOrder name | insertOrder name key => exact rows blocked

/-- What else a thread has locked with its statement on `order_info`, rows and gaps, that keeps
    a statement of another thread waiting. -/
abbrev OrderLocks := History server → (t : Nat) → Stmt → Prop

/-- The program waits for such a lock of thread `t`. -/
def HeldUp (locks : OrderLocks) (h : History server) (p : Code Unit) (t : Nat) : Prop :=
  (locals gripping h t).past = true ∧
    ∃ m stmt k, p = .call (.mysql (.query m stmt)) k ∧ locks h t stmt

/-- Thread `t` needs what thread `t'` has locked. -/
inductive WaitsFor (locks : OrderLocks) (h : History server) (cfg : Config server) (t t' : Nat) : Prop
  | rwlock {k : Unit → Code Unit} (next : cfg.prog t = .call (.counter .wrlock) k)
      (holds : cfg.state.counters.rwlock = some t')
  | session {m m' : SessId} {stmt : Stmt} {k : Bool → Code Unit}
      (next : cfg.prog t = .call (.mysql (.query m stmt)) k) (other : m' ≠ m)
      (blocks : cfg.state.mysql.Blocks m' stmt) (holds : (locals watch h t').sql.con = some m')
  | orders (held : HeldUp locks h (cfg.prog t) t')

/-- The thread has nothing to do: its turn is over, or it waits for the completion queue. -/
def Resting (p : Code Unit) : Prop := p = .ret () ∨ ∃ k, p = .call (.grpc .next) k

/-- The thread can make its next call, without a fault. -/
def Moves {exec : Nat → (c : Call) → Fate → Server → Option (c.Reply × Server)}
    (cfg : Config (server.via exec)) (t : Nat) : Prop :=
  ∃ c r cfg', c ≠ .grpc .next ∧ Step cfg (.call t c .ok r) cfg'

theorem moves {c : Call} {k : c.Reply → Code Unit} (next : cfg.prog t = .call c k)
    (other : c ≠ .grpc .next) (done : ∃ x, Server.exec t c .ok cfg.state = some x) : Moves cfg t := by
  obtain ⟨⟨r, s⟩, exec⟩ := done
  exact ⟨c, r, _, other, .call next exec⟩

theorem redis_moves {d : RedisState} {c : RedisCall} : ∃ x, d.exec c .ok = some x := by
  cases c with
  | getOneConnect | close c => exact ⟨_, rfl⟩
  | command c cmd =>
    simp only [RedisState.exec, RedisState.redisCommand]
    split <;> exact ⟨_, rfl⟩

theorem mysql_moves {c : MysqlCall} (free : ∀ m stmt, c = .query m stmt → s.blocked m stmt = false) :
    ∃ x, s.exec c .ok = some x := by
  cases c with
  | query m stmt =>
    refine ⟨s.runStmt m stmt, ?_⟩
    rw [MysqlState.exec, MysqlState.query, free m stmt rfl]
    rfl
  | getOneConnect | close m | autocommit m mode | fetchRows m | rollback m | commit m => exact ⟨_, rfl⟩

theorem counter_moves {y : Counters} {c : CounterCall} (free : c = .wrlock → y.rwlock = none) :
    ∃ x, y.exec t c .ok = some x := by
  cases c with
  | wrlock => exact ⟨_, if_pos (free rfl)⟩
  | unlock | failedCount | setFailedCount n | incFailedCount | successNum | incSuccessNum => exact ⟨_, rfl⟩

/-- A call on a `Worker` finds it. -/
theorem grpc_moves {c : GrpcCall} (own : OwnObjects sv.grpc l) (allowed : l.AllowsGrpc c)
    (other : c ≠ .next) : ∃ x, sv.grpc.exec c .ok = some x := by
  have has {w : WorkerId} (has : Has l w) : ∃ x, sv.grpc.worker w = some x := by
    obtain worker | newborn := has
    · exact (own.worker w worker).imp fun _ => And.left
    · exact (own.newborn w newborn).imp fun _ => And.left
  have found {α : Type} {w : WorkerId} (mine : Has l w) (f : WorkerObj → α) :
      ∃ x, (sv.grpc.worker w).map f = some x := by
    obtain ⟨x, found⟩ := has mine
    exact ⟨f x, by rw [found]; rfl⟩
  cases c with
  | next => exact absurd rfl other
  | alloc => exact ⟨_, rfl⟩
  | status w => exact found (Or.inl allowed.1) _
  | setStatus w st =>
    obtain ⟨newborn, _⟩ | ⟨_, worker, _⟩ := allowed
    · exact found (Or.inr newborn) _
    · exact found (Or.inl worker) _
  | requestseckill w =>
    obtain ⟨newborn, _⟩ | ⟨_, worker, _⟩ := allowed
    · exact found (Or.inr newborn) _
    · exact found (Or.inl worker) _
  | usrname w | usrkey w | result w | delete w | setResult w result | finish w result =>
    exact found (Or.inl allowed.1) _

/-- How little a thread may still wait for, by what it has. -/
def waitRank (h : History server) (cfg : Config server) (t : Nat) : Nat :=
  if (locals gripping h t).inside then 0
  else if (locals gripping h t).past then 1
  else if cfg.state.mysql.lock.isSome ∧ (locals watch h t).sql.con = cfg.state.mysql.lock then 2
  else 3

section Rank

variable {h : History server} {cfg : Config server} {t : Nat} {m : SessId}

theorem waitRank_inside (inside : (locals gripping h t).inside = true) : waitRank h cfg t = 0 :=
  if_pos inside

theorem waitRank_past (past : (locals gripping h t).past = true) : waitRank h cfg t ≤ 1 := by
  unfold waitRank
  rw [if_pos past]
  split <;> omega

theorem waitRank_lock (locked : cfg.state.mysql.lock = some m) (con : (locals watch h t).sql.con = some m) :
    waitRank h cfg t ≤ 2 := by
  have both : cfg.state.mysql.lock.isSome ∧ (locals watch h t).sql.con = cfg.state.mysql.lock :=
    ⟨by rw [locked]; rfl, con.trans locked.symm⟩
  unfold waitRank
  rw [if_pos both]
  (repeat' split) <;> omega

variable (outside : (locals gripping h t).inside = false)

include outside

theorem waitRank_outside : 0 < waitRank h cfg t := by
  rw [waitRank, outside, if_neg Bool.false_ne_true]
  (repeat' split) <;> omega

variable (before : (locals gripping h t).past = false)

include before

theorem waitRank_before : 1 < waitRank h cfg t := by
  rw [waitRank, outside, before, if_neg Bool.false_ne_true, if_neg Bool.false_ne_true]
  split <;> omega

theorem waitRank_lockless (other : (locals watch h t).sql.con ≠ cfg.state.mysql.lock) :
    waitRank h cfg t = 3 := by
  rw [waitRank, outside, before, if_neg Bool.false_ne_true, if_neg Bool.false_ne_true,
    if_neg fun both => other both.2]

end Rank

/-- The thread waits for one that has something to do, and less to wait for. -/
def WaitsBelow (locks : OrderLocks) (h : History server) (cfg : Config server) (t : Nat) : Prop :=
  ∃ t', WaitsFor locks h cfg t t' ∧ ¬ Resting (cfg.prog t') ∧ waitRank h cfg t' < waitRank h cfg t

/-- The thread moves, and is not held up. -/
def Proceeds {exec : Nat → (c : Call) → Fate → Server → Option (c.Reply × Server)}
    (locks : OrderLocks) (h : History server) (cfg : Config (server.via exec)) (t : Nat) : Prop :=
  Moves cfg t ∧ ∀ t', ¬ HeldUp locks h (cfg.prog t) t'

/-- A thread that holds something has something to do. -/
theorem holding_busy (run : Run ok (boot st) h cfg) (holds : ¬ (locals gripping h t).Calm) :
    ¬ Resting (cfg.prog t) := by
  rintro (done | ⟨k, next⟩)
  · exact holds (run.settled gripping_conforms done)
  · exact holds (run.allowed gripping_conforms next)

section Supplied

variable (run : Run (meets autocommitWorks) (boot st) h cfg)
  (supplied : ∀ t, Supplied (locals watch h t))

include run supplied

/-- Nobody crashes. -/
theorem never_crashes {why : Crash} {k : (Call.crash why).Reply → Code Unit} :
    cfg.prog t ≠ .call (.crash why) k := by
  intro next
  have supplied := supplied t
  have allowed := run.allowed conforms next
  cases why with
  | nullContext => exact absurd (supplied.context.symm.trans allowed) nofun
  | nullHandle =>
    obtain ⟨none, unit | mode⟩ := allowed
    · exact absurd ((supplied.handle none).symm.trans unit) nofun
    · exact absurd (supplied.mode.symm.trans mode) nofun
  | nullStr =>
    have text := (gripped run).texts t
    exact absurd (text.symm.trans (run.allowed gripping_conforms next).2) nofun

omit supplied in
/-- Who is held up waits for a thread that is past its statement on `order_info`. -/
theorem heldUp_lower (held : HeldUp locks h (cfg.prog t) t') : WaitsBelow locks h cfg t := by
  obtain ⟨past, m, stmt, k, next, locked⟩ := held
  obtain ⟨outside, before⟩ :
      (locals gripping h t).inside = false ∧ (locals gripping h t).past = false :=
    run.allowed gripping_conforms next
  refine ⟨t', .orders ⟨past, m, stmt, k, next, locked⟩, holding_busy run fun calm => ?_, ?_⟩
  · exact absurd (calm.past.symm.trans past) nofun
  · exact Nat.lt_of_le_of_lt (waitRank_past past) (waitRank_before outside before)

/-- Who does not rest moves, or waits for somebody who has more. -/
theorem waits_lower (busy : ¬ Resting (cfg.prog t)) : Moves cfg t ∨ WaitsBelow locks h cfg t := by
  have grips := gripped run
  have sessions := sessions run
  have holds := sessions_exclusive run
  cases next : cfg.prog t with
  | ret a => exact absurd (Or.inl next) busy
  | call c k =>
    have allowed := run.allowed conforms next
    have grip := run.allowed gripping_conforms next
    cases c with
    | crash why => exact absurd next (never_crashes run supplied)
    | grpc c =>
      have other : c ≠ .next := by
        rintro rfl
        exact busy (Or.inr ⟨k, next⟩)
      obtain ⟨x, done⟩ := grpc_moves ((objects run).own t) allowed other
      exact Or.inl (moves next (by simpa using other) ⟨_, congrArg (Option.map _) done⟩)
    | redis c =>
      obtain ⟨x, done⟩ := redis_moves (d := cfg.state.redis) (c := c)
      exact Or.inl (moves next nofun ⟨_, congrArg (Option.map _) done⟩)
    | counter c =>
      by_cases waits : ∃ t', c = .wrlock ∧ cfg.state.counters.rwlock = some t'
      · -- whoever has `rwlock_` is inside its section
        obtain ⟨t', rfl, held⟩ := waits
        have inside := grips.rwlock t' held
        have outside : (locals gripping h t).inside = false := grip
        refine Or.inr ⟨t', .rwlock next held, holding_busy run fun calm => ?_, ?_⟩
        · exact absurd (calm.inside.symm.trans inside) nofun
        · have least : waitRank h cfg t' = 0 := waitRank_inside inside
          rw [least]
          exact waitRank_outside outside
      · have free : c = .wrlock → cfg.state.counters.rwlock = none := by
          intro lock
          by_contra held
          obtain ⟨t', held⟩ := Option.ne_none_iff_exists'.mp held
          exact waits ⟨t', lock, held⟩
        obtain ⟨x, done⟩ := counter_moves (t := t) free
        exact Or.inl (moves next nofun ⟨_, congrArg (Option.map _) done⟩)
    | mysql c =>
      by_cases waits : ∃ m stmt, c = .query m stmt ∧ cfg.state.mysql.blocked m stmt = true
      · obtain ⟨m, stmt, rfl, blocked⟩ := waits
        obtain ⟨outside, before⟩ :
            (locals gripping h t).inside = false ∧ (locals gripping h t).past = false := grip
        obtain ⟨m', other, blocks⟩ := MysqlState.blocked_by blocked
        have con : (locals watch h t).sql.con = some m :=
          allowed_con (c := .query m stmt) rfl allowed
        -- whoever has the row of the goods is in its transaction
        have goods (locked : cfg.state.mysql.lock = some m') : WaitsBelow locks h cfg t := by
          have off : (cfg.state.mysql.session m').autocommit = false := by
            by_contra auto
            exact (sessions.auto m' (Bool.not_eq_false _ ▸ auto)).unlocked locked
          obtain ⟨t', held, trx⟩ := grips.off m' off
          refine ⟨t', .session next other blocks held, holding_busy run fun calm => ?_, ?_⟩
          · exact absurd (calm.trx.symm.trans trx) nofun
          · have lockless : (locals watch h t).sql.con ≠ cfg.state.mysql.lock := by
              rw [con, locked]
              exact fun same => other (Option.some.inj same).symm
            rw [waitRank_lockless outside before lockless]
            exact Nat.lt_succ_of_le (waitRank_lock locked held)
        -- whoever has inserted a row is past its `INSERT`
        have rows {row : OrderRow} (member : (m', row) ∈ cfg.state.mysql.inserts) :
            WaitsBelow locks h cfg t := by
          obtain ⟨t', held, past⟩ := grips.rows _ member
          refine ⟨t', .session next other blocks held, holding_busy run fun calm => ?_, ?_⟩
          · exact absurd (calm.past.symm.trans past) nofun
          · exact Nat.lt_of_le_of_lt (waitRank_past past) (waitRank_before outside before)
        cases stmt with
        | selectUsrKey name => exact absurd blocks id
        | selectGoods | updateGoods count => exact Or.inr (goods blocks)
        | selectOrder name | insertOrder name key =>
          obtain ⟨row, member, _⟩ := blocks
          exact Or.inr (rows member)
      · obtain ⟨x, done⟩ := mysql_moves (s := cfg.state.mysql) (c := c) fun m stmt eq => by
          by_contra blocked
          exact waits ⟨m, stmt, eq, Bool.not_eq_false _ ▸ blocked⟩
        exact Or.inl (moves next nofun ⟨_, congrArg (Option.map _) done⟩)

/-- Whoever does not rest waits in the end for somebody who proceeds. -/
theorem waits_for_mover (busy : ¬ Resting (cfg.prog t)) :
    ∃ t', Relation.ReflTransGen (WaitsFor locks h cfg) t t' ∧ Proceeds locks h cfg t' := by
  have ahead (t : Nat) (busy : ¬ Resting (cfg.prog t)) :
      Proceeds locks h cfg t ∨ WaitsBelow locks h cfg t := by
    by_cases held : ∃ t', HeldUp locks h (cfg.prog t) t'
    · obtain ⟨t', held⟩ := held
      exact Or.inr (heldUp_lower run held)
    · exact (waits_lower run supplied busy).imp_left fun now => ⟨now, not_exists.mp held⟩
  exact reaches_mover (waitRank h cfg) ahead busy

end Supplied

/-- The pools supply what is needed, and `mysql_autocommit` works. -/
def dependable (h : History server) (s : Server) (ev : Event server) : Bool :=
  supplied h s ev && autocommitWorks h s ev

/-- A thread that moves on statements moves on texts, where the requests are verbatim. -/
theorem moves_texts {other : Dialect} {cfg : Config (textServer other)}
    (run : Run (M := textServer other) ok (boot st) h cfg) (verbatim : ∀ q ∈ delivered h, q.Verbatim) :
    Moves cfg.within t ↔ Moves cfg t := by
  have alike {c : Call} {k : c.Reply → Code Unit} (next : cfg.prog t = .call c k) :
      readingTexts other (fun _ => .ok) t c cfg.state = Server.exec t c .ok cfg.state := by
    refine readingTexts_understood (fun _ => .ok) fun m stmt same => ?_
    subst same
    exact next_understood (run_server run verbatim) verbatim next
  constructor
  · rintro ⟨c, r, _, other, step⟩
    cases step with
    | call next exec => exact ⟨c, r, _, other, .call next ((alike next).trans exec)⟩
  · rintro ⟨c, r, _, other, step⟩
    cases step with
    | call next exec => exact ⟨c, r, _, other, .call next ((alike next).symm.trans exec)⟩

/-- Whatever is locked on `order_info`, in every run whose pools supply what is needed, whose
    `mysql_autocommit` works and whose requests are verbatim, a thread that has something to do can
    do it, or waits in a chain of threads for one that can. -/
theorem no_deadlock {other : Dialect} {cfg : Config (textServer other)} (locks : OrderLocks)
    (run : Run (M := textServer other) (meets dependable) (boot st) h cfg)
    (verbatim : ∀ q ∈ delivered h, q.Verbatim) (t : Nat) :
    Resting (cfg.prog t) ∨
      ∃ t', Relation.ReflTransGen (WaitsFor locks h cfg.within) t t' ∧ Proceeds locks h cfg t' := by
  have ran : Run (meets dependable) (boot st) h cfg.within := run_server run verbatim
  have works : Run (meets autocommitWorks) (boot st) h cfg.within :=
    ran.mono fun _ met => (Bool.and_eq_true_iff.mp met).2
  have supplied : Run (meets supplied) (boot st) h cfg.within :=
    ran.mono fun _ met => (Bool.and_eq_true_iff.mp met).1
  refine or_iff_not_imp_left.mpr fun busy => ?_
  obtain ⟨t', chain, now, free⟩ := waits_for_mover works (all_supplied supplied) busy
  exact ⟨t', chain, (moves_texts run verbatim).mp now, free⟩

/-- Whether the next call of a program is a statement. -/
def atStatement : Code Unit → Bool
  | .call (.mysql (.query _ _)) _ => true
  | _ => false

/-- A second thread waits for the row of the goods, which the first one has locked. -/
theorem no_deadlock_at_goods : ∃ (h : History server) (cfg : Config (textServer allKeys)),
    Run (M := textServer allKeys) (meets dependable)
        (boot (agreeing [(['a'], ['k']), (['b'], ['k'])] 5)) h cfg ∧
      (play cfg (.go 1 Fate.ok)).isNone = true ∧
        ∃ t', Relation.ReflTransGen (WaitsFor (fun _ _ _ => True) h cfg.within) 1 t' ∧
          Proceeds (fun _ _ _ => True) h cfg t' := by
  have ran : ((replay (M := textServer allKeys) dependable (queues 0 ⟨0, ['a'], ['k']⟩ ++ go 0 3 ++
      queues 1 ⟨1, ['b'], ['k']⟩ ++ go 1 2) []
      (initial (boot (agreeing [(['a'], ['k']), (['b'], ['k'])] 5)))).any fun x =>
        (play x.2 (.go 1 Fate.ok)).isNone && atStatement (x.2.prog 1) &&
          (delivered x.1).all fun q => decide q.Verbatim) = true := by decide +kernel
  obtain ⟨⟨h, cfg⟩, played, waits⟩ := (Option.any_eq_true _ _).mp ran
  simp only [Bool.and_eq_true, List.all_eq_true, decide_eq_true_eq] at waits
  obtain ⟨⟨stuck, busy⟩, verbatim⟩ := waits
  have run : Run (M := textServer allKeys) (meets dependable) _ h cfg := replay_meets played
  refine ⟨h, cfg, run, stuck,
    (no_deadlock (fun _ _ _ => True) run verbatim 1).resolve_left ?_⟩
  rintro (done | ⟨k, next⟩)
  · rw [done] at busy
    cases busy
  · rw [next] at busy
    cases busy

end Seckill

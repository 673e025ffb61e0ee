import Seckill.Verified.Protocol

/-! # The server's programs follow the protocol

One specification for each function of `Worker.cc` and `HandleRPCS`, for arbitrary
replies.  `Serving` is the assertion at the points between two calls: which connections
are held and where in the Redis, MySQL and lock sections the thread is.  The recursion of
`seckillGoods` is the only loop: its induction is on the fuel, and what carries it is that
the number of attempts lost so far is the `repeatCount` it is entered with.
-/

namespace Seckill

open CStr CallTree Threads

/-- `Prog.Keeps` for the protocol. -/
abbrev Keeps {α : Type} (p : Code α) (l : Local) (post : α → Local → Prop) : Prop :=
  p.Keeps watch.toMonitor l post

/-- The thread serves a request whose `mysql_commit` has not been called. -/
structure Serving (this : WorkerId) (usrName : Str) (atRedis : RedisLocal) (atSql : MysqlLocal)
    (atLock : LockPhase) (l : Local) : Prop where
  redis : l.redis = atRedis
  sql : l.sql = atSql
  lock : l.lock = atLock
  stage : l.stage = .out
  worker : l.job.worker = some this
  newborn : l.job.newborn = none
  branch : l.job.branch = some .process
  marked : l.job.marked = true
  userName : l.job.userName = some usrName
  paid : l.job.paid = false
  owes : l.job.owes = false
  handle : atSql.con = none → l.noHandle = true

/-- The thread serves a request for which no `EXEC` went through yet. -/
structure Asking (this : WorkerId) (usrName usrKey : Str) (checked : Bool) (tries : Nat)
    (atRedis : RedisLocal) (atSql : MysqlLocal) (l : Local) : Prop
    extends Serving this usrName atRedis atSql .free l where
  checked : l.job.checked = checked
  userKey : l.job.userKey = some usrKey
  granted : l.job.granted = false
  unit : l.job.unit = false
  tried : l.job.tries = tries
  mode : atRedis.ctx = none → l.fallback = true

/-- The result of the request is set. -/
structure Answered (this : WorkerId) (atRedis : RedisLocal) (atSql : MysqlLocal) (l : Local) :
    Prop where
  redis : l.redis = atRedis
  sql : l.sql = atSql
  lock : l.lock = .free
  stage : l.stage = .out
  worker : l.job.worker = some this
  newborn : l.job.newborn = none
  branch : l.job.branch = some .process
  marked : l.job.marked = true
  owes : l.job.owes = false
  answer : ∃ a, l.job.answer = some a ∧ l.Answers a

variable {this : WorkerId} {usrName usrKey : Str} {checked : Bool} {tries : Nat} {redis redis' : RedisLocal}
  {sql sql' : MysqlLocal} {lock : LockPhase} {rc : Option ConnId} {mc : Option SessId} {l : Local}

theorem Serving.atWork (serving : Serving this usrName redis sql lock l) : l.AtWork :=
  ⟨by simp [serving.worker], serving.branch⟩

theorem Serving.setSql {p q : MysqlPhase} (serving : Serving this usrName redis ⟨mc, p⟩ lock l) :
    Serving this usrName redis ⟨mc, q⟩ lock (l.setSql q) :=
  { serving with sql := by simp [Local.setSql, serving.sql] }

theorem Serving.setWhy {cause : Cause} (serving : Serving this usrName redis sql lock l) :
    Serving this usrName redis sql lock (l.setWhy cause) :=
  { serving with }

theorem Asking.setPhase {c : ConnId} {p q : RedisPhase}
    (asking : Asking this usrName usrKey checked tries ⟨some c, p⟩ sql l) :
    Asking this usrName usrKey checked tries ⟨some c, q⟩ sql (l.setPhase q) :=
  { asking with redis := by simp [Local.setPhase, asking.redis], mode := nofun }

theorem Asking.setWhy {cause : Cause}
    (asking : Asking this usrName usrKey checked tries redis sql l) :
    Asking this usrName usrKey checked tries redis sql (l.setWhy cause) :=
  { asking with }

theorem Asking.clearWhy (asking : Asking this usrName usrKey checked tries redis sql l) :
    Asking this usrName usrKey checked tries redis sql l.clearWhy :=
  { asking with }

theorem Asking.setSql {p q : MysqlPhase}
    (asking : Asking this usrName usrKey checked tries redis ⟨mc, p⟩ l) :
    Asking this usrName usrKey checked tries redis ⟨mc, q⟩ (l.setSql q) :=
  { asking with sql := by simp [Local.setSql, asking.sql] }

theorem Asking.retried {nil : Bool}
    (asking : Asking this usrName usrKey checked tries redis sql l) :
    Asking this usrName usrKey checked (tries + 1) redis sql (l.retried nil) :=
  { asking with tried := by simp [Local.retried, asking.tried] }

/-- Rows are only read into the protocol after the `SELECT` on the stock. -/
theorem noteRows_of_ne {rows : List (List Str)} (other : l.sql.phase ≠ .selected) :
    l.noteRows rows = l := by
  unfold Local.noteRows
  split
  next selected => exact absurd selected other
  next => rfl

/-! ## The checks -/

theorem checkUserInfoMysql_keeps
    (asking : Asking this usrName usrKey false 0 ⟨none, .free⟩ ⟨mc, .clean⟩ l) :
    Keeps (checkUserInfoMysql usrName usrKey mc) l
      fun _ l' => Asking this usrName usrKey false 0 ⟨none, .free⟩ ⟨mc, .clean⟩ l' := by
  cases mc with
  | none =>
    exact ⟨⟨asking.handle rfl, Or.inr (asking.mode rfl)⟩, nofun⟩
  | some m =>
    refine ⟨⟨by rw [asking.sql], by simp [Local.AllowsStmt, asking.sql]⟩, fun f error => ?_⟩
    cases error with
    | true => exact asking
    | false =>
      change Keeps _ l _
      refine ⟨⟨by rw [asking.sql], Or.inl (by rw [asking.sql])⟩, fun f' rows => ?_⟩
      have same : l.noteRows rows = l := noteRows_of_ne (by simp [asking.sql])
      change Asking _ _ _ _ _ _ _ (l.noteRows rows)
      rwa [same]

theorem checkUserInfo_keeps
    (asking : Asking this usrName usrKey false 0 ⟨rc, .free⟩ ⟨mc, .clean⟩ l) :
    Keeps (checkUserInfo usrName usrKey rc mc) l fun ok l' =>
      Asking this usrName usrKey false 0 ⟨rc, .free⟩ ⟨mc, .clean⟩ l' ∧
        (ok = false → l'.fallback = true ∨ l'.job.why.isSome) := by
  cases rc with
  | none =>
    exact (checkUserInfoMysql_keeps asking).mono fun ok l' after =>
      ⟨after, fun _ => Or.inl (after.mode rfl)⟩
  | some c =>
    refine ⟨⟨by rw [asking.redis], ⟨by rw [asking.redis], asking.granted⟩, asking.atWork,
      by simp [asking.userKey], usrName, asking.userName, rfl⟩, fun f reply => ?_⟩
    have stranger : Asking this usrName usrKey false 0 ⟨some c, .free⟩ ⟨mc, .clean⟩
        { l with job := { l.job with why := some .stranger } } := { asking with }
    cases reply with
    | none => exact ⟨stranger, fun _ => Or.inr rfl⟩
    | some reply =>
      cases reply with
      | string str =>
        change Asking this usrName usrKey false 0 _ _
            { l with job := if l.job.userKey = some (cStr str) then l.job else _ } ∧ _
        by_cases known : l.job.userKey = some (cStr str)
        · rw [if_pos known]
          refine ⟨{ asking with }, fun refused => ?_⟩
          rw [asking.userKey] at known
          exact absurd known (by simpa using refused)
        · rw [if_neg known]
          refine ⟨stranger, fun _ => Or.inr ?_⟩
          simp [Local.note, Local.noteCmd, Job.noteHget, known]
      | nil | status _ | error _ | integer _ | array _ =>
        exact ⟨stranger, fun _ => Or.inr rfl⟩

theorem checkUserHasGotMysql_keeps
    (asking : Asking this usrName usrKey false 0 ⟨none, .free⟩ ⟨mc, .clean⟩ l) :
    Keeps (checkUserHasGotMysql usrName mc) l
      fun _ l' => Asking this usrName usrKey false 0 ⟨none, .free⟩ ⟨mc, .clean⟩ l' := by
  cases mc with
  | none => exact ⟨⟨asking.handle rfl, Or.inr (asking.mode rfl)⟩, nofun⟩
  | some m =>
    refine ⟨asking.sql, fun f _ => ?_⟩
    have off : Asking this usrName usrKey false 0 ⟨none, .free⟩ ⟨some m, .off⟩ (l.setSql .off) :=
      asking.setSql
    change Keeps _ (l.setSql .off) _
    generalize l.setSql .off = l₁ at off
    refine ⟨⟨by rw [off.sql], by simp [Local.AllowsStmt, off.sql]⟩, fun f error => ?_⟩
    cases error with
    | true => exact ⟨Or.inl off.sql, fun f' _ => off.setSql⟩
    | false =>
      change Keeps _ l₁ _
      refine ⟨⟨by rw [off.sql], Or.inr (Or.inl (by rw [off.sql]))⟩, fun f' rows => ?_⟩
      have same : l₁.noteRows rows = l₁ := noteRows_of_ne (by simp [off.sql])
      change Keeps _ (l₁.noteRows rows) _
      rw [same]
      exact ⟨Or.inl off.sql, fun f'' _ => off.setSql⟩

theorem checkUserHasGot_keeps
    (asking : Asking this usrName usrKey false 0 ⟨rc, .free⟩ ⟨mc, .clean⟩ l) :
    Keeps (checkUserHasGot usrName rc mc) l fun got l' =>
      Asking this usrName usrKey (rc.isSome && !got) 0 ⟨rc, .free⟩ ⟨mc, .clean⟩ l' ∧
        (got = true → l'.fallback = true ∨ l'.job.why.isSome) := by
  cases rc with
  | none =>
    exact (checkUserHasGotMysql_keeps asking).mono fun ok l' after =>
      ⟨after, fun _ => Or.inl (after.mode rfl)⟩
  | some c =>
    refine ⟨⟨by rw [asking.redis], ⟨by rw [asking.redis], asking.granted⟩, asking.atWork,
      by simp [asking.userKey], usrName, asking.userName, rfl⟩, fun f reply => ?_⟩
    cases reply with
    | none => exact ⟨{ asking with checked := rfl }, nofun⟩
    | some reply =>
      cases reply with
      | string str => exact ⟨{ asking with checked := rfl }, fun _ => Or.inr rfl⟩
      | nil | status _ | error _ | integer _ | array _ =>
        exact ⟨{ asking with checked := rfl }, nofun⟩

/-! ## Taking an order -/

theorem refuseSale_keeps {m : SessId} (serving : Serving this usrName redis ⟨some m, .off⟩ .free l)
    (refused : l.job.why = some .refused) :
    Keeps (refuseSale this (some m)) l fun _ l' => Answered this redis ⟨some m, .clean⟩ l' := by
  have answers : l.Answers zero :=
    Or.inr ⟨rfl, serving.paid, Or.inr (Or.inl (by simp [refused])), fun _ => refused⟩
  refine ⟨⟨serving.worker, serving.branch, answers⟩, fun f _ => ?_⟩
  refine ⟨Or.inl serving.sql, fun f' _ => ?_⟩
  have clean : Serving this usrName redis ⟨some m, .clean⟩ .free (l.setSql .clean) := serving.setSql
  exact { clean with answer := ⟨zero, rfl, answers⟩ }

theorem failSale_keeps {m : SessId}
    (serving : Serving this usrName redis ⟨some m, .doomed⟩ .free l) (sells : l.MaySell)
    (failed : l.job.why = some .failed) :
    Keeps (failSale this (some m)) l fun _ l' => Answered this redis ⟨some m, .clean⟩ l' := by
  have off : Serving this usrName redis ⟨some m, .off⟩ .free (l.setSql .off) := serving.setSql
  have clean : Serving this usrName redis ⟨some m, .clean⟩ .free (l.setSql .clean) := serving.setSql
  have answers (l' : Local) (paid : l'.job.paid = l.job.paid) (why : l'.job.why = l.job.why)
      (unit : l'.job.unit = false) : l'.Answers zero := by
    refine Or.inr ⟨rfl, ?_, Or.inr (Or.inl ?_), ?_⟩ <;> simp [paid, why, unit, failed, serving.paid]
  refine ⟨serving.sql, fun f _ => ?_⟩
  refine ⟨serving.lock, fun f' _ => ?_⟩
  refine ⟨⟨rfl, sells, rfl, failed⟩, fun f'' _ => ?_⟩
  refine ⟨Or.inl rfl, fun f₃ _ => ?_⟩
  refine ⟨⟨serving.worker, serving.branch, answers _ rfl rfl rfl⟩, fun f₄ _ => ?_⟩
  refine ⟨Or.inl off.sql, fun f₅ _ => ?_⟩
  exact { clean with lock := rfl, answer := ⟨zero, rfl, answers _ rfl rfl rfl⟩ }

theorem bookSale_keeps {m : SessId} {n : Int}
    (serving : Serving this usrName redis ⟨some m, .inserted n⟩ .free l) (sells : l.MaySell) :
    Keeps (bookSale this (some m)) l fun _ l' => Answered this redis ⟨some m, .clean⟩ l' := by
  have clean : Serving this usrName redis ⟨some m, .clean⟩ .free (l.setSql .clean) := serving.setSql
  refine ⟨⟨⟨n, serving.sql⟩, sells, serving.atWork, serving.paid⟩, fun f error => ?_⟩
  refine ⟨⟨serving.worker, serving.branch, Or.inl ⟨rfl, rfl⟩⟩, fun f' _ => ?_⟩
  refine ⟨⟨rfl, serving.stage⟩, fun f'' _ => ?_⟩
  have settles : (l.noteCommit error).sql = ⟨some m, .off⟩ ∨
      ∃ n, (l.noteCommit error).sql = ⟨some m, .tried n⟩ := by
    cases error <;> simp [Local.noteCommit, serving.sql]
  refine ⟨settles, fun f₃ _ => ?_⟩
  exact { clean with owes := rfl, answer := ⟨one, rfl, Or.inl ⟨rfl, rfl⟩⟩ }

theorem sellGoods_keeps {m : SessId} {n : Int}
    (serving : Serving this usrName redis ⟨some m, .locked n⟩ .free l) (sells : l.MaySell)
    (positive : 0 < n) :
    Keeps (sellGoods this usrName usrKey (some m) false n) l
      fun _ l' => Answered this redis ⟨some m, .clean⟩ l' := by
  have con : l.sql.con = some m := by rw [serving.sql]
  have phase : l.sql.phase = .locked n := by rw [serving.sql]
  refine ⟨⟨con, n, phase, positive, rfl⟩, fun f updateError => ?_⟩
  change Keeps _ (l.noteQuery (.updateGoods (n - 1)) updateError) _
  simp only [Local.noteQuery, phase]
  cases updateError with
  | true =>
    -- the transaction is given up; the INSERT is sent all the same
    refine ⟨⟨con, Or.inl rfl, usrName, serving.userName, rfl⟩, fun f' insertError => ?_⟩
    exact failSale_keeps serving.setSql.setWhy sells rfl
  | false =>
    refine ⟨⟨con, Or.inr ⟨n, rfl⟩, usrName, serving.userName, rfl⟩, fun f' insertError => ?_⟩
    cases insertError with
    | true => exact failSale_keeps serving.setSql.setSql.setWhy sells rfl
    | false => exact bookSale_keeps (n := n) serving.setSql.setSql sells

theorem seckillGoodsMysql_keeps
    (serving : Serving this usrName redis ⟨mc, .clean⟩ .free l) (sells : l.MaySell) :
    Keeps (seckillGoodsMysql this usrName usrKey mc) l
      fun _ l' => Answered this redis ⟨mc, .clean⟩ l' := by
  cases mc with
  | none => exact ⟨⟨serving.handle rfl, sells⟩, nofun⟩
  | some m =>
    have con : l.sql.con = some m := by rw [serving.sql]
    refine ⟨serving.sql, fun f _ => ⟨⟨con, rfl, sells⟩, fun f' selError => ?_⟩⟩
    cases selError with
    | true => exact refuseSale_keeps serving.setSql.setSql.setWhy rfl
    | false =>
      refine ⟨⟨con, Or.inr (Or.inr rfl)⟩, fun f'' rows => ?_⟩
      change Keeps _ (Local.noteRows ((l.setSql .off).setSql .selected) rows) _
      by_cases stock : 0 < lastCount rows
      · have locked : Local.noteRows ((l.setSql .off).setSql .selected) rows =
            ((l.setSql .off).setSql .selected).setSql (.locked (lastCount rows)) := if_pos stock
        rw [locked]
        change Keeps (if lastCount rows > 0 then _ else _) _ _
        rw [if_pos stock]
        exact sellGoods_keeps serving.setSql.setSql.setSql sells stock
      · have empty : Local.noteRows ((l.setSql .off).setSql .selected) rows =
            (((l.setSql .off).setSql .selected).setSql .off).setWhy .refused := if_neg stock
        rw [empty]
        change Keeps (if lastCount rows > 0 then _ else _) _ _
        rw [if_neg stock]
        exact refuseSale_keeps serving.setSql.setSql.setSql.setWhy rfl

/-- An answer `"0"` before any `EXEC` went through. -/
theorem answerZero_keeps (asking : Asking this usrName usrKey checked tries redis sql l)
    (reason : l.fallback = true ∨ l.job.why.isSome ∨ l.job.tries = RETRYCOUNT) :
    Keeps (setResult this zero) l fun _ l' => Answered this redis sql l' := by
  have answers : l.Answers zero :=
    Or.inr ⟨rfl, asking.paid, reason, fun unit => by simp [asking.unit] at unit⟩
  refine ⟨⟨asking.worker, asking.branch, answers⟩, fun f _ => ?_⟩
  exact { asking with answer := ⟨zero, rfl, answers⟩ }

variable {c : ConnId}

theorem watchCount_keeps
    (asking : Asking this usrName usrKey checked tries ⟨some c, .free⟩ sql l) :
    Keeps (watchCount (some c)) l fun
      | none, l' =>
        Asking this usrName usrKey checked tries ⟨some c, .free⟩ sql l' ∧ l'.job.why.isSome
      | some count, l' => ∃ v, count = atoi v ∧
          Asking this usrName usrKey checked tries ⟨some c, .counted v⟩ sql l' ∧
          (¬0 < count → l'.job.why.isSome) := by
  refine ⟨⟨by rw [asking.redis], by rw [asking.redis], asking.granted⟩, fun f watchReply => ?_⟩
  change Keeps _ (l.setPhase (if isOK watchReply then .watched else .refused)) _
  cases watched : isOK watchReply with
  | false =>
    -- the `GET` is sent all the same, and its reply is not used
    refine ⟨⟨by simp [Local.setPhase, asking.redis], Or.inl rfl⟩, fun f' reply => ?_⟩
    have refused : Asking this usrName usrKey checked tries ⟨some c, .free⟩ sql
        (((l.setPhase .refused).setPhase .free).setWhy .badReply) := asking.setPhase.setPhase.setWhy
    cases reply with
    | none => exact ⟨refused, rfl⟩
    | some reply =>
      simp only [Prog.bind, watched]
      exact ⟨refused, rfl⟩
  | true =>
    refine ⟨⟨by simp [Local.setPhase, asking.redis], Or.inr rfl⟩, fun f' reply => ?_⟩
    change Keeps _ ((l.setPhase .watched).noteGet reply) _
    have refused : Asking this usrName usrKey checked tries ⟨some c, .free⟩ sql
        (((l.setPhase .watched).setPhase .free).setWhy .badReply) := asking.setPhase.setPhase.setWhy
    cases reply with
    | none => exact ⟨refused, rfl⟩
    | some reply =>
      simp only [Prog.bind, watched, if_true]
      cases text : reply.str with
      -- `atoi` of `NULL`
      | none => exact ⟨trivial, nofun⟩
      | some v =>
        have counted : Asking this usrName usrKey checked tries ⟨some c, .counted v⟩ sql
            ((l.setPhase .watched).setPhase (.counted v)) := asking.setPhase.setPhase
        refine ⟨v, rfl, ?_⟩
        by_cases stock : 0 < atoi v
        · have note : (l.setPhase .watched).noteGet (some reply) =
              ((l.setPhase .watched).setPhase (.counted v)).clearWhy := by
            simp [Local.noteGet, Local.setPhase, text, stock]
          rw [note]
          exact ⟨counted.clearWhy, fun empty => absurd stock empty⟩
        · have note : (l.setPhase .watched).noteGet (some reply) =
              ((l.setPhase .watched).setPhase (.counted v)).setWhy .soldOut := by
            simp [Local.noteGet, Local.setPhase, text, stock]
          rw [note]
          exact ⟨counted.setWhy, fun _ => rfl⟩

theorem reserve_keeps {v : Str}
    (asking : Asking this usrName usrKey true tries ⟨some c, .counted v⟩ sql l)
    (stock : 0 < atoi v) :
    Keeps (reserve usrName usrKey (some c)) l fun
      | true, l' => Serving this usrName ⟨some c, .free⟩ sql .free l' ∧ l'.MaySell
      | false, l' => Asking this usrName usrKey true (tries + 1) ⟨some c, .free⟩ sql l' := by
  have counted : l.redis.phase = .counted v := by rw [asking.redis]
  have ctx : l.redis.ctx = some c := by rw [asking.redis]
  refine ⟨⟨ctx, v, counted, stock⟩, fun f multiReply => ?_⟩
  change Keeps _ (l.noteCmd .multi multiReply) _
  simp only [Local.noteCmd, counted]
  cases opened : isOK multiReply with
  | false =>
    simp only [Prog.bind, opened]
    exact asking.setPhase.retried
  | true =>
    simp only [Prog.bind, opened, if_true]
    refine ⟨⟨ctx, v, rfl⟩, fun f' _ => ?_⟩
    refine ⟨⟨ctx, v, usrName, rfl, asking.userName, rfl⟩, fun f'' _ => ?_⟩
    refine ⟨⟨ctx, ⟨asking.granted, asking.checked, asking.paid⟩, asking.atWork, v, usrName, rfl,
      asking.userName, stock⟩, fun f₃ execReply => ?_⟩
    have queued : Asking this usrName usrKey true tries ⟨some c, .queued v (cStr usrName)⟩ sql
        (((l.setPhase (.opened v)).setPhase (.decred v)).setPhase (.queued v (cStr usrName))) :=
      asking.setPhase.setPhase.setPhase
    match execReply with
    | some (.array elements) =>
      -- only an array of more than one element counts as success
      change Keeps (.ret (decide (1 < elements)))
        (if decide (1 < elements) then Local.grant _ else Local.retried _ _) _
      cases decide (1 < elements) with
      | true => exact ⟨{ queued.setPhase (q := .free) with }, Or.inl rfl⟩
      | false => exact queued.setPhase.retried
    | none | some .nil | some (.status _) | some (.error _) | some (.string _)
    | some (.integer _) => exact queued.setPhase.retried

/-- The refill changes nothing about the request that found the stock sold out. -/
theorem refill_keeps {v : Str}
    (asking : Asking this usrName usrKey checked tries ⟨some c, .counted v⟩ sql l)
    (soldOut : l.job.why.isSome) :
    Keeps (refill (some c)) l fun _ l' =>
      Asking this usrName usrKey checked tries ⟨some c, .free⟩ sql l' ∧ l'.job.why.isSome := by
  have ctx : l.redis.ctx = some c := by rw [asking.redis]
  have free : Asking this usrName usrKey checked tries ⟨some c, .free⟩ sql (l.setPhase .free) :=
    asking.setPhase
  refine ⟨⟨ctx, Or.inr ⟨v, by rw [asking.redis]⟩⟩, fun f _ => ?_⟩
  refine ⟨asking.lock, fun f' _ => ?_⟩
  refine ⟨Or.inl rfl, fun f'' failedCount => ?_⟩
  change Keeps (if failedCount > 0 then _ else _)
    { l.setPhase .free with lock := .saw failedCount failedCount } _
  by_cases failures : failedCount > 0
  · rw [if_pos failures]
    refine ⟨Or.inr ⟨_, _, rfl⟩, fun f₃ again => ?_⟩
    refine ⟨⟨ctx, rfl, failedCount, again, rfl, failures, rfl⟩, fun f₄ setCreply => ?_⟩
    change Keeps (if isOK setCreply then _ else _)
      (if isOK setCreply then { l.setPhase .free with lock := .refilled again }
        else { l.setPhase .free with lock := .saw failedCount again }) _
    cases isOK setCreply with
    | true =>
      refine ⟨⟨rfl, again, rfl⟩, fun f₅ _ => ?_⟩
      exact ⟨Or.inl rfl, fun f₆ _ => ⟨{ free with lock := rfl }, soldOut⟩⟩
    | false => exact ⟨Or.inr ⟨_, _, rfl⟩, fun f₅ _ => ⟨{ free with lock := rfl }, soldOut⟩⟩
  · rw [if_neg failures]
    exact ⟨Or.inr ⟨_, _, rfl⟩, fun f₃ _ => ⟨{ free with lock := rfl }, soldOut⟩⟩

theorem attempt_keeps {retry : Code Unit}
    (asking : Asking this usrName usrKey true tries ⟨some c, .free⟩ ⟨mc, .clean⟩ l)
    (retries : ∀ l',
      Asking this usrName usrKey true (tries + 1) ⟨some c, .free⟩ ⟨mc, .clean⟩ l' →
      Keeps retry l' fun _ l'' => Answered this ⟨some c, .free⟩ ⟨mc, .clean⟩ l'') :
    Keeps (attempt this usrName usrKey (some c) mc retry) l
      fun _ l' => Answered this ⟨some c, .free⟩ ⟨mc, .clean⟩ l' := by
  refine (watchCount_keeps asking).bind fun count l₁ counted => ?_
  cases count with
  | none => exact answerZero_keeps counted.1 (Or.inr (Or.inl counted.2))
  | some currGoodsCount =>
    obtain ⟨v, rfl, counted, soldOut⟩ := counted
    by_cases stock : 0 < atoi v
    · change Keeps (if 0 < atoi v then _ else _) _ _
      rw [if_pos stock]
      refine (reserve_keeps counted stock).bind fun ok l₂ reserved => ?_
      cases ok with
      | true => exact seckillGoodsMysql_keeps reserved.1 reserved.2
      | false =>
        refine ⟨⟨by rw [reserved.redis], Or.inl (by rw [reserved.redis])⟩, fun f _ => ?_⟩
        exact retries _ reserved.setPhase
    · change Keeps (if 0 < atoi v then _ else _) _ _
      rw [if_neg stock]
      refine (refill_keeps counted (soldOut stock)).bind fun _ l₂ refilled => ?_
      exact answerZero_keeps refilled.1 (Or.inr (Or.inl refilled.2))

/-- By induction on the fuel: every activation lost one attempt more than the one before. -/
theorem seckillGoodsFrom_keeps {fuel repeatCount : Nat} (enough : RETRYCOUNT - repeatCount < fuel)
    (more : repeatCount < RETRYCOUNT)
    (asking : Asking this usrName usrKey true repeatCount ⟨some c, .free⟩ ⟨mc, .clean⟩ l) :
    Keeps (seckillGoodsFrom this usrName usrKey (some c) mc fuel repeatCount) l
      fun _ l' => Answered this ⟨some c, .free⟩ ⟨mc, .clean⟩ l' := by
  induction fuel generalizing repeatCount l with
  | zero => exact absurd enough (Nat.not_lt_zero _)
  | succ fuel ih =>
    refine attempt_keeps asking fun l' again => ?_
    by_cases another : repeatCount + 1 < RETRYCOUNT
    · rw [if_pos another]
      exact ih (by omega) another again
    · rw [if_neg another]
      have last : repeatCount + 1 = RETRYCOUNT := by omega
      exact answerZero_keeps again (Or.inr (Or.inr (again.tried.trans last)))

theorem seckillGoods_keeps
    (asking : Asking this usrName usrKey rc.isSome 0 ⟨rc, .free⟩ ⟨mc, .clean⟩ l) :
    Keeps (seckillGoods this usrName usrKey rc mc 0) l
      fun _ l' => Answered this ⟨rc, .free⟩ ⟨mc, .clean⟩ l' := by
  cases rc with
  | none => exact seckillGoodsMysql_keeps asking.toServing (Or.inr (asking.mode rfl))
  | some c => exact seckillGoodsFrom_keeps (by decide) (by decide) asking

/-! ## `Proceed` and the dispatch loop -/

theorem serveRequest_keeps
    (asking : Asking this usrName usrKey false 0 ⟨rc, .free⟩ ⟨mc, .clean⟩ l) :
    Keeps (serveRequest this usrName usrKey rc mc) l
      fun _ l' => Answered this ⟨rc, .free⟩ ⟨mc, .clean⟩ l' := by
  refine (checkUserInfo_keeps asking).bind fun known l₁ checked => ?_
  cases known with
  | false =>
    refine answerZero_keeps checked.1 ?_
    exact (checked.2 rfl).imp_right Or.inl
  | true =>
    refine (checkUserHasGot_keeps checked.1).bind fun got l₂ checked' => ?_
    cases got with
    | true =>
      refine answerZero_keeps checked'.1 ?_
      exact (checked'.2 rfl).imp_right Or.inl
    | false => exact seckillGoods_keeps (by simpa using checked'.1)

/-- The child is registered and forgotten: the record is the one before. -/
theorem newWorker_keeps (newborn : l.job.newborn = none) (ready : l.job.ready = false)
    (branch : l.job.branch = some .process) (stage : l.stage = .out) :
    Keeps newWorker l fun _ l' => l' = l := by
  refine ⟨⟨newborn, branch, stage⟩, fun f child => ?_⟩
  refine ⟨Or.inl ⟨rfl, rfl⟩, fun f' _ => ?_⟩
  refine ⟨Or.inl ?_, fun f'' _ => ?_⟩
  · simp [Local.note, Local.noteGrpc, Job.noteStatus]
  · simp [Local.note, Local.noteGrpc, Job.noteStatus, Job.noteRegistered, ← newborn, ← ready]

theorem redisClose_keeps {sql : MysqlLocal}
    (answered : Answered this ⟨rc, .free⟩ sql l) :
    Keeps (redisClose rc) l fun _ l' => Answered this ⟨none, .free⟩ sql l' := by
  cases rc with
  | none => exact answered
  | some c => exact ⟨answered.redis, fun f _ => { answered with redis := rfl }⟩

theorem mysqlClose_keeps (answered : Answered this redis ⟨mc, .clean⟩ l) :
    Keeps (mysqlClose mc) l fun _ l' => Answered this redis ⟨none, .clean⟩ l' := by
  cases mc with
  | none => exact answered
  | some m => exact ⟨answered.sql, fun f _ => { answered with sql := rfl }⟩

/-- The `PROCESS` branch after `status_ = FINISH`, with or without a context. -/
structure Marked (this : WorkerId) (rc : Option ConnId) (mc : Option SessId) (l : Local) : Prop where
  redis : l.redis = ⟨rc, .free⟩
  sql : l.sql = ⟨mc, .clean⟩
  lock : l.lock = .free
  stage : l.stage = .out
  job : ∃ request, l.job =
    { worker := some this, request := request, branch := some .process, marked := true }
  handle : mc = none → l.noHandle = true
  mode : rc = none → l.fallback = true

theorem process_keeps (marked : Marked this rc mc l) :
    Keeps (process this rc mc) l fun _ l' => l'.Settled := by
  obtain ⟨request, job⟩ := marked.job
  refine (newWorker_keeps (by rw [job]) (by rw [job]) (by rw [job]) marked.stage).bind fun _ l₁ same => ?_
  subst same
  refine ⟨⟨by rw [job], by rw [job], by rw [job]⟩, fun f usrName => ?_⟩
  refine ⟨by simp [Local.Allowed, Local.AllowsGrpc, Local.note, Local.noteGrpc, job],
    fun f' usrKey => ?_⟩
  have asking : Asking this usrName usrKey false 0 ⟨rc, .free⟩ ⟨mc, .clean⟩
      { l₁ with job := { l₁.job with userName := some usrName, userKey := some usrKey } } := by
    constructor <;> try constructor
    all_goals simp [job, marked.redis, marked.sql, marked.lock, marked.stage]
    · exact marked.handle
    · exact marked.mode
  refine (serveRequest_keeps asking).bind fun _ l₂ answered => ?_
  refine (redisClose_keeps answered).bind fun _ l₃ answered => ?_
  refine (mysqlClose_keeps answered).bind fun _ l₄ answered => ?_
  obtain ⟨a, answer, answers⟩ := answered.answer
  refine ⟨⟨answered.worker, answered.branch⟩, fun f'' r => ?_⟩
  refine ⟨⟨answered.worker, answered.newborn, answered.branch, answered.marked, rfl, answered.owes,
    answered.stage, a, answer, answers⟩, fun f₃ _ => ?_⟩
  exact
    { redis := answered.redis
      sql := answered.sql
      lock := answered.lock
      stage := ne_of_eq_of_ne answered.stage nofun
      worker := rfl
      newborn := answered.newborn
      request := rfl
      unit := rfl
      owes := answered.owes }

/-- A thread that `cq_->Next` handed the `Worker` `this`. -/
structure Handed (this : WorkerId) (l : Local) : Prop where
  redis : l.redis = {}
  sql : l.sql = {}
  lock : l.lock = .free
  stage : l.stage = .out
  job : ∃ request, l.job = { worker := some this, request := request }

/-- The thread has let its `Worker` go without ever serving it. -/
theorem Handed.settled {l' : Local} (branch : Option WorkerStatus) (handed : Handed this l)
    (redis : l'.redis = {}) (sql : l'.sql = l.sql) (lock : l'.lock = l.lock)
    (stage : l'.stage = l.stage) (job : l'.job = { branch := branch }) : l'.Settled := by
  constructor <;> simp [redis, sql, lock, stage, job, handed.sql, handed.lock, handed.stage]

theorem createBranch_keeps (handed : Handed this l) :
    Keeps (proceedAs this .create) { l with job := { l.job with branch := some .create } }
      fun _ l' => l'.Settled := by
  obtain ⟨request, job⟩ := handed.job
  refine ⟨Or.inr ⟨by simp [job], by simp [job], Or.inl ⟨rfl, rfl⟩⟩, fun f _ => ?_⟩
  refine ⟨Or.inr ?_, fun f' _ => ?_⟩
  · simp [Local.note, Local.noteGrpc, Job.noteStatus, job]
  · exact handed.settled (some .create) handed.redis rfl rfl rfl
      (by simp [Local.note, Local.noteGrpc, Job.noteStatus, Job.noteRegistered, job])

theorem processBranch_keeps (handed : Handed this l) :
    Keeps (proceedAs this .process) { l with job := { l.job with branch := some .process } }
      fun _ l' => l'.Settled := by
  obtain ⟨request, job⟩ := handed.job
  refine ⟨handed.redis, fun f rc => ?_⟩
  refine ⟨⟨handed.sql, by simp [Local.note, job]⟩, fun f' mc => ?_⟩
  refine ⟨Or.inr ?_, fun f'' _ => ?_⟩
  · simp [Local.note, Local.noteMysql, job]
  cases rc with
  | none => exact ⟨rfl, nofun⟩
  | some c =>
    refine ⟨⟨rfl, rfl, handed.stage⟩, fun f₃ _ => process_keeps ?_⟩
    exact
      { redis := rfl
        sql := rfl
        lock := handed.lock
        stage := handed.stage
        job := ⟨request, by
          simp [Local.note, Local.noteGrpc, Local.noteCmd, Local.noteMysql, Job.noteStatus, job]⟩
        handle := fun none => by subst none; rfl
        mode := nofun }

theorem finishBranch_keeps (handed : Handed this l) :
    Keeps (proceedAs this .finish) { l with job := { l.job with branch := some .finish } }
      fun _ l' => l'.Settled := by
  obtain ⟨request, job⟩ := handed.job
  refine ⟨handed.redis, fun f rc => ?_⟩
  cases rc with
  | none => exact ⟨rfl, nofun⟩
  | some c =>
    refine ⟨⟨rfl, rfl, handed.stage⟩, fun f' _ => ?_⟩
    refine ⟨rfl, fun f'' _ => ?_⟩
    refine ⟨⟨?_, rfl⟩, fun f₃ _ => ?_⟩
    · change l.job.worker = _
      rw [job]
    · exact handed.settled (some .finish) rfl rfl rfl rfl
        (by simp [Local.note, Local.noteGrpc, Local.noteCmd, job])

theorem proceed_keeps (handed : Handed this l) :
    Keeps (proceed this) l fun _ l' => l'.Settled := by
  obtain ⟨request, job⟩ := handed.job
  refine ⟨⟨by rw [job], by rw [job]⟩, fun f status => ?_⟩
  cases status with
  | create => exact createBranch_keeps handed
  | process => exact processBranch_keeps handed
  | finish => exact finishBranch_keeps handed

/-- Whatever `cq_->Next` delivers, the thread has it as its only work. -/
theorem next_keeps {rest : WorkerId → Code Unit} {post : Unit → Local → Prop}
    (redis : l.redis = {}) (sql : l.sql = {}) (lock : l.lock = .free) (stage : l.stage = .pass)
    (job : l.job = {})
    (proceeds : ∀ tag l', Handed tag l' → l'.fallback = l.fallback → Keeps (rest tag) l' post) :
    Keeps (do
      let tag ← grpc .next
      rest tag) l post := by
  refine ⟨⟨job, stage⟩, fun f tag => proceeds tag _ ?_ ?_⟩
  · cases f with
    | deliver w n k => exact ⟨redis, sql, lock, rfl, _, rfl⟩
    | ok | lostBefore | lostAfter | fail | failRollback | connect _ _ | finished _ =>
      exact ⟨redis, sql, lock, rfl, none, rfl⟩
  · cases f <;> rfl

/-- A thread at the gate: it holds nothing but, at most, the context it asks with. -/
structure AtGate (rc : Option ConnId) (l : Local) : Prop where
  redis : l.redis = ⟨rc, .free⟩
  sql : l.sql = {}
  lock : l.lock = .free
  job : l.job = {}
  fallback : l.fallback = false

theorem admission_keeps :
    Keeps admission { stage := .gate } fun admitted l' =>
      AtGate none l' ∧ (admitted = true ↔ l'.stage = .pass) := by
  have gate (rc : Option ConnId) (stage : Stage) :
      AtGate rc { redis := ⟨rc, .free⟩, stage := stage } := ⟨rfl, rfl, rfl, rfl, rfl⟩
  refine ⟨Or.inl rfl, fun f successNum => ?_⟩
  change Keeps (if successNum < 50 then _ else _)
    (if successNum < 50 then { stage := .gate } else { stage := .pass }) _
  by_cases few : successNum < 50
  · rw [if_pos few, if_pos few]
    refine ⟨rfl, fun f' rc => ?_⟩
    cases rc with
    | none => exact ⟨rfl, nofun⟩
    | some c =>
      refine ⟨⟨rfl, rfl, rfl⟩, fun f'' reply => ?_⟩
      match reply with
      | some (.integer workingNum) =>
        refine ⟨Or.inr ⟨workingNum, rfl⟩, fun f₃ successNum' => ⟨rfl, fun f₄ _ => ?_⟩⟩
        refine ⟨⟨rfl, rfl, rfl, rfl, rfl⟩, ?_⟩
        show (!decide (workingNum ≥ 50 - successNum')) = true ↔
          (if workingNum ≥ 50 - successNum' then Stage.shut else .pass) = .pass
        by_cases closed : workingNum ≥ 50 - successNum' <;> simp [closed]
      | none | some .nil | some (.status _) | some (.error _) | some (.string _)
      | some (.array _) =>
        exact ⟨rfl, fun f₃ _ => ⟨⟨rfl, rfl, rfl, rfl, rfl⟩, iff_of_true rfl rfl⟩⟩
  · rw [if_neg few, if_neg few]
    exact ⟨⟨rfl, rfl, rfl, rfl, rfl⟩, iff_of_true rfl rfl⟩

theorem handleRPCS_keeps : Keeps handleRPCS (.begin .handleRPCS) fun _ l => l.Settled := by
  refine admission_keeps.bind fun admitted l gate => ?_
  obtain ⟨gate, passes⟩ := gate
  cases admitted with
  | true =>
    exact next_keeps gate.redis gate.sql gate.lock (passes.mp rfl) gate.job fun tag l' handed _ =>
      proceed_keeps handed
  | false =>
    change l.Settled
    have shut : l.stage ≠ .pass := fun pass => nomatch passes.mpr pass
    constructor <;> simp [gate.redis, gate.sql, gate.lock, gate.job, shut]

theorem fallback_keeps : Keeps fallback (.begin .fallback) fun _ l => l.Settled := by
  refine next_keeps rfl rfl rfl rfl rfl fun tag l handed mode => ?_
  obtain ⟨request, job⟩ := handed.job
  refine ⟨⟨by rw [job], by rw [job]⟩, fun f status => ?_⟩
  cases status with
  | create => exact createBranch_keeps handed
  | finish => exact finishBranch_keeps handed
  | process =>
    refine ⟨⟨handed.sql, by simp [Local.note, Local.noteGrpc, job]⟩, fun f' mc => ?_⟩
    refine ⟨Or.inr ?_, fun f'' _ => process_keeps ?_⟩
    · simp [Local.note, Local.noteGrpc, Local.noteMysql, job]
    exact
      { redis := handed.redis
        sql := rfl
        lock := handed.lock
        stage := handed.stage
        job := ⟨request, by simp [Local.note, Local.noteGrpc, Local.noteMysql, Job.noteStatus, job]⟩
        handle := fun none => by subst none; rfl
        mode := fun _ => mode }

/-- Every turn of every handler thread follows the protocol. -/
theorem conforms : watch.Conforms := by
  refine ⟨by constructor <;> first | rfl | nofun, fun e => ?_⟩
  cases e with
  | handleRPCS => exact handleRPCS_keeps
  | fallback => exact fallback_keeps

end Seckill

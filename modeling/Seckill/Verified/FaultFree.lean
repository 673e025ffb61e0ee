import Seckill.Verified.OrderBooks
import Seckill.Verified.TwoPaths

/-! # Fault-free runs

Where every call succeeds no sale fails: a unit that Redis has granted is neither refused by
MySQL nor counted as failed, so nothing is ever put back, and whoever was granted a unit pays
for it.  That no `INSERT` is refused need not be asked for where the names of the requests
differ in MySQL's comparison.
-/

namespace Seckill

open CStr CallTree Threads Leases

variable {ok : Condition server} {st : Stores} {h h' : History server} {cfg : Config server}
  {s s' : MysqlState} {l : Local} {t N : Nat}

/-! ## Runs in which every call succeeds -/

/-- MySQL answers a statement without an error. -/
def noError : Event server → Bool
  | .call _ (.mysql (.query _ _)) _ error => !error
  | _ => true

/-- Every call on a connection succeeds, and no statement is answered with an error. -/
def faultFree (h : History server) (s : Server) (ev : Event server) : Bool :=
  faultless h s ev && noError ev

theorem faultFree_may {s : Server} {ev : Event server} (works : faultFree h s ev = true) :
    ordersMayFail h s ev = true :=
  faultless_may (Bool.and_eq_true_iff.mp works).1

theorem faultFree_redis {s : Server} {ev : Event server} (works : faultFree h s ev = true) :
    redisWorks h s ev = true :=
  ordersMayFail_redis (faultFree_may works)

theorem faultFree_commits {s : Server} {ev : Event server} (works : faultFree h s ev = true) :
    commitsWork h s ev = true :=
  ordersMayFail_commits (faultFree_may works)

/-- Stores that agree on `N` units and have no orders. -/
structure Opening (N : Nat) (st : Stores) : Prop where
  agree : Agree (boot st)
  orders : st.orderInfo = []
  stock : st.gTotalcount = some N
  range : N < 4294967296

theorem Opening.totalCount (opening : Opening N st) : st.totalCount = decimal N := by
  obtain ⟨n, count, stock⟩ := opening.agree.stock
  have same : (boot st).mysql.gTotalcount = some N := opening.stock
  obtain rfl : n = N := Option.some.inj (stock.symm.trans same)
  exact count

theorem Opening.redisOrders (opening : Opening N st) (name : Str) : name ∉ st.redisOrders := by
  intro member
  obtain ⟨row, member, _⟩ := (opening.agree.orders name).mp member
  have none : (boot st).mysql.orderInfo = [] := opening.orders
  rw [none] at member
  cases member

theorem Opening.books (opening : Opening N st) (run : Run (meets faultFree) (boot st) h cfg) :
    Books False h cfg.state (locals watch h) :=
  Seckill.books opening.range opening.totalCount opening.stock faultFree_may
    (fun impossible => impossible.elim) run

/-! ## No sale fails -/

/-- Between the `SELECT` of the goods and `mysql_commit`. -/
def MysqlPhase.sells : MysqlPhase → Bool
  | .selected | .locked _ | .updated _ | .inserted _ => true
  | .clean | .off | .tried _ | .doomed => false

/-- A thread whose sale has not failed: a grant is paid for, or still in hand, and only a unit in
    hand is sold. -/
structure Smooth (l : Local) : Prop where
  why : l.job.why ≠ some .failed
  kept : l.job.granted = true → l.job.paid = true ∨ l.job.unit = true
  sells : l.sql.phase.sells = true → l.job.unit = true
  sound : l.sql.phase ≠ .doomed

/-- A thread that has nothing to sell yet. -/
theorem Smooth.new (why : l.job.why = none) (granted : l.job.granted = false)
    (clean : l.sql.phase = .clean) : Smooth l where
  why := by simp [why]
  kept := by simp [granted]
  sells := by simp [clean, MysqlPhase.sells]
  sound := by simp [clean]

theorem Smooth.redis {c : RedisCall} {f : Fate} {r : c.Reply} (smooth : Smooth l) :
    Smooth (l.note (.redis c) f r) := by
  have same := l.note_redis (c := c) (f := f) (r := r)
  cases c with
  | getOneConnect | close c => exact ⟨smooth.why, smooth.kept, smooth.sells, smooth.sound⟩
  | command c cmd =>
    by_cases went : cmd = .exec ∧ granted r = true
    · obtain ⟨rfl, went⟩ := went
      have after : l.note (.redis (.command c .exec)) f r = (l.setPhase .free).grant := by
        simp [Local.note, Local.noteCmd, went]
      rw [after]
      exact ⟨by simp [Local.grant], fun _ => Or.inr rfl, fun _ => rfl, smooth.sound⟩
    · have unit : (l.noteCmd cmd r).job.unit = l.job.unit :=
        Local.noteCmd_unit fun exec => by simpa [exec] using went
      have granted : (l.noteCmd cmd r).job.granted = l.job.granted := by
        by_cases exec : cmd = .exec
        · have lost : Seckill.granted r = false := by simpa [exec] using went
          subst exec
          simp [Local.noteCmd, lost, Local.retried, Local.setPhase]
        · exact Local.noteCmd_granted exec
      refine ⟨fun failed => smooth.why (noteCmd_failed failed), fun had => ?_, fun sells => ?_, ?_⟩
      · rw [same.2.2.1]
        exact (smooth.kept (granted.symm.trans had)).imp_right unit.trans
      · rw [same.1] at sells
        exact unit.trans (smooth.sells sells)
      · rw [same.1]
        exact smooth.sound

/-- A sale begins with the `SELECT` of the goods. -/
theorem note_sells {c : MysqlCall} {f : Fate} {r : c.Reply}
    (sells : (l.note (.mysql c) f r).sql.phase.sells = true) :
    (∃ m, c = .query m .selectGoods) ∨
      l.sql.phase.sells = true ∧ ∀ m, c ≠ .commit m := by
  cases c with
  | query m stmt =>
    cases stmt with
    | selectGoods => exact Or.inl ⟨m, rfl⟩
    | selectUsrKey name | selectOrder name => exact Or.inr ⟨sells, by simp⟩
    | updateGoods count | insertOrder name key =>
      refine Or.inr ⟨?_, by simp⟩
      simp only [Local.note, Local.noteMysql, Local.noteQuery] at sells
      split at sells
      next phase => exact congrArg MysqlPhase.sells phase
      next => exact sells
  | fetchRows m =>
    refine Or.inr ⟨?_, by simp⟩
    simp only [Local.note, Local.noteMysql] at sells
    unfold Local.noteRows at sells
    split at sells
    next phase => exact congrArg MysqlPhase.sells phase
    next => exact sells
  | autocommit m mode =>
    simp only [Local.note, Local.noteMysql, Local.setSql] at sells
    split at sells <;> cases sells
  | commit m =>
    simp only [Local.note, Local.noteMysql, Local.noteCommit] at sells
    split at sells <;> cases sells
  | getOneConnect | close m | rollback m => cases sells

/-- Only an error dooms a transaction. -/
theorem note_sound {c : MysqlCall} {f : Fate} {r : c.Reply} (sound : l.sql.phase ≠ .doomed)
    (answered : noError (.call t (.mysql c) f r) = true) :
    (l.note (.mysql c) f r).sql.phase ≠ .doomed := by
  intro doomed
  cases c with
  | query m stmt =>
    have error : r = false := by simpa [noError] using answered
    subst error
    cases stmt with
    | selectGoods => cases doomed
    | selectUsrKey name | selectOrder name => exact sound doomed
    | updateGoods count | insertOrder name key =>
      simp only [Local.note, Local.noteMysql, Local.noteQuery] at doomed
      split at doomed
      next => cases doomed
      next => exact sound doomed
  | fetchRows m =>
    simp only [Local.note, Local.noteMysql] at doomed
    unfold Local.noteRows at doomed
    (repeat' split at doomed) <;> first | exact sound doomed | cases doomed
  | autocommit m mode =>
    simp only [Local.note, Local.noteMysql, Local.setSql] at doomed
    split at doomed <;> cases doomed
  | commit m =>
    simp only [Local.note, Local.noteMysql, Local.noteCommit] at doomed
    split at doomed <;> cases doomed
  | getOneConnect | close m | rollback m => cases doomed

/-- Where no statement is answered with an error, only the count of goods is a reason for MySQL
    to refuse. -/
theorem note_mysql_why {c : MysqlCall} {f : Fate} {r : c.Reply}
    (answered : noError (.call t (.mysql c) f r) = true) :
    (l.note (.mysql c) f r).job.why = l.job.why ∨
      l.sql.phase = .selected ∧ (l.note (.mysql c) f r).job.why = some .refused := by
  cases c with
  | query m stmt =>
    have error : r = false := by simpa [noError] using answered
    subst error
    refine Or.inl ?_
    cases stmt with
    | selectGoods | selectUsrKey name | selectOrder name => rfl
    | updateGoods count | insertOrder name key =>
      simp only [Local.note, Local.noteMysql, Local.noteQuery]
      (repeat' split) <;> first | rfl | contradiction
  | fetchRows m =>
    by_cases selected : l.sql.phase = .selected
    · simp only [Local.note, Local.noteMysql, Local.noteRows, selected]
      split
      · exact Or.inl rfl
      · exact Or.inr ⟨trivial, rfl⟩
    · simp only [Local.note, Local.noteMysql, noteRows_of_ne selected]
      exact Or.inl trivial
  | getOneConnect | close m | autocommit m mode | rollback m | commit m => exact Or.inl rfl

theorem Smooth.mysql {c : MysqlCall} {f : Fate} {r : c.Reply} (smooth : Smooth l)
    (mode : l.fallback = false) (answered : noError (.call t (.mysql c) f r) = true)
    (allowed : l.AllowsMysql c) : Smooth (l.note (.mysql c) f r) := by
  have granted : (l.note (.mysql c) f r).job.granted = l.job.granted := by simp
  constructor
  · intro failed
    obtain same | ⟨_, refused⟩ := note_mysql_why (l := l) answered
    · exact smooth.why (same.symm.trans failed)
    · rw [refused] at failed
      cases failed
  · intro had
    by_cases commit : ∃ m, c = .commit m
    · obtain ⟨m, rfl⟩ := commit
      exact Or.inl rfl
    · obtain ⟨paid, unit, _⟩ :=
        Local.note_mysql_paid (l := l) (f := f) (r := r) fun m eq => commit ⟨m, eq⟩
      rw [paid, unit]
      exact smooth.kept (granted.symm.trans had)
  · intro sells
    obtain ⟨m, rfl⟩ | ⟨before, other⟩ := note_sells sells
    · -- the goods are only looked up for a unit
      have unit := allowed.2.2.resolve_right (by simp [mode])
      simp only [Local.note, Local.noteMysql, Local.noteQuery]
      split <;> exact unit
    · have unit := (Local.note_mysql_paid (l := l) (f := f) (r := r) other).2.1
      exact unit.trans (smooth.sells before)
  · exact note_sound smooth.sound answered

theorem Smooth.counter {c : CounterCall} {f : Fate} {r : c.Reply} (smooth : Smooth l)
    (fails : c ≠ .incFailedCount) : Smooth (l.note (.counter c) f r) := by
  obtain ⟨_, sql, _, _, granted, _, _, why, paid, _⟩ := l.note_counter (c := c) (f := f) (r := r)
  have unit : (l.note (.counter c) f r).job.unit = l.job.unit := by
    simp only [Local.note]
    unfold Local.noteCounter
    (repeat' split) <;> first | rfl | exact absurd rfl fails
  constructor
  · rw [why]
    exact smooth.why
  · rw [granted, paid, unit]
    exact smooth.kept
  · rw [sql, unit]
    exact smooth.sells
  · rw [sql]
    exact smooth.sound

theorem note_next {w : WorkerId} {f : Fate} :
    (l.note (.grpc .next) f w).job.why = none ∧ (l.note (.grpc .next) f w).job.granted = false ∧
      (l.note (.grpc .next) f w).job.tries = 0 := by
  cases f <;> exact ⟨rfl, rfl, rfl⟩

theorem Smooth.grpc {c : GrpcCall} {f : Fate} {r : c.Reply} (smooth : Smooth l)
    (allowed : l.AllowsGrpc c) (sold : ∀ w result, c = .finish w result → l.job.unit = false) :
    Smooth (l.note (.grpc c) f r) := by
  have sql : (l.note (.grpc c) f r).sql = l.sql := l.note_grpc.2.1
  by_cases next : c = .next
  · subst next
    obtain ⟨why, granted, _⟩ := note_next (l := l) (w := r) (f := f)
    have before : l.job.unit = false := by rw [allowed.1]
    refine ⟨by simp [why], by simp [granted], fun sells => ?_, ?_⟩
    · rw [sql] at sells
      exact absurd (before.symm.trans (smooth.sells sells)) Bool.false_ne_true
    · rw [sql]
      exact smooth.sound
  obtain ⟨_, granted, paid, _⟩ := Local.noteGrpc_job (l := l) (f := f) (r := r) next
  by_cases finish : ∃ w result, c = .finish w result
  · obtain ⟨w, result, rfl⟩ := finish
    have none := sold w result rfl
    refine ⟨smooth.why, fun had => Or.inl ?_, fun sells => ?_, smooth.sound⟩
    · -- whose unit is gone has paid for it
      exact (smooth.kept had).resolve_right (by simp [none])
    · exact absurd (none.symm.trans (smooth.sells sells)) Bool.false_ne_true
  · have other (w : WorkerId) (result : Str) : c ≠ .finish w result :=
      fun eq => finish ⟨w, result, eq⟩
    obtain ⟨why, unit, _⟩ := noteGrpc_sale (l := l) (f := f) (r := r) next other
    constructor
    · rw [why]
      exact smooth.why
    · rw [granted, paid, unit]
      exact smooth.kept
    · rw [sql, unit]
      exact smooth.sells
    · rw [sql]
      exact smooth.sound

/-- No failure is ever counted, and none is under way. -/
structure NoFailure (s : Counters) (ls : Nat → Local) : Prop where
  failedCount : s.failedCount = 0
  smooth : ∀ t, Smooth (ls t)

theorem no_failure (opening : Opening N st) (run : Run (meets faultFree) (boot st) h cfg) :
    NoFailure cfg.state.counters (locals watch h) := by
  refine server_invariant (fun _ s ls => NoFailure s.counters ls)
    ?initial ?redis ?mysql ?counter ?grpc ?start run
  case initial => exact ⟨rfl, fun _ => .new rfl rfl rfl⟩
  case redis =>
    intro h cfg t c f r x _ inv _ _ _
    exact ⟨inv.failedCount, forall_update inv.smooth (inv.smooth t).redis⟩
  case mysql =>
    intro h cfg t c f r x run inv met allowed _
    have books := opening.books run
    have answered : noError (.call t (.mysql c) f r) = true := (Bool.and_eq_true_iff.mp met).2
    refine ⟨inv.failedCount, forall_update inv.smooth ?_⟩
    exact (inv.smooth t).mysql (books.mode t) answered allowed
  case counter =>
    intro h cfg t c f r x _ inv _ allowed exec
    have fails : c ≠ .incFailedCount := by
      rintro rfl
      exact (inv.smooth t).why allowed.2.2.2
    refine ⟨?_, forall_update inv.smooth ((inv.smooth t).counter fails)⟩
    cases Counters.exec_does exec with
    | incFailedCount => exact absurd rfl fails
    | setFailedCount n => exact allowed.1
    | wrlock nobody | unlock | failedCount | successNum | incSuccessNum => exact inv.failedCount
  case grpc =>
    intro h cfg t c f r x run inv _ allowed _
    have books := opening.books run
    refine ⟨inv.failedCount, forall_update inv.smooth ((inv.smooth t).grpc allowed ?_)⟩
    rintro w result rfl
    exact books.answered allowed
  case start =>
    intro h cfg t e _ inv _ _
    refine ⟨inv.failedCount, forall_update inv.smooth ?_⟩
    cases e <;> exact .new rfl rfl rfl

/-- So nothing is put back. -/
theorem no_refill {c : ConnId} {value : Str} (opening : Opening N st)
    (run : Run (meets faultFree) (boot st) h cfg)
    (allowed : (locals watch h t).Allowed (.redis (.command c (.set value)))) : False := by
  obtain ⟨_, _, first, last, saw, positive, _⟩ := allowed
  have read := (lock_fits run t).saw first last saw
  have none := (no_failure opening run).failedCount
  omega

/-! ## Names that MySQL tells apart

That no `INSERT` is refused need not be asked for where the names differ in MySQL's comparison.
-/

theorem stmtDone_weight {m : SessId} : (s.stmtDone m).weight = s.weight := by
  unfold MysqlState.stmtDone
  split <;> rfl

theorem evict_weight (alive : SessId → Bool) (pool : List SessId) (s : MysqlState) :
    (MysqlState.evict alive pool s).weight = s.weight := by
  induction pool generalizing s with
  | nil => rfl
  | cons m rest ih =>
    unfold MysqlState.evict
    split
    · rfl
    · exact ih _

theorem getOneConnect_weight {alive : SessId → Bool} {connects : Bool} {r : Option SessId}
    (got : s.getOneConnect alive connects = (r, s')) : s'.weight = s.weight := by
  obtain ⟨s₁, evicted, cases⟩ := s.getOneConnect_cases alive connects
  have same := evict_weight alive s.mysqlpool s
  rw [← evicted] at same
  obtain ⟨_, _, _, taken⟩ | ⟨_, made⟩ | none := cases
  · rw [taken] at got
    cases got
    exact same
  · rw [made] at got
    cases got
    exact same
  · rw [none] at got
    cases got
    exact same

theorem query_weight {m : SessId} {stmt : Stmt} {f : Fate} {error : Bool}
    (sent : s.query m stmt f = some (error, s')) : s'.weight = s.weight := by
  by_cases done : f = .ok
  · subst done
    obtain ⟨_, ran⟩ := query_ok sent
    have after : s' = (s.runStmt m stmt).2 := congrArg Prod.snd ran
    rw [after]
    cases stmt with
    | selectUsrKey name | selectOrder name | selectGoods => exact stmtDone_weight
    | updateGoods count | insertOrder name key =>
      simp only [MysqlState.runStmt]
      split
      · rfl
      · exact stmtDone_weight
  · exact (query_error sent done).1.weight

/-- No call changes how names compare. -/
theorem exec_weight {c : MysqlCall} {f : Fate} {r : c.Reply} (done : s.exec c f = some (r, s')) :
    s'.weight = s.weight := by
  cases c with
  | getOneConnect =>
    obtain ⟨_, _, got⟩ := MysqlState.exec_getOneConnect done
    exact getOneConnect_weight got
  | query m stmt => exact query_weight done
  | close m =>
    cases f <;> cases done
    rfl
  | autocommit m mode =>
    cases f <;> cases done
    · cases mode <;> rfl
    · rfl
  | fetchRows m | rollback m | commit m => cases f <;> cases done <;> rfl

theorem same_weight (run : Run ok (boot st) h cfg) : cfg.state.mysql.weight = st.weight := by
  refine server_invariant (fun _ s _ => s.mysql.weight = st.weight)
    ?initial ?redis ?mysql ?counter ?grpc ?start run
  case initial => rfl
  case redis => exact fun _ inv _ _ _ => inv
  case mysql => exact fun _ inv _ _ exec => (exec_weight exec).trans inv
  case counter => exact fun _ inv _ _ _ => inv
  case grpc => exact fun _ inv _ _ _ => inv
  case start => exact fun _ inv _ _ => inv

/-- No two requests are of names that MySQL takes for the same. -/
def ToldApart (st : Stores) (h : History server) : Prop :=
  (delivered h).Pairwise fun q q' =>
    collate st.weight (cStr q.usrname) ≠ collate st.weight (cStr q'.usrname)

/-- An `UPDATE` of the protocol is in the range of its column. -/
theorem update_served {m : SessId} {count : Int} {error : Bool} (range : N < 4294967296)
    {ls : Nat → Local} (ledger : Ledger N st s ls)
    (allowed : (ls t).AllowsMysql (.query m (.updateGoods count)))
    (ran : (error, s') = s.runStmt m (.updateGoods count)) : error = false := by
  obtain ⟨con, n, locked, positive, rfl⟩ := allowed
  have fits := ledger.fits t m con
  rw [locked] at fits
  obtain ⟨_, _, _, g, stock, same, _⟩ := fits
  obtain ⟨g', _, left, _, sum⟩ := ledger.stock
  obtain rfl : g = g' := Option.some.inj (stock.symm.trans left)
  have fine : ¬(n - 1 < 0 ∨ 4294967295 < n - 1) := by omega
  rw [MysqlState.runStmt, if_neg fine] at ran
  exact congrArg Prod.fst ran

/-- Whoever holds a unit is serving a request. -/
theorem holder_atWork (run : Run ok (boot st) h cfg) :
    ∀ t, (locals watch h t).job.unit = true → (locals watch h t).AtWork := by
  refine server_invariant (fun _ _ ls => ∀ t, (ls t).job.unit = true → (ls t).AtWork)
    ?initial ?redis ?mysql ?counter ?grpc ?start run
  case initial =>
    intro t unit
    cases unit
  case redis =>
    intro h cfg t c f r x _ inv _ allowed _
    have task := ((locals watch h t).note_redis (c := c) (f := f) (r := r)).2.1
    refine forall_update (P := fun l : Local => l.job.unit = true → l.AtWork) inv fun unit => ?_
    rw [Local.AtWork, task]
    cases c with
    | getOneConnect | close c => exact inv t unit
    | command c cmd =>
      -- a thread gets its unit from an `EXEC`, which it sends while it serves
      by_cases exec : cmd = .exec
      · subst exec
        exact allowed.2.2.1
      · exact inv t ((Local.noteCmd_unit fun eq => absurd eq exec).symm.trans unit)
  case mysql =>
    intro h cfg t c f r x _ inv _ _ _
    have task := ((locals watch h t).note_mysql (c := c) (f := f) (r := r)).2.2.2.1
    refine forall_update (P := fun l : Local => l.job.unit = true → l.AtWork) inv fun unit => ?_
    rw [Local.AtWork, task]
    exact inv t (Local.note_mysql_unit unit)
  case counter =>
    intro h cfg t c f r x _ inv _ _ _
    have task := ((locals watch h t).note_counter (c := c) (f := f) (r := r)).2.2.1
    refine forall_update (P := fun l : Local => l.job.unit = true → l.AtWork) inv fun unit => ?_
    rw [Local.AtWork, task]
    exact inv t (Local.note_counter_unit unit)
  case grpc =>
    intro h cfg t c f r x _ inv _ allowed _
    refine forall_update (P := fun l : Local => l.job.unit = true → l.AtWork) inv fun unit => ?_
    have before := inv t (Local.note_grpc_unit unit)
    have branch := before.2
    cases c with
    | alloc | usrname w | usrkey w | setResult w result | result w => exact before
    | setStatus w status =>
      simp only [Local.note, Local.noteGrpc, Job.noteStatus]
      (repeat' split) <;> exact before
    | requestseckill w =>
      obtain ⟨newborn, _⟩ | ⟨_, _, create⟩ := allowed
      · simp only [Local.note, Local.noteGrpc, Job.noteRegistered, if_pos newborn]
        exact before
      · simp [create] at branch
    | status w => simp [allowed.2] at branch
    | delete w => simp [allowed.2] at branch
    | finish w result => cases unit
    | next =>
      rw [Local.AtWork, allowed.1] at before
      cases before.1
  case start =>
    intro h cfg t e _ inv _ _
    refine forall_update (P := fun l : Local => l.job.unit = true → l.AtWork) inv fun unit => ?_
    cases e <;> cases unit

/-- An `INSERT` of the protocol finds no row of its name. -/
theorem insert_served {m : SessId} {name key : Str} {error : Bool} (opening : Opening N st)
    (run : Run (meets faultFree) (boot st) h cfg) (apart : ToldApart st h)
    (allowed : (locals watch h t).AllowsMysql (.query m (.insertOrder name key)))
    (ran : (error, s') = cfg.state.mysql.runStmt m (.insertOrder name key)) : error = false := by
  have sound {h : History server} {s : Server} {ev : Event server}
      (met : meets faultFree h s ev) : SoundMysql h s ev :=
    ordersMayFail_sound (faultFree_may met)
  have ledger := ledger opening.range opening.stock sound run
  have smooth := (no_failure opening run).smooth t
  have books := opening.books run
  obtain ⟨con, doomed | ⟨n, updated⟩, usrName, named, rfl⟩ := allowed
  · exact absurd doomed smooth.sound
  have fits := ledger.fits t m con
  rw [updated] at fits
  have unit := smooth.sells (by rw [updated]; rfl)
  obtain ⟨q, serves, delivered, _⟩ := serving_atWork run (holder_atWork run t unit)
  have unpaid := (books.units t unit).2.1
  have rows : MysqlOrders st h cfg.state.mysql :=
    mysql_orders opening.range opening.stock sound faultFree_commits run
  rw [MysqlOrders, opening.orders, List.map_nil, List.nil_append] at rows
  have marked := orders_marked faultFree_commits run
  have requests := requests run
  have symmetric : Std.Symm fun q q' : Request =>
      collate st.weight (cStr q.usrname) ≠ collate st.weight (cStr q'.usrname) :=
    ⟨fun _ _ => Ne.symm⟩
  -- whose order is committed has another name
  have free : (cfg.state.mysql.orderInfo ++ cfg.state.mysql.ownRows m).any
      (fun o => cfg.state.mysql.sameName o.usrName (cStr usrName)) = false := by
    rw [fits.2.1, List.append_nil, List.any_eq_false]
    intro o member
    have listed := List.mem_map_of_mem (f := OrderRow.usrName) member
    rw [rows, List.mem_reverse] at listed
    obtain ⟨q', ordered, same⟩ := List.mem_map.mp listed
    have known : q' ∈ Seckill.delivered h ∧ q' ≠ q := by
      obtain ⟨t', serves', paid⟩ | ⟨a, answered, rfl, _⟩ := (marked.mem q').mp ordered
      · refine ⟨requests.served t' q' serves', fun eq => ?_⟩
        subst eq
        rw [serving_once run serves' serves] at paid
        exact absurd (unpaid.symm.trans paid) Bool.false_ne_true
      · exact ⟨requests.answered a answered, fun eq => requests.spent a answered t (eq ▸ serves)⟩
    have other := apart.forall known.1 (requests.served t q serves) known.2
    rw [← same, delivered usrName named, MysqlState.sameName, same_weight run]
    simpa using other
  rw [MysqlState.runStmt, if_neg (by simp [free])] at ran
  exact congrArg Prod.fst ran

/-- Where names are told apart, a run in which every call is carried out is fault-free. -/
theorem faultFree_of_faultless (opening : Opening N st) (run : Run (meets faultless) (boot st) h cfg)
    (apart : ToldApart st h) : Run (meets faultFree) (boot st) h cfg := by
  induction run with
  | init => exact .init
  | @step h cfg cfg' ev run met step ih =>
    have before : ToldApart st h := apart.sublist (delivered_suffix (List.suffix_cons _ _)).sublist
    have free := ih before
    refine .step free (Bool.and_eq_true_iff.mpr ⟨met, ?_⟩) step
    cases step with
    | start done => rfl
    | @call t c k f r s next exec =>
      have allowed := run.allowed conforms next
      cases c with
      | redis c | counter c | grpc c => rfl
      | crash why => exact r.elim
      | mysql c =>
        cases c with
        | getOneConnect | close m | autocommit m mode | fetchRows m | rollback m | commit m => rfl
        | query m stmt =>
          obtain ⟨⟨error, x⟩, sent, same⟩ := Option.map_eq_some_iff.mp exec
          cases same
          obtain rfl : f = .ok := Fate.eq_ok met
          obtain ⟨_, ran⟩ := query_ok sent
          have ledger := ledger opening.range opening.stock
            (fun met => ordersMayFail_sound (faultFree_may met)) free
          have none : error = false := by
            cases stmt with
            | selectUsrKey name | selectOrder name | selectGoods => exact congrArg Prod.fst ran
            | updateGoods count => exact update_served opening.range ledger allowed ran
            | insertOrder name key => exact insert_served opening free before allowed ran
          simp [noError, none]

end Seckill

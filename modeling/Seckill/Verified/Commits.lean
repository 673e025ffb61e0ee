import Seckill.Verified.Ledger
import Seckill.Verified.Requests

/-! # What is committed, and when

In runs where `mysql_commit` succeeds it is the only call that changes a committed row:
it adds the order of the request the thread serves and takes one from the stock.  So the
committed orders are those of the run's history, in their order.
-/

namespace Seckill

open CStr CallTree Threads Leases

variable {ok : Condition server} {st : Stores} {h : History server} {cfg : Config server}
  {s s' : MysqlState} {ls : Nat → Local} {m : SessId} {t N : Nat}

/-- Every `mysql_commit` succeeds. -/
def commitsWork : History server → Server → Event server → Bool
  | _, _, .call _ (.mysql (.commit _)) f _ => f.isOk
  | _, _, _ => true

/-- A commit that succeeds says so. -/
theorem commit_reply {f : Fate} {r : Bool} (isOk : f.isOk = true)
    (done : s.exec (.commit m) f = some (r, s')) : r = false ∧ s' = s.commitTrx m := by
  obtain rfl := Fate.eq_ok isOk
  cases done
  exact ⟨rfl, rfl⟩

theorem note_tried {l : Local} {c : MysqlCall} {f : Fate} {r : c.Reply} {n : Int}
    (commit : ∀ m, c ≠ .commit m) (tried : (l.note (.mysql c) f r).sql.phase = .tried n) :
    l.sql.phase = .tried n := by
  cases c with
  | commit m => exact absurd rfl (commit m)
  | query m stmt =>
    simp only [Local.note, Local.noteMysql] at tried
    unfold Local.noteQuery at tried
    (repeat' split at tried) <;> first | exact tried | cases tried
  | fetchRows m =>
    simp only [Local.note, Local.noteMysql] at tried
    unfold Local.noteRows at tried
    (repeat' split at tried) <;> first | exact tried | cases tried
  | autocommit m mode =>
    simp only [Local.note, Local.noteMysql, Local.setSql] at tried
    split at tried <;> cases tried
  | getOneConnect | close m | rollback m => cases tried

/-- No commit is ever left half done. -/
theorem never_tried (commits : ∀ {h s ev}, ok h s ev → commitsWork h s ev = true)
    (run : Run ok (boot st) h cfg) : ∀ t n, (locals watch h t).sql.phase ≠ .tried n := by
  refine server_invariant (fun _ _ ls => ∀ t n, (ls t).sql.phase ≠ .tried n)
    ?initial ?redis ?mysql ?counter ?grpc ?start run
  case initial => exact fun _ _ => nofun
  case redis =>
    intro h cfg t c f r x _ inv _ _ _ t' n tried
    rw [update_eq Local.sql (by simp)] at tried
    exact inv t' n tried
  case mysql =>
    intro h cfg t c f r x _ inv met _ exec
    refine forall_update (P := fun l : Local => ∀ n, l.sql.phase ≠ .tried n) inv fun n tried => ?_
    by_cases commit : ∃ m, c = .commit m
    · obtain ⟨m, rfl⟩ := commit
      obtain ⟨rfl, _⟩ := commit_reply (commits met) exec
      simp only [Local.note, Local.noteMysql, Local.noteCommit] at tried
      split at tried
      · contradiction
      · cases tried
    · exact inv t n (note_tried (fun m eq => commit ⟨m, eq⟩) tried)
  case counter =>
    intro h cfg t c f r x _ inv _ _ _ t' n tried
    rw [update_eq Local.sql (by simp)] at tried
    exact inv t' n tried
  case grpc =>
    intro h cfg t c f r x _ inv _ _ _ t' n tried
    rw [update_eq Local.sql (by simp)] at tried
    exact inv t' n tried
  case start =>
    intro h cfg t e _ inv _ _
    refine forall_update (P := fun l : Local => ∀ n, l.sql.phase ≠ .tried n) inv fun n tried => ?_
    cases e <;> cases tried

/-! ## Calls that commit nothing -/

/-- The committed rows are the same. -/
structure SameCommitted (s s' : MysqlState) : Prop where
  count : s'.gTotalcount = s.gTotalcount
  orders : s'.orderInfo = s.orderInfo

theorem Tame.committed (tame : Tame s s' m) : SameCommitted s s' := ⟨tame.count, tame.orders⟩

theorem evict_committed (alive : SessId → Bool) (pool : List SessId) (s : MysqlState) :
    SameCommitted s (MysqlState.evict alive pool s) := by
  induction pool generalizing s with
  | nil => exact ⟨rfl, rfl⟩
  | cons dead rest ih =>
    unfold MysqlState.evict
    split
    · exact ⟨rfl, rfl⟩
    · have later := ih { s.rollbackTrx dead with connectCount := s.connectCount - 1 }
      exact ⟨later.count, later.orders⟩

theorem getOneConnect_committed {alive : SessId → Bool} {connects : Bool} {r : Option SessId}
    (got : s.getOneConnect alive connects = (r, s')) : SameCommitted s s' := by
  obtain ⟨s₁, evicted, cases⟩ := s.getOneConnect_cases alive connects
  have same := evict_committed alive s.mysqlpool s
  rw [← evicted] at same
  obtain ⟨_, _, _, taken⟩ | ⟨_, made⟩ | none := cases
  · rw [taken] at got
    cases got
    exact ⟨same.count, same.orders⟩
  · rw [made] at got
    cases got
    exact ⟨same.count, same.orders⟩
  · rw [none] at got
    cases got
    exact same

/-- An `INSERT` with autocommit off commits nothing. -/
theorem insert_committed {name key : Str} {f : Fate} {error : Bool}
    (off : (s.session m).autocommit = false)
    (sent : s.query m (.insertOrder name key) f = some (error, s')) : SameCommitted s s' := by
  by_cases done : f = .ok
  · subst done
    obtain ⟨_, ran⟩ := query_ok sent
    simp only [MysqlState.runStmt] at ran
    split at ran
    · cases ran
      exact ⟨rfl, rfl⟩
    · cases ran
      have still : ((s.addInsert m ⟨name, key, ['1', '0']⟩).session m).autocommit = false := off
      rw [stmtDone_off still]
      exact ⟨rfl, rfl⟩
  · exact (query_error sent done).1.committed

theorem query_committed {l : Local} {stmt : Stmt} {f : Fate} {error : Bool}
    (fits : SessionFits s m l.job.userName l.sql.phase) (allowed : l.AllowsStmt stmt)
    (sent : s.query m stmt f = some (error, s')) : SameCommitted s s' := by
  cases stmt with
  | selectUsrKey user =>
    change l.sql.phase = .clean at allowed
    rw [allowed] at fits
    exact (selectUsrKey_fits fits sent).1.committed
  | selectOrder user =>
    change l.sql.phase = .off at allowed
    rw [allowed] at fits
    exact (selectOrder_fits fits sent).1.committed
  | selectGoods =>
    rw [allowed.1] at fits
    exact (selectGoods_fits fits sent).1.committed
  | updateGoods count =>
    obtain ⟨n, locked, _, rfl⟩ := allowed
    rw [locked] at fits
    exact (updateGoods_fits fits sent).1.committed
  | insertOrder user key =>
    have off : (s.session m).autocommit = false := by
      obtain ⟨doomed | ⟨n, updated⟩, _⟩ := allowed
      · rwa [doomed] at fits
      · rw [updated] at fits
        exact fits.2.2.1
    exact insert_committed off sent

/-- Only `mysql_commit` commits anything. -/
theorem mysql_committed {c : MysqlCall} {f : Fate} {r : c.Reply} (ledger : Ledger N st s ls)
    (allowed : (ls t).AllowsMysql c) (commit : ∀ m, c ≠ .commit m)
    (untried : ∀ n, (ls t).sql.phase ≠ .tried n) (done : s.exec c f = some (r, s')) :
    SameCommitted s s' := by
  cases c with
  | commit m => exact absurd rfl (commit m)
  | getOneConnect =>
    obtain ⟨_, _, got⟩ := MysqlState.exec_getOneConnect done
    exact getOneConnect_committed got
  | close m =>
    cases f <;> cases done
    exact ⟨rfl, rfl⟩
  | autocommit m mode =>
    cases mode with
    | false =>
      cases f <;> cases done
      all_goals exact ⟨rfl, rfl⟩
    | true =>
      obtain off | ⟨n, tried⟩ := allowed
      · have fits := ledger.fits t m (by rw [off])
        rw [off] at fits
        have quiet : Quiet s m := fits.1
        cases f <;> cases done
        · -- there is nothing to commit
          have same := (Tame.commitTrx quiet).committed
          exact ⟨same.count, same.orders⟩
        · exact ⟨rfl, rfl⟩
      · exact absurd (by rw [tried]) (untried n)
  | query m stmt => exact query_committed (ledger.fits t m allowed.1) allowed.2 done
  | fetchRows m =>
    cases f <;> cases done
    all_goals exact ⟨rfl, rfl⟩
  | rollback m =>
    cases f <;> cases done
    all_goals exact ⟨rfl, rfl⟩

/-- `mysql_commit` takes one from the stock and adds the order of the thread's request. -/
theorem commit_sells {f : Fate} {r : Bool} (run : Run ok (boot st) h cfg)
    (ledger : Ledger N st cfg.state.mysql (locals watch h)) (isOk : f.isOk = true)
    (allowed : (locals watch h t).AllowsMysql (.commit m))
    (done : cfg.state.mysql.exec (.commit m) f = some (r, s')) :
    r = false ∧ ∃ (k : Nat) (q : Request) (key : Str), serving t h = some q ∧
      cfg.state.mysql.gTotalcount = some (k + 1) ∧ s'.gTotalcount = some k ∧
      s'.orderInfo = cfg.state.mysql.orderInfo ++ [⟨cStr q.usrname, key, ['1', '0']⟩] := by
  obtain ⟨rfl, rfl⟩ := commit_reply isOk done
  obtain ⟨⟨n, sql⟩, _, work, _⟩ := allowed
  have fits := ledger.fits t m (by rw [sql])
  rw [sql] at fits
  obtain ⟨written, ⟨usrName, key, named, rows⟩, _, _, g, count, same, positive⟩ := fits
  obtain ⟨q, serves, delivered, _⟩ := serving_atWork run work
  obtain ⟨k, rfl⟩ : ∃ k, g = k + 1 := ⟨g - 1, by omega⟩
  refine ⟨rfl, k, q, key, serves, count, ?_, ?_⟩
  · have left : (n - 1).toNat = k := by omega
    simp [MysqlState.commitTrx, written, left]
  · simp only [MysqlState.commitTrx, rows, delivered usrName named]

/-! ## Orders in MySQL -/

variable {s₀ : Server}

/-- The rows of `order_info` are the orders of the history. -/
def MysqlOrders (st : Stores) (h : History server) (s : MysqlState) : Prop :=
  s.orderInfo.map OrderRow.usrName =
    st.orderInfo.map OrderRow.usrName ++ ((orders h).map fun q => cStr q.usrname).reverse

theorem mysql_orders (range : N < 4294967296) (start : st.gTotalcount = some N)
    (sound : ∀ {h s ev}, ok h s ev → SoundMysql h s ev)
    (commits : ∀ {h s ev}, ok h s ev → commitsWork h s ev = true) (run : Run ok (boot st) h cfg) :
    MysqlOrders st h cfg.state.mysql := by
  refine server_invariant (fun h s _ => MysqlOrders st h s.mysql)
    ?initial ?redis ?mysql ?counter ?grpc ?start run
  case initial => simp [MysqlOrders, boot, orders]
  case redis => exact fun _ inv _ _ _ => inv
  case mysql =>
    intro h cfg t c f r x run inv met allowed exec
    have ledger := ledger range start sound run
    by_cases commit : ∃ m, c = .commit m
    · obtain ⟨m, rfl⟩ := commit
      obtain ⟨rfl, k, q, key, serves, _, _, rows⟩ :=
        commit_sells run ledger (commits met) allowed exec
      have all : orders (.call t (.mysql (.commit m)) f false :: h) = q :: orders h := by
        simp [orders, serves]
      rw [MysqlOrders, rows, List.map_append, inv, all, List.append_assoc]
      simp
    · have other (m : SessId) : c ≠ .commit m := fun eq => commit ⟨m, eq⟩
      have same := mysql_committed ledger allowed other (never_tried commits run t) exec
      have kept : orders (.call t (.mysql c) f r :: h) = orders h := by
        cases c <;> first | rfl | exact absurd rfl (other _)
      rw [MysqlOrders, same.orders, kept]
      exact inv
  case counter => exact fun _ inv _ _ _ => inv
  case grpc => exact fun _ inv _ _ _ => inv
  case start => exact fun _ inv _ _ => inv

/-- The orders are the requests whose records say they were paid. -/
theorem orders_marked (commits : ∀ {h s ev}, ok h s ev → commitsWork h s ev = true)
    (run : Run ok (boot st) h cfg) : Marks Job.paid (orders h) h (locals watch h) := by
  refine server_invariant (fun h _ ls => Marks Job.paid (orders h) h ls)
    ?initial ?redis ?mysql ?counter ?grpc ?start run
  case initial => exact ⟨fun q => by simp [orders, serving, answers], List.nodup_nil⟩
  case redis =>
    intro h cfg t c f r x _ inv _ _ _
    exact inv.keep (fun _ => rfl) rfl (Or.inr (by simp))
  case mysql =>
    intro h cfg t c f r x run inv met allowed exec
    by_cases commit : ∃ m, c = .commit m
    · obtain ⟨m, rfl⟩ := commit
      obtain ⟨rfl, _⟩ := commit_reply (commits met) exec
      exact inv.add (requests run) (serving_once run) (fun _ => rfl) rfl allowed.2.2.2 rfl
    · have other (m : SessId) : c ≠ .commit m := fun eq => commit ⟨m, eq⟩
      have kept : orders (.call t (.mysql c) f r :: h) = orders h := by
        cases c <;> first | rfl | exact absurd rfl (other _)
      rw [kept]
      exact inv.keep (fun _ => rfl) (by cases c <;> rfl) (Or.inr (Local.note_mysql_paid other).1)
  case counter =>
    intro h cfg t c f r x _ inv _ _ _
    exact inv.keep (fun _ => rfl) rfl (Or.inr (by simp))
  case grpc =>
    intro h cfg t c f r x run inv _ allowed exec
    exact inv.grpc run allowed exec (fun _ _ => rfl) fun next => (Local.noteGrpc_job next).2.2.1
  case start =>
    intro h cfg t e run inv _ settled
    refine inv.keep (fun _ => rfl) rfl (Or.inl ?_)
    rw [serving_eq run]
    exact Task.serving_none settled.request

end Seckill

import Seckill.Verified.Authorization
import Seckill.Verified.Preparation

/-! # Strangers change nothing

Where every request is of a stranger nothing is written in either store, committed or not.
On a first start `prepareForSeckill` leaves `usr_info` empty, and so everybody is a stranger.
-/

namespace Seckill

open CStr CallTree Threads

variable {ok : Condition server} {st : Stores} {h : History server} {cfg : Config server}
  {l : Local} {m : SessId}

/-- The goods and the orders are as they were at first. -/
structure Untouched (st : Stores) (s : Server) : Prop where
  totalCount : s.redis.data.totalCount = st.totalCount
  marks : s.redis.data.orderInfo = st.redisOrders
  stock : s.mysql.gTotalcount = st.gTotalcount
  orders : s.mysql.orderInfo = st.orderInfo
  failed : s.counters.failedCount = 0
  sold : s.counters.successNum = 0

/-- Nothing is written in MySQL, committed or not. -/
structure Unwritten (st : Stores) (s : MysqlState) : Prop where
  stock : s.gTotalcount = st.gTotalcount
  orders : s.orderInfo = st.orderInfo
  inserts : s.inserts = []
  written : ∀ m, (s.session m).written = none

section Unwritten

variable {s x : MysqlState}

/-- A session is changed in something else than what it has written. -/
theorem Unwritten.set (unwritten : Unwritten st s) {y : Session} (none : y.written = none) :
    Unwritten st (s.setSession m y) where
  stock := unwritten.stock
  orders := unwritten.orders
  inserts := unwritten.inserts
  written := forall_update (P := fun y : Session => y.written = Option.none) unwritten.written none

theorem Unwritten.setResult (unwritten : Unwritten st s) {rows : List (List Str)} :
    Unwritten st (s.setResult m rows) := unwritten.set (unwritten.written m)

theorem Unwritten.endTrx (unwritten : Unwritten st s) : Unwritten st (s.endTrx m) where
  stock := unwritten.stock
  orders := unwritten.orders
  inserts := by simp [MysqlState.endTrx, MysqlState.setSession, unwritten.inserts]
  written := forall_update (P := fun y : Session => y.written = Option.none) unwritten.written rfl

theorem Unwritten.commitTrx (unwritten : Unwritten st s) : Unwritten st (s.commitTrx m) where
  stock := by
    rw [MysqlState.commitTrx, unwritten.written m, Option.none_or]
    exact unwritten.stock
  orders := by
    simp [MysqlState.commitTrx, MysqlState.ownRows, unwritten.inserts, unwritten.orders]
  inserts := unwritten.endTrx.inserts
  written := unwritten.endTrx.written

theorem Unwritten.stmtDone (unwritten : Unwritten st s) : Unwritten st (s.stmtDone m) := by
  unfold MysqlState.stmtDone
  split
  · exact unwritten.commitTrx
  · exact unwritten.set (unwritten.written m)

theorem Unwritten.evict (unwritten : Unwritten st s) (alive : SessId → Bool) (pool : List SessId) :
    Unwritten st (MysqlState.evict alive pool s) := by
  induction pool generalizing s with
  | nil => exact ⟨unwritten.stock, unwritten.orders, unwritten.inserts, unwritten.written⟩
  | cons dead rest ih =>
    unfold MysqlState.evict
    split
    · exact ⟨unwritten.stock, unwritten.orders, unwritten.inserts, unwritten.written⟩
    · obtain ⟨stock, orders, inserts, written⟩ := unwritten.endTrx (m := dead)
      exact ih ⟨stock, orders, inserts, written⟩

/-- Without an `UPDATE` or an `INSERT` nothing is written. -/
theorem Unwritten.exec {c : MysqlCall} {f : Fate} {r : c.Reply} (unwritten : Unwritten st s)
    (update : ∀ m count, c ≠ .query m (.updateGoods count))
    (insert : ∀ m name key, c ≠ .query m (.insertOrder name key))
    (done : s.exec c f = some (r, x)) : Unwritten st x := by
  cases c with
  | getOneConnect =>
    obtain ⟨alive, connects, got⟩ := MysqlState.exec_getOneConnect done
    obtain ⟨s', evicted, cases⟩ := s.getOneConnect_cases alive connects
    have after := unwritten.evict alive s.mysqlpool
    rw [← evicted] at after
    obtain ⟨_, _, _, taken⟩ | ⟨_, made⟩ | none := cases
    · rw [taken] at got
      cases got
      exact ⟨after.stock, after.orders, after.inserts, after.written⟩
    · rw [made] at got
      cases got
      have new := after.set (m := s'.fresh) (y := {}) rfl
      exact ⟨new.stock, new.orders, new.inserts, new.written⟩
    · rw [none] at got
      cases got
      exact after
  | query m stmt =>
    by_cases ran : f = .ok
    · subst ran
      obtain ⟨_, same⟩ := query_ok done
      have after : x = (s.runStmt m stmt).2 := congrArg Prod.snd same
      rw [after]
      cases stmt with
      | updateGoods count => exact absurd rfl (update m count)
      | insertOrder name key => exact absurd rfl (insert m name key)
      | selectUsrKey name | selectOrder name => exact unwritten.setResult.stmtDone
      | selectGoods =>
        have locked : Unwritten st (s.takeLock m) :=
          ⟨unwritten.stock, unwritten.orders, unwritten.inserts, unwritten.written⟩
        exact locked.setResult.stmtDone
    · cases f <;> simp only [MysqlState.exec, MysqlState.query, reduceCtorEq] at done
      · exact absurd rfl ran
      · cases done
        exact unwritten
      · cases done
        exact unwritten.endTrx
  | close m =>
    cases f <;> cases done
    exact ⟨unwritten.stock, unwritten.orders, unwritten.inserts, unwritten.written⟩
  | autocommit m mode =>
    cases f <;> cases done
    · cases mode with
      | false => exact unwritten.set (unwritten.written m)
      | true => exact unwritten.commitTrx.set (unwritten.commitTrx.written m)
    · exact unwritten
  | fetchRows m =>
    cases f <;> cases done
    all_goals exact unwritten.set (unwritten.written m)
  | rollback m =>
    cases f <;> cases done
    · exact unwritten.endTrx
    · exact unwritten
  | commit m =>
    cases f <;> cases done
    · exact unwritten.commitTrx
    · exact unwritten
    · exact unwritten.endTrx

end Unwritten

/-- Where all requests are of strangers nobody is vouched for. -/
theorem never_vouched (run : Run ok (boot st) h cfg)
    (strangers : ∀ q ∈ delivered h, ¬ st.Registers q) (t : Nat) :
    (locals vouching h t).vouched ≠ true := by
  intro heard
  obtain ⟨q, _, member, registered, _⟩ := vouched_serving run heard
  exact strangers q member registered

theorem command_untouched {s x : RedisState} {c : ConnId} {cmd : RedisCmd} {f : Fate}
    {r : Option RedisReply} {v : Voucher} (fits : InStep s l) (ctx : l.redis.ctx = some c)
    (allowed : l.AllowsCmd cmd) (asked : v.Allows (.redis (.command c cmd)))
    (unheard : v.vouched ≠ true) (sent : s.redisCommand c cmd f = some (r, x)) :
    x.data.totalCount = s.data.totalCount ∧ x.data.orderInfo = s.data.orderInfo := by
  obtain same | ⟨healthy, data⟩ := RedisState.redisCommand_data sent
  · rw [same]
    exact ⟨rfl, rfl⟩
  have fits := fits c ctx healthy
  have exec : cmd ≠ .exec := by
    rintro rfl
    exact unheard asked
  have set (value : Str) : cmd ≠ .set value := by
    rintro rfl
    exact unheard asked
  have decr : cmd ≠ .decr := by
    rintro rfl
    exact unheard asked
  rw [data, serve_untouched exec set fun eq => absurd eq decr, (serve_hashes fits allowed exec).1]
  exact ⟨rfl, rfl⟩

theorem strangers_untouched (run : Run ok (boot st) h cfg)
    (strangers : ∀ q ∈ delivered h, ¬ st.Registers q) : Untouched st cfg.state := by
  have untouched : Untouched st cfg.state ∧ Unwritten st cfg.state.mysql := by
    have before {h : History server} {ev : Event server}
        (strangers : ∀ q ∈ delivered (ev :: h), ¬ st.Registers q) :
        ∀ q ∈ delivered h, ¬ st.Registers q :=
      fun q member => strangers q (delivered_cons ev q member)
    refine server_invariant (fun h s _ => (∀ q ∈ delivered h, ¬ st.Registers q) →
        Untouched st s ∧ Unwritten st s.mysql)
      ?initial ?redis ?mysql ?counter ?grpc ?start (run.obeys vouching_conforms) strangers
    case initial => exact fun _ => ⟨⟨rfl, rfl, rfl, rfl, rfl, rfl⟩, ⟨rfl, rfl, rfl, fun _ => rfl⟩⟩
    case redis =>
      intro h cfg t c f r x run inv met allowed exec strangers
      obtain ⟨⟨count, marks, stock, orders, failed, sold⟩, unwritten⟩ := inv (before strangers)
      cases RedisState.exec_does exec with
      | getOneConnect got =>
        have data := RedisState.getOneConnect_data got
        exact ⟨⟨(congrArg RedisData.totalCount data).trans count,
          (congrArg RedisData.orderInfo data).trans marks, stock, orders, failed, sold⟩, unwritten⟩
      | close c => exact ⟨⟨count, marks, stock, orders, failed, sold⟩, unwritten⟩
      | command c cmd sent =>
        obtain ⟨sameCount, sameMarks⟩ := command_untouched ((watches run).fits t) allowed.1 allowed.2
          met.2 (never_vouched run (before strangers) t) sent
        exact ⟨⟨sameCount.trans count, sameMarks.trans marks, stock, orders, failed, sold⟩, unwritten⟩
    case mysql =>
      intro h cfg t c f r x run inv met _ exec strangers
      obtain ⟨⟨count, marks, stock, orders, failed, sold⟩, unwritten⟩ := inv (before strangers)
      have unheard := never_vouched run (before strangers) t
      have after : Unwritten st x := by
        refine unwritten.exec (fun m count eq => ?_) (fun m name key eq => ?_) exec
        · subst eq
          exact unheard met.2.2
        · subst eq
          exact unheard met.2.2.1
      exact ⟨⟨count, marks, after.stock, after.orders, failed, sold⟩, after⟩
    case counter =>
      intro h cfg t c f r x run inv met _ exec strangers
      obtain ⟨⟨count, marks, stock, orders, failed, sold⟩, unwritten⟩ := inv (before strangers)
      have unheard := never_vouched run (before strangers) t
      cases Counters.exec_does exec with
      | setFailedCount n => exact absurd met.2 unheard
      | incFailedCount => exact absurd met.2 unheard
      | incSuccessNum => exact absurd met.2 unheard
      | wrlock nobody => exact ⟨⟨count, marks, stock, orders, failed, sold⟩, unwritten⟩
      | unlock | failedCount | successNum =>
        exact ⟨⟨count, marks, stock, orders, failed, sold⟩, unwritten⟩
    case grpc =>
      intro h cfg t c f r x _ inv _ _ _ strangers
      obtain ⟨⟨count, marks, stock, orders, failed, sold⟩, unwritten⟩ := inv (before strangers)
      exact ⟨⟨count, marks, stock, orders, failed, sold⟩, unwritten⟩
    case start => exact fun _ inv _ _ strangers => inv (before strangers)
  exact untouched.1

theorem strangers_refused (run : Run ok (boot st) h cfg)
    (strangers : ∀ q ∈ delivered h, ¬ st.Registers q) : ∀ a ∈ answers h, a.result = zero := by
  intro a member
  obtain ⟨told, paid⟩ | ⟨told, _⟩ := (given run a member).answers
  · obtain ⟨⟨_, past⟩, serves, _, _⟩ := given run a member
    have registered := paid_authorized past a.thread a.request serves paid
    exact absurd registered (strangers _ ((requests run).answered a member))
  · exact told

/-- Requests of strangers change nothing of the goods and the orders, whatever fails. -/
theorem strangers_change_nothing (run : Run ok (boot st) h cfg)
    (verbatim : ∀ q ∈ delivered h, q.Verbatim)
    (strangers : ∀ q ∈ delivered h, ¬ st.Registers q) :
    Understood h ∧ Untouched st cfg.state ∧ ∀ a ∈ answers h, a.result = zero :=
  ⟨run_understood run verbatim, strangers_untouched run strangers, strangers_refused run strangers⟩

theorem strangers_change_nothing_one :
    ∃ h cfg, Run anything (boot (agreeing [(['a'], ['k'])] 50)) h cfg ∧ (answers h).length = 1 ∧
      Understood h ∧ Untouched (agreeing [(['a'], ['k'])] 50) cfg.state ∧
        ∀ a ∈ answers h, a.result = zero := by
  have ran : ((replay (fun _ _ _ => true) (takes 0 ⟨0, ['a'], ['x']⟩ ++ go 0 16) []
      (initial (boot (agreeing [(['a'], ['k'])] 50)))).any fun x => (answers x.1).length == 1 &&
        (delivered x.1).all fun q => q.usrname == ['a'] && q.usrkey == ['x']) = true := by
    decide +kernel
  obtain ⟨⟨h, cfg⟩, played, given⟩ := (Option.any_eq_true _ _).mp ran
  simp only [Bool.and_eq_true, beq_iff_eq, List.all_eq_true] at given
  have run : Run anything _ h cfg := replay_meets played
  refine ⟨h, cfg, run, given.1, strangers_change_nothing run (fun q member => ?_) fun q member => ?_⟩
  · obtain ⟨name, key⟩ := given.2 q member
    rw [Request.Verbatim, name, key]
    decide
  · obtain ⟨name, key⟩ := given.2 q member
    rw [Stores.Registers, name, key]
    rintro (⟨str, found, same⟩ | ⟨u, listed, _, same⟩)
    · have stored : (agreeing [(['a'], ['k'])] 50).redisUsers.lookup (cStr ['a']) = some ['k'] := by
        decide
      cases stored.symm.trans found
      exact absurd same (by decide)
    · cases List.mem_singleton.mp listed
      exact absurd same (by decide)

/-- On a database without users `prepareForSeckill` makes none, and whatever is asked of the server
    it starts, all goods stay unsold. -/
theorem first_start_sells_nothing {works : SetupCall → Bool} {s : Setup}
    (generateMD5 : Str → Fin 16 → UInt8) (redisMax mysqlMax : UInt32) (succeeds : Succeeds works s)
    (absent : s.db.usrInfo = none) (stale : fields (s.redis usrInfoKey) = ∅) :
    ∃ s', (Prepare.prepareForSeckill generateMD5).alone (Setup.exec works) s = some ((), s') ∧
      ∀ (ok : Condition server) (h : History server) (cfg : Config server),
        Run ok (boot (s'.stores redisMax mysqlMax)) h cfg →
          (∀ q ∈ delivered h, q.Verbatim) → Understood h ∧ (∀ a ∈ answers h, a.result = zero) ∧
            cfg.state.mysql.gTotalcount = some 50 ∧ cfg.state.mysql.orderInfo = [] ∧
              cfg.state.redis.data.orderInfo = ∅ := by
  obtain ⟨_, s', ends, left⟩ : (Prepare.prepareForSeckill generateMD5).Ends _ s _ :=
    prepareForSeckill_ends succeeds
  refine ⟨s', ends, fun ok h cfg run verbatim => ?_⟩
  have nobody (q : Request) : ¬ (s'.stores redisMax mysqlMax).Registers q := by
    rintro (⟨str, found, _⟩ | ⟨u, listed, _⟩)
    · have none := left.users (cStr q.usrname)
      rw [absent, stale] at none
      cases none.symm.trans found
    · simp only [Setup.stores, left.usrInfo, absent, Option.getD_none, Option.getD_some] at listed
      cases listed
  have untouched := strangers_untouched run fun q _ => nobody q
  refine ⟨run_understood run verbatim, strangers_refused run fun q _ => nobody q,
    untouched.stock.trans ?_, untouched.orders.trans ?_, untouched.marks.trans ?_⟩
  · have same : s'.db.sameText = s.db.sameText := by
      funext a b
      simp only [Database.sameText, left.weight]
    simpa [Setup.stores, left.goodsInfo, same] using upsert_find s.db (s.db.goodsInfo.getD [])
  · simp [Setup.stores, left.orderInfo]
  · simp [Setup.stores, left.orders, fields]

theorem first_start_sells_nothing_empty :
    ∃ s', (Prepare.prepareForSeckill fun _ _ => 0).alone (Setup.exec fun _ => true)
        (found none fun _ => none) = some ((), s') ∧
      ∀ (ok : Condition server) (h : History server) (cfg : Config server),
        Run ok (boot (s'.stores 100 30)) h cfg →
          (∀ q ∈ delivered h, q.Verbatim) → Understood h ∧ (∀ a ∈ answers h, a.result = zero) ∧
            cfg.state.mysql.gTotalcount = some 50 ∧ cfg.state.mysql.orderInfo = [] ∧
              cfg.state.redis.data.orderInfo = ∅ :=
  first_start_sells_nothing (fun _ _ => 0) 100 30 ⟨fun _ => rfl, fun _ => rfl, nofun⟩ rfl rfl

end Seckill

import Seckill.Verified.StockConservation
import Seckill.Verified.TextRuns

/-! # The two order books

Redis has a user in `order_info` from the `EXEC` on, MySQL from the commit on, and nothing takes
the mark in Redis back when the sale fails.  So the two agree at rest as long as a statement
fails only for a user who has a row already, or for whom another request still holds a unit.
-/

namespace Seckill

open CStr CallTree Threads Leases

variable {ok : Condition server} {st : Stores} {h h' : History server} {cfg : Config server}
  {ls : Nat → Local} {l : Local} {t N : Nat} {s s' : MysqlState}

/-- A committed order of exactly this name. -/
def hasRow (s : MysqlState) (name : Str) : Bool := s.orderInfo.any fun o => o.usrName == name

/-- The thread holds a unit that it may still sell. -/
def Local.live (l : Local) : Bool := l.job.unit && l.job.why != some .failed

/-- A thread other than `t` may still sell a unit to this user. -/
def soldElsewhere (h : History server) (t : Nat) (name : Str) : Bool :=
  (inFlight h).any fun t' => t' != t && (locals watch h t').live &&
    (serving t' h).any fun q => cStr q.usrname == name

/-- The sale of thread `t` may fail without its user being left marked. -/
def mayFail (h : History server) (s : MysqlState) (t : Nat) : Bool :=
  !(locals watch h t).live ||
    (serving t h).all fun q => hasRow s (cStr q.usrname) || soldElsewhere h t (cStr q.usrname)

/-- Where a statement of an order fails, its user has a row or is served elsewhere. -/
def failsSpared : History server → Server → Event server → Bool
  | h, s, .call t (.mysql (.query _ (.updateGoods _))) _ error => !error || mayFail h s.mysql t
  | h, s, .call t (.mysql (.query _ (.insertOrder _ _))) _ error => !error || mayFail h s.mysql t
  | _, _, _ => true

def sparedFailures (h : History server) (s : Server) (ev : Event server) : Bool :=
  ordersMayFail h s ev && failsSpared h s ev

/-! ## Who is marked in Redis -/

/-- Every user with a grant has a row, or a thread that may still sell to them. -/
def Covered (h : History server) (s : MysqlState) (ls : Nat → Local) : Prop :=
  ∀ q ∈ grants h, hasRow s (cStr q.usrname) = true ∨
    ∃ t q', serving t h = some q' ∧ cStr q'.usrname = cStr q.usrname ∧ (ls t).live = true

/-- A call that leaves the rows and every thread that may sell. -/
theorem Covered.keep (covered : Covered h s ls) (sameGrants : grants h' = grants h)
    (rows : ∀ name, hasRow s name = true → hasRow s' name = true)
    (others : ∀ t', t' ≠ t → serving t' h' = serving t' h)
    (own : (ls t).live = true → serving t h' = serving t h ∧ l.live = true) :
    Covered h' s' (Function.update ls t l) := by
  intro q member
  rw [sameGrants] at member
  obtain row | ⟨t', q', serves, same, live⟩ := covered q member
  · exact Or.inl (rows _ row)
  · refine Or.inr ⟨t', q', ?_, same, ?_⟩
    · by_cases mine : t' = t
      · subst mine
        exact (own live).1.trans serves
      · exact (others t' mine).trans serves
    · by_cases mine : t' = t
      · subst mine
        rw [Function.update_self]
        exact (own live).2
      · rwa [Function.update_of_ne mine]

/-- The user of a new grant is served by the thread that got it. -/
theorem Covered.grant {c : ConnId} {f : Fate} {r : Option RedisReply} {q : Request}
    (covered : Covered h s ls) (went : granted r = true) (serves : serving t h = some q)
    (live : l.live = true) :
    Covered (.call t (.redis (.command c .exec)) f r :: h) s (Function.update ls t l) := by
  have all : grants (.call t (.redis (.command c .exec)) f r :: h) = q :: grants h := by
    simp [grants, went, serves]
  intro q' member
  rw [all] at member
  obtain rfl | before := List.mem_cons.mp member
  · exact Or.inr ⟨t, q', serves, rfl, by rwa [Function.update_self]⟩
  · obtain row | ⟨t', q'', serves', same, live'⟩ := covered q' before
    · exact Or.inl row
    · refine Or.inr ⟨t', q'', serves', same, ?_⟩
      by_cases mine : t' = t
      · subst mine
        rwa [Function.update_self]
      · rwa [Function.update_of_ne mine]

/-- A thread that stops selling leaves its user a row, or to another thread. -/
theorem Covered.drop (covered : Covered h s ls) (sameGrants : grants h' = grants h)
    (sameServing : ∀ t', serving t' h' = serving t' h)
    (rows : ∀ name, hasRow s name = true → hasRow s' name = true)
    (left : ∀ q, serving t h = some q → hasRow s' (cStr q.usrname) = true ∨
      ∃ t' q', t' ≠ t ∧ serving t' h = some q' ∧ cStr q'.usrname = cStr q.usrname ∧
        (ls t').live = true) :
    Covered h' s' (Function.update ls t l) := by
  intro q member
  rw [sameGrants] at member
  obtain row | ⟨t', q', serves, same, live⟩ := covered q member
  · exact Or.inl (rows _ row)
  · by_cases mine : t' = t
    · subst mine
      rw [← same]
      obtain row | ⟨t', q'', other, serves', same', live'⟩ := left q' serves
      · exact Or.inl row
      · refine Or.inr ⟨t', q'', (sameServing t').trans serves', same', ?_⟩
        rwa [Function.update_of_ne other]
    · refine Or.inr ⟨t', q', (sameServing t').trans serves, same, ?_⟩
      rwa [Function.update_of_ne mine]

/-! ## Threads that may still sell -/

/-- Redis is no reason for a sale to fail. -/
theorem noteCmd_failed {cmd : RedisCmd} {r : Option RedisReply}
    (failed : (l.noteCmd cmd r).job.why = some .failed) : l.job.why = some .failed := by
  unfold Local.noteCmd Local.noteGet Job.noteHget at failed
  (repeat' split at failed) <;> first | exact failed | cases failed

theorem live_iff : l.live = true ↔ l.job.unit = true ∧ l.job.why ≠ some .failed := by
  simp [Local.live]

theorem noteCmd_live {cmd : RedisCmd} {r : Option RedisReply}
    (ungranted : cmd = .exec → granted r = false) (live : l.live = true) :
    (l.noteCmd cmd r).live = true := by
  obtain ⟨unit, why⟩ := live_iff.mp live
  have same := Local.noteCmd_unit (l := l) ungranted
  exact live_iff.mpr ⟨same.trans unit, fun failed => why (noteCmd_failed failed)⟩

/-- gRPC's calls have nothing to do with a sale, but for the next request and the answer. -/
theorem noteGrpc_sale {c : GrpcCall} {f : Fate} {r : c.Reply} (next : c ≠ .next)
    (finish : ∀ w result, c ≠ .finish w result) :
    (l.note (.grpc c) f r).job.why = l.job.why ∧ (l.note (.grpc c) f r).job.unit = l.job.unit ∧
      (l.note (.grpc c) f r).job.tries = l.job.tries := by
  cases c with
  | next => exact absurd rfl next
  | finish w result => exact absurd rfl (finish w result)
  | setStatus w status =>
    simp only [Local.note, Local.noteGrpc, Job.noteStatus]
    (repeat' split) <;> exact ⟨rfl, rfl, rfl⟩
  | requestseckill w =>
    simp only [Local.note, Local.noteGrpc, Job.noteRegistered]
    split <;> exact ⟨rfl, rfl, rfl⟩
  | alloc | status w | usrname w | usrkey w | setResult w result | result w | delete w =>
    exact ⟨rfl, rfl, rfl⟩

theorem noteGrpc_live {c : GrpcCall} {f : Fate} {r : c.Reply} (next : c ≠ .next)
    (finish : ∀ w result, c ≠ .finish w result) (live : l.live = true) :
    (l.note (.grpc c) f r).live = true := by
  obtain ⟨why, unit, _⟩ := noteGrpc_sale (l := l) (f := f) (r := r) next finish
  rw [live_iff] at live ⊢
  rwa [why, unit]

/-- Where a call of MySQL ends a sale without a commit, the condition above speaks of it. -/
theorem note_mysql_spared {c : MysqlCall} {f : Fate} {r : c.Reply} {x : Server}
    (commit : ∀ m, c ≠ .commit m) (live : l.live = true)
    (ends : (l.note (.mysql c) f r).live = false)
    (spared : failsSpared h x (.call t (.mysql c) f r) = true) : mayFail h x.mysql t = true := by
  have still : (l.note (.mysql c) f r).live ≠ true := by simp [ends]
  have unit := (Local.note_mysql_paid (l := l) (f := f) (r := r) commit).2.1
  obtain ⟨held, why⟩ := live_iff.mp live
  -- a call after which the reason is not a failure leaves the thread selling
  have kept (same : (l.note (.mysql c) f r).job.why ≠ some .failed) : False :=
    still (live_iff.mpr ⟨unit.trans held, same⟩)
  cases c with
  | commit m => exact absurd rfl (commit m)
  | getOneConnect | close m | autocommit m mode | rollback m => exact (kept why).elim
  | fetchRows m =>
    refine (kept fun failed => ?_).elim
    simp only [Local.note, Local.noteMysql] at failed
    unfold Local.noteRows at failed
    (repeat' split at failed) <;> first | exact why failed | cases failed
  | query m stmt =>
    cases stmt with
    | selectUsrKey user | selectOrder user => exact (kept why).elim
    | selectGoods =>
      refine (kept fun failed => ?_).elim
      simp only [Local.note, Local.noteMysql, Local.noteQuery] at failed
      split at failed <;> first | exact why failed | cases failed
    | updateGoods count | insertOrder user key =>
      cases error : r with
      | true => simpa [failsSpared, error] using spared
      | false =>
        subst error
        refine (kept fun failed => ?_).elim
        simp only [Local.note, Local.noteMysql, Local.noteQuery] at failed
        (repeat' split at failed) <;> first | exact why failed | contradiction

/-- What the condition on a failure says of the user whose sale it ends. -/
theorem mayFail_left {q : Request} (may : mayFail h s t = true)
    (live : (locals watch h t).live = true) (serves : serving t h = some q) :
    hasRow s (cStr q.usrname) = true ∨ ∃ t' q', t' ≠ t ∧ serving t' h = some q' ∧
      cStr q'.usrname = cStr q.usrname ∧ (locals watch h t').live = true := by
  rw [mayFail, live, serves, Option.all_some, Bool.not_true, Bool.false_or, Bool.or_eq_true] at may
  refine may.imp_right fun elsewhere => ?_
  obtain ⟨t', _, other⟩ := List.any_eq_true.mp elsewhere
  simp only [Bool.and_eq_true, bne_iff_ne] at other
  obtain ⟨⟨apart, selling⟩, user⟩ := other
  obtain ⟨q', serves', same⟩ := (Option.any_eq_true _ _).mp user
  exact ⟨t', q', apart, serves', beq_iff_eq.mp same, selling⟩

/-! ## Along a run -/

theorem hasRow_iff {name : Str} : hasRow s name = true ↔ ∃ o ∈ s.orderInfo, o.usrName = name := by
  simp [hasRow]

/-- Rows stay. -/
theorem hasRow_append {rows : List OrderRow} {name : Str}
    (more : s'.orderInfo = s.orderInfo ++ rows) (row : hasRow s name = true) :
    hasRow s' name = true := by
  rw [hasRow, more, List.any_append, Bool.or_eq_true]
  exact Or.inl row

theorem Covered.mysql {c : MysqlCall} {f : Fate} {r : c.Reply}
    (commits : ∀ {h s ev}, ok h s ev → commitsWork h s ev = true) (run : Run ok (boot st) h cfg)
    (covered : Covered h cfg.state.mysql (locals watch h))
    (ledger : Ledger N st cfg.state.mysql (locals watch h))
    (met : ok h cfg.state (.call t (.mysql c) f r))
    (spared : failsSpared h cfg.state (.call t (.mysql c) f r) = true)
    (allowed : (locals watch h t).AllowsMysql c)
    (done : cfg.state.mysql.exec c f = some (r, s')) :
    Covered (.call t (.mysql c) f r :: h) s'
      (Function.update (locals watch h) t ((locals watch h t).note (.mysql c) f r)) := by
  have sameGrants : grants (.call t (.mysql c) f r :: h) = grants h := rfl
  by_cases commit : ∃ m, c = .commit m
  · obtain ⟨m, rfl⟩ := commit
    obtain ⟨_, k, q, key, serves, _, _, rows⟩ := commit_sells run ledger (commits met) allowed done
    refine covered.drop sameGrants (fun _ => rfl) (fun _ => hasRow_append rows) fun q' serves' => ?_
    obtain rfl : q = q' := Option.some.inj (serves.symm.trans serves')
    -- what covered the grant was the thread, and now it is the row
    refine Or.inl (hasRow_iff.mpr ⟨⟨cStr q.usrname, key, ['1', '0']⟩, ?_, rfl⟩)
    rw [rows]
    exact List.mem_append_right _ (List.mem_singleton_self _)
  · have other (m : SessId) : c ≠ .commit m := fun eq => commit ⟨m, eq⟩
    have same := mysql_committed ledger allowed other (never_tried commits run t) done
    have rows (name : Str) (row : hasRow cfg.state.mysql name = true) : hasRow s' name = true := by
      rwa [hasRow, same.orders]
    -- a sale that fails here is one that the condition speaks of
    by_cases ends : (locals watch h t).live = true ∧
        ((locals watch h t).note (.mysql c) f r).live = false
    · have may := note_mysql_spared other ends.1 ends.2 spared
      refine covered.drop sameGrants (fun _ => rfl) rows fun q serves => ?_
      exact (mayFail_left may ends.1 serves).imp_left (rows _)
    · refine covered.keep sameGrants rows (fun _ _ => rfl) fun live => ⟨rfl, ?_⟩
      by_contra dead
      exact ends ⟨live, by simpa using dead⟩

/-- Every grant is covered in runs that spare the users of failed statements. -/
theorem covered (range : N < 4294967296) (redis : st.totalCount = decimal N)
    (mysql : st.gTotalcount = some N)
    (may : ∀ {h s ev}, ok h s ev → ordersMayFail h s ev = true)
    (spared : ∀ {h s ev}, ok h s ev → failsSpared h s ev = true) (run : Run ok (boot st) h cfg) :
    Covered h cfg.state.mysql (locals watch h) := by
  refine server_invariant (fun h s ls => Covered h s.mysql ls)
    ?initial ?redis ?mysql ?counter ?grpc ?start run
  case initial =>
    intro q member
    cases member
  case redis =>
    intro h cfg t c f r x run inv _ allowed _
    cases c with
    | getOneConnect | close c =>
      exact inv.keep rfl (fun _ row => row) (fun _ _ => rfl) fun live => ⟨rfl, live⟩
    | command c cmd =>
      by_cases grants : cmd = .exec ∧ granted r = true
      · obtain ⟨rfl, went⟩ := grants
        obtain ⟨q, serves, _⟩ := serving_atWork run allowed.2.2.1
        refine inv.grant went serves ?_
        simp [Local.note, Local.noteCmd, went, Local.grant, Local.live]
      · have kept : Seckill.grants (.call t (.redis (.command c cmd)) f r :: h) = Seckill.grants h := by
          cases cmd <;> first | rfl | simp_all [Seckill.grants]
        refine inv.keep kept (fun _ row => row) (fun _ _ => rfl) fun live => ⟨rfl, ?_⟩
        exact noteCmd_live (fun exec => by simpa [exec] using grants) live
  case mysql =>
    intro h cfg t c f r x run inv met allowed exec
    have ready := ready range redis mysql may run
    exact inv.mysql (fun met => ordersMayFail_commits (may met)) run ready.ledger met (spared met)
      allowed exec
  case counter =>
    intro h cfg t c f r x _ inv _ allowed _
    refine inv.keep rfl (fun _ row => row) (fun _ _ => rfl) fun live => ⟨rfl, ?_⟩
    cases c with
    | incFailedCount =>
      -- only a sale that has failed is counted as failed
      exact absurd allowed.2.2.2 (live_iff.mp live).2
    | wrlock | unlock | setFailedCount n | incSuccessNum => exact live
    | failedCount | successNum =>
      simp only [Local.note, Local.noteCounter]
      (repeat' split) <;> exact live
  case grpc =>
    intro h cfg t c f r x run inv _ allowed _
    have books : Books False h cfg.state (locals watch h) :=
      books range redis mysql may (fun impossible => impossible.elim) run
    refine inv.keep rfl (fun _ row => row) (fun _ other => serving_other other) fun live => ?_
    have unit := (live_iff.mp live).1
    have next : c ≠ .next := by
      rintro rfl
      rw [allowed.1] at unit
      cases unit
    have finish (w : WorkerId) (result : Str) : c ≠ .finish w result := by
      rintro rfl
      exact absurd ((books.answered allowed).symm.trans unit) Bool.false_ne_true
    refine ⟨?_, noteGrpc_live next finish live⟩
    cases c <;> first | rfl | exact absurd rfl next | exact absurd rfl (finish _ _)
  case start =>
    intro h cfg t e _ inv _ settled
    refine inv.keep rfl (fun _ row => row) (fun _ _ => rfl) fun live => ?_
    exact absurd (settled.unit.symm.trans (live_iff.mp live).1) Bool.false_ne_true

/-- MySQL has orders only of requests that Redis has granted. -/
theorem orders_granted (range : N < 4294967296) (redis : st.totalCount = decimal N)
    (mysql : st.gTotalcount = some N)
    (may : ∀ {h s ev}, ok h s ev → ordersMayFail h s ev = true) (run : Run ok (boot st) h cfg) :
    ∀ q ∈ orders h, q ∈ grants h := by
  refine server_invariant (fun h _ _ => ∀ q ∈ orders h, q ∈ grants h)
    ?initial ?redis ?mysql ?counter ?grpc ?start run
  case initial =>
    intro q ordered
    cases ordered
  case redis =>
    intro h cfg t c f r x _ inv _ _ _ q ordered
    have before : q ∈ grants h := inv q ordered
    cases c with
    | getOneConnect | close c => exact before
    | command c cmd =>
      -- only an `EXEC` may add to the grants
      cases cmd <;> try exact before
      rw [grants]
      split
      · exact List.mem_append_right _ before
      · exact before
  case mysql =>
    intro h cfg t c f r x run inv met allowed exec q ordered
    by_cases commit : ∃ m, c = .commit m
    · obtain ⟨m, rfl⟩ := commit
      obtain ⟨rfl, _⟩ := commit_reply (ordersMayFail_commits (may met)) exec
      have books : Books False h cfg.state (locals watch h) :=
        books range redis mysql may (fun impossible => impossible.elim) run
      obtain serves | before := List.mem_append.mp ordered
      · -- the thread that commits has its unit from its `EXEC`
        have unit := allowed.2.1.resolve_right (by simp [books.mode t])
        have granted := (books.units t unit).1
        exact ((grants_marked run).mem q).mpr (Or.inl ⟨t, Option.mem_toList.mp serves, granted⟩)
      · exact inv q before
    · have same : orders (.call t (.mysql c) f r :: h) = orders h := by
        cases c <;> first | rfl | exact absurd ⟨_, rfl⟩ commit
      exact inv q (same ▸ ordered)
  case counter => exact fun _ inv _ _ _ => inv
  case grpc => exact fun _ inv _ _ _ => inv
  case start => exact fun _ inv _ _ => inv

/-! ## The two books at rest -/

/-- Redis and MySQL have orders of the same users. -/
def BooksAgree (s : Server) : Prop :=
  ∀ name, name ∈ s.redis.data.orderInfo ↔ ∃ o ∈ s.mysql.orderInfo, o.usrName = name

/-- On statements. -/
theorem books_agree (N : UInt32) (redis : st.totalCount = decimal N.toNat)
    (mysql : st.gTotalcount = some N.toNat) (before : BooksAgree (boot st))
    (run : Run (meets sparedFailures) (boot st) h cfg) (rest : AtRest h) :
    BooksAgree cfg.state := by
  have may {h : History server} {s : Server} {ev : Event server}
      (met : meets sparedFailures h s ev) : ordersMayFail h s ev = true :=
    (Bool.and_eq_true_iff.mp met).1
  have spared {h : History server} {s : Server} {ev : Event server}
      (met : meets sparedFailures h s ev) : failsSpared h s ev = true :=
    (Bool.and_eq_true_iff.mp met).2
  have marked := redis_orders redis (fun met => ordersMayFail_redis (may met)) run
  have rows : MysqlOrders st h cfg.state.mysql := mysql_orders N.toNat_lt mysql
    (fun met => ordersMayFail_sound (may met)) (fun met => ordersMayFail_commits (may met)) run
  have covered := covered N.toNat_lt redis mysql may spared run
  have granted := orders_granted N.toNat_lt redis mysql may run
  -- a name has a row if it had one at first or is the user of an order
  have named (name : Str) : (∃ o ∈ cfg.state.mysql.orderInfo, o.usrName = name) ↔
      (∃ o ∈ st.orderInfo, o.usrName = name) ∨ ∃ q ∈ orders h, cStr q.usrname = name := by
    have same : name ∈ cfg.state.mysql.orderInfo.map OrderRow.usrName ↔ name ∈
        st.orderInfo.map OrderRow.usrName ++ ((orders h).map fun q => cStr q.usrname).reverse := by
      rw [rows]
    simpa using same
  intro name
  rw [marked.orderInfo, named]
  constructor
  · rintro (first | ⟨q, member, rfl⟩)
    · exact Or.inl ((before name).mp first)
    · obtain row | ⟨t, q', serves, _⟩ := covered q member
      · exact (named _).mp (hasRow_iff.mp row)
      · exact absurd ((rest t).symm.trans serves) nofun
  · rintro (first | ⟨q, ordered, same⟩)
    · exact Or.inl ((before name).mpr first)
    · exact Or.inr ⟨q, granted q ordered, same⟩

/-- From stores that agree, the two order books agree whenever no request is in progress, in every
    run on verbatim requests in which a statement fails only where its user has a row or is served
    elsewhere. -/
theorem order_books_agree {other : Dialect} {cfg : Config (textServer other)} (N : UInt32)
    (redis : st.totalCount = decimal N.toNat) (mysql : st.gTotalcount = some N.toNat)
    (before : BooksAgree (boot st))
    (run : Run (M := textServer other) (meets sparedFailures) (boot st) h cfg)
    (verbatim : ∀ q ∈ delivered h, q.Verbatim) (rest : AtRest h) : BooksAgree cfg.state :=
  books_agree N redis mysql before (run_server run verbatim) rest

/-- Every request that was delivered has its answer. -/
def allAnswered (h : History server) : Bool :=
  (delivered h).all fun q => (answers h).any fun a => a.request == q

theorem allAnswered_rest (run : Run ok (boot st) h cfg) (answered : allAnswered h = true) :
    AtRest h := by
  refine (atRest_iff run).mpr fun q member => ?_
  obtain ⟨a, given, same⟩ := List.any_eq_true.mp (List.all_eq_true.mp answered q member)
  exact ⟨a, given, beq_iff_eq.mp same⟩

/-- The first `UPDATE` for a user fails while another request of theirs still holds a unit. -/
def failsBeside : List (Move server) :=
  looks 0 ⟨0, ['u'], ['k']⟩ ++ looks 1 ⟨1, ['u'], ['k']⟩ ++ go 0 6 ++ go 1 9 ++ [.go 1 .fail] ++
    go 1 11 ++ go 0 13

theorem order_books_agree_beside : ∃ (h : History server) (cfg : Config (textServer allKeys)),
    Run (M := textServer allKeys) (meets sparedFailures) (boot (agreeing threeUsers 3)) h cfg ∧
      AtRest h ∧ (answers h).map Answer.result = [one, zero] ∧ BooksAgree cfg.state := by
  have ran : ((replay (M := textServer allKeys) sparedFailures failsBeside []
      (initial (boot (agreeing threeUsers 3)))).any fun x => allAnswered x.1 &&
        (answers x.1).map Answer.result == [one, zero] &&
        (delivered x.1).all fun q => decide q.Verbatim) = true := by
    decide +kernel
  obtain ⟨⟨h, cfg⟩, played, after⟩ := (Option.any_eq_true _ _).mp ran
  simp only [Bool.and_eq_true, beq_iff_eq, List.all_eq_true, decide_eq_true_eq] at after
  obtain ⟨⟨answered, told⟩, verbatim⟩ := after
  have run : Run (M := textServer allKeys) (meets sparedFailures) _ h cfg := replay_meets played
  have rest : AtRest h := allAnswered_rest (run_server run verbatim) answered
  have before : BooksAgree (boot (agreeing threeUsers 3)) :=
    fun name => iff_of_false (AList.notMem_empty name) (by simp [boot, agreeing])
  exact ⟨h, cfg, run, rest, told, order_books_agree 3 rfl rfl before run verbatim rest⟩

/-- The `UPDATE` fails for a user without a row: they are told "0" and stay marked in Redis. -/
theorem marked_without_row : ∃ (h : History server) (cfg : Config (textServer allKeys)),
    Run (M := textServer allKeys) (meets ordersMayFail) (boot (agreeing threeUsers 3)) h cfg ∧
      AtRest h ∧ (answers h).map Answer.result = [zero] ∧ ['u'] ∈ cfg.state.redis.data.orderInfo ∧
      cfg.state.mysql.orderInfo = [] ∧ ¬ BooksAgree cfg.state := by
  have ran : ((replay (M := textServer allKeys) ordersMayFail
      (serves 0 ⟨0, ['u'], ['k']⟩ .fail .ok ++ go 0 2) []
      (initial (boot (agreeing threeUsers 3)))).any fun x => allAnswered x.1 &&
        (answers x.1).map Answer.result == [zero] &&
        decide (['u'] ∈ x.2.state.redis.data.orderInfo) && x.2.state.mysql.orderInfo == [] &&
        (delivered x.1).all fun q => decide q.Verbatim) = true := by
    decide +kernel
  obtain ⟨⟨h, cfg⟩, played, after⟩ := (Option.any_eq_true _ _).mp ran
  simp only [Bool.and_eq_true, beq_iff_eq, List.all_eq_true, decide_eq_true_eq] at after
  obtain ⟨⟨⟨⟨answered, told⟩, marked⟩, rows⟩, verbatim⟩ := after
  have run : Run (M := textServer allKeys) (meets ordersMayFail) _ h cfg := replay_meets played
  have rest : AtRest h := allAnswered_rest (run_server run verbatim) answered
  refine ⟨h, cfg, run, rest, told, marked, rows, fun agree => ?_⟩
  obtain ⟨o, member, _⟩ := (agree ['u']).mp marked
  rw [rows] at member
  cases member

end Seckill

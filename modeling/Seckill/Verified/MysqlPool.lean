import Seckill.Lib.Loans
import Seckill.Verified.Scenario

/-! # The accounts of `MysqlPool`

Any number of threads that call into the pool, in any order and with any fates, and close
only what they have.  `poollock` makes a call of `getOneConnect` or `close` one step.
The counter is changed where a connection is made and where a dead one is closed; that it
is the number of connections there are is an invariant of these runs.
-/

namespace Seckill

open CallTree Threads Loans

/-- Threads over the MySQL interface.  What a thread does is any program. -/
abbrev mysqlClients : Machine MysqlCall MysqlCall.Reply where
  State := MysqlState
  Fate := Fate
  Entry := Prog MysqlCall MysqlCall.Reply Unit
  exec _ c f s := s.exec c f
  body := id

/-- How connections are lent. -/
abbrev mysqlDesk : Desk MysqlCall MysqlCall.Reply where
  got
    | .getOneConnect, r => r
    | _, _ => none
  back
    | .close m => some m
    | _ => none

namespace MysqlState

/-! ## `getOneConnect` -/

/-- What `getOneConnect` should do: hand out the first idle connection that answers the ping,
    closing the dead ones ahead of it, else connect if there is room, else give `NULL`. -/
inductive Picked (s : MysqlState) (alive : SessId → Bool) (connects : Bool) :
    Option SessId → MysqlState → Prop
  | idle {dead rest : List SessId} {m : SessId} (queue : s.mysqlpool = dead ++ m :: rest)
      (gone : ∀ d ∈ dead, alive d = false) (answers : alive m = true) :
      Picked s alive connects (some m) { dead.foldl discard s with mysqlpool := rest }
  | made (gone : ∀ d ∈ s.mysqlpool, alive d = false)
      (room : (s.mysqlpool.foldl discard s).connectCount < s.maxConnect)
      (connected : connects = true) :
      Picked s alive connects (some s.fresh)
        { (s.mysqlpool.foldl discard s).setSession s.fresh {} with
          mysqlpool := [], fresh := s.fresh + 1,
          connectCount := (s.mysqlpool.foldl discard s).connectCount + 1 }
  | null (gone : ∀ d ∈ s.mysqlpool, alive d = false)
      (full : ¬((s.mysqlpool.foldl discard s).connectCount < s.maxConnect ∧ connects = true)) :
      Picked s alive connects none { s.mysqlpool.foldl discard s with mysqlpool := [] }

/-- Closing connections counts them down, and does nothing else to the pool. -/
theorem discards_frame (dead : List SessId) (s : MysqlState) :
    (dead.foldl discard s).fresh = s.fresh ∧ (dead.foldl discard s).maxConnect = s.maxConnect ∧
      (dead.length ≤ s.connectCount.toNat →
        (dead.foldl discard s).connectCount.toNat = s.connectCount.toNat - dead.length) := by
  induction dead generalizing s with
  | nil => exact ⟨rfl, rfl, fun _ => rfl⟩
  | cons m dead ih =>
    obtain ⟨fresh, limit, count⟩ := ih (s.discard m)
    refine ⟨fresh, limit, fun enough => ?_⟩
    rw [List.length_cons] at enough ⊢
    have one : (1 : UInt32) ≤ s.connectCount := UInt32.le_iff_toNat_le.mpr (by simp; omega)
    have less : (s.discard m).connectCount.toNat = s.connectCount.toNat - 1 :=
      UInt32.toNat_sub_of_le _ _ one
    rw [List.foldl_cons, count (by omega), less]
    omega

theorem destroy_eq (pool : List SessId) (s : MysqlState) :
    destroy pool s = { pool.foldl discard s with mysqlpool := [] } := by
  induction pool generalizing s with
  | nil => rfl
  | cons m pool ih => exact ih (s.discard m)

/-- The loop stops at the first connection that is alive. -/
theorem evict_alive {alive : SessId → Bool} {dead rest : List SessId} {m : SessId}
    (gone : ∀ d ∈ dead, alive d = false) (answers : alive m = true) (s : MysqlState) :
    evict alive (dead ++ m :: rest) s = { dead.foldl discard s with mysqlpool := m :: rest } := by
  induction dead generalizing s with
  | nil => simp [evict, answers]
  | cons d dead ih =>
    have lost : alive d = false := gone d List.mem_cons_self
    simp only [List.cons_append, evict, lost, Bool.false_eq_true, if_false, List.foldl_cons]
    exact ih (fun e member => gone e (List.mem_cons_of_mem d member)) (s.discard d)

theorem evict_all {alive : SessId → Bool} {dead : List SessId}
    (gone : ∀ d ∈ dead, alive d = false) (s : MysqlState) :
    evict alive dead s = { dead.foldl discard s with mysqlpool := [] } := by
  induction dead generalizing s with
  | nil => rfl
  | cons d dead ih =>
    have lost : alive d = false := gone d List.mem_cons_self
    simp only [evict, lost, Bool.false_eq_true, if_false, List.foldl_cons]
    exact ih (fun e member => gone e (List.mem_cons_of_mem d member)) (s.discard d)

/-- A queue has a first connection that is alive, or none. -/
theorem first_alive (alive : SessId → Bool) (pool : List SessId) :
    (∃ dead m rest, pool = dead ++ m :: rest ∧ (∀ d ∈ dead, alive d = false) ∧ alive m = true) ∨
      ∀ d ∈ pool, alive d = false := by
  induction pool with
  | nil => exact Or.inr (by simp)
  | cons d pool ih =>
    cases answers : alive d with
    | true => exact Or.inl ⟨[], d, pool, rfl, by simp, answers⟩
    | false =>
      obtain ⟨dead, m, rest, rfl, gone, living⟩ | gone := ih
      · exact Or.inl ⟨d :: dead, m, rest, rfl, by simpa [answers] using gone, living⟩
      · exact Or.inr (by simpa [answers] using gone)

theorem getOneConnect_picked (s : MysqlState) (alive : SessId → Bool) (connects : Bool) :
    Picked s alive connects (s.getOneConnect alive connects).1
      (s.getOneConnect alive connects).2 := by
  obtain ⟨dead, m, rest, queue, gone, answers⟩ | gone := first_alive alive s.mysqlpool
  · -- the dead ones before `m` are closed
    have taken : s.getOneConnect alive connects =
        (some m, { dead.foldl discard s with mysqlpool := rest }) := by
      simp only [getOneConnect]
      rw [queue, evict_alive gone answers]
    rw [taken]
    exact .idle queue gone answers
  · -- none of the pool answers, and all of it is closed
    obtain ⟨fresh, limit, _⟩ := discards_frame s.mysqlpool s
    by_cases room : (s.mysqlpool.foldl discard s).connectCount < s.maxConnect
    · cases connects with
      | true =>
        have made : s.getOneConnect alive true = (some s.fresh,
            { (s.mysqlpool.foldl discard s).setSession s.fresh {} with
              mysqlpool := [], fresh := s.fresh + 1,
              connectCount := (s.mysqlpool.foldl discard s).connectCount + 1 }) := by
          simp only [getOneConnect]
          rw [evict_all gone]
          simp [limit, room, createOneConnect, fresh, setSession]
        rw [made]
        exact .made gone room rfl
      | false =>
        have failed : s.getOneConnect alive false =
            (none, { s.mysqlpool.foldl discard s with mysqlpool := [] }) := by
          simp only [getOneConnect]
          rw [evict_all gone]
          simp [createOneConnect]
        rw [failed]
        exact .null gone fun both => Bool.noConfusion both.2
    · have full : s.getOneConnect alive connects =
          (none, { s.mysqlpool.foldl discard s with mysqlpool := [] }) := by
        simp only [getOneConnect]
        rw [evict_all gone]
        simp [limit, room]
      rw [full]
      exact .null gone fun both => room both.1

/-! ## The invariant -/

/-- The accounts agree: the counter is the number of connections idle or handed out, which the
    limit bounds, and each of them is in one place. -/
structure Accounts (s : MysqlState) (out : List (Nat × SessId)) : Prop where
  count : s.connectCount.toNat = s.mysqlpool.length + out.length
  limit : s.connectCount ≤ s.maxConnect
  books : Balanced s.mysqlpool out s.fresh

/-- No loop that closes connections at the head of the queue finds the counter at zero, neither
    the one of `getOneConnect` nor the one of the destructor, which leaves those handed out. -/
structure NeverWraps (s : MysqlState) (out : List (Nat × SessId)) : Prop where
  counts : ∀ dead m rest, s.mysqlpool = dead ++ m :: rest → (dead.foldl discard s).connectCount ≠ 0
  destroys : (destroy s.mysqlpool s).connectCount.toNat = out.length

variable {s x : MysqlState} {out : List (Nat × SessId)} {t : Nat} {m : SessId}

theorem Accounts.neverWraps (accounts : Accounts s out) : NeverWraps s out where
  counts dead m rest queue zero := by
    have before := accounts.count
    rw [queue, List.length_append, List.length_cons] at before
    have after := (discards_frame dead s).2.2 (by omega)
    rw [zero, UInt32.toNat_zero] at after
    omega
  destroys := by
    have before := accounts.count
    have after := (discards_frame s.mysqlpool s).2.2 (by omega)
    rw [destroy_eq]
    show (s.mysqlpool.foldl discard s).connectCount.toNat = out.length
    omega

/-- The connections ahead of `rest` are closed. -/
theorem Accounts.discards {dead rest : List SessId} (accounts : Accounts s out)
    (queue : s.mysqlpool = dead ++ rest) :
    Accounts { dead.foldl discard s with mysqlpool := rest } out := by
  obtain ⟨fresh, limit, count⟩ := discards_frame dead s
  have before := accounts.count
  rw [queue, List.length_append] at before
  have bound := UInt32.le_iff_toNat_le.mp accounts.limit
  have after := count (by omega)
  refine ⟨?_, ?_, ?_⟩
  · show (dead.foldl discard s).connectCount.toNat = rest.length + out.length
    omega
  · show (dead.foldl discard s).connectCount ≤ (dead.foldl discard s).maxConnect
    rw [UInt32.le_iff_toNat_le, limit]
    omega
  · show Balanced rest out (dead.foldl discard s).fresh
    rw [fresh]
    apply accounts.books.shrink
    rw [queue]
    exact List.sublist_append_right dead rest

theorem Accounts.picked {alive : SessId → Bool} {connects : Bool} {r : Option SessId}
    (accounts : Accounts s out) (picked : Picked s alive connects r x) :
    Accounts x ((r.map fun m => (t, m)).toList ++ out) := by
  cases picked with
  | @idle dead rest m queue gone answers =>
    have left := accounts.discards queue
    have count := left.count
    refine ⟨?_, left.limit, left.books.lend⟩
    simp only [List.length_cons, Option.map_some, Option.toList_some, List.length_append,
      List.length_nil] at count ⊢
    omega
  | made gone room connected =>
    have left := accounts.discards (List.append_nil s.mysqlpool).symm
    obtain ⟨fresh, limit, _⟩ := discards_frame s.mysqlpool s
    have count : (s.mysqlpool.foldl discard s).connectCount.toNat = 0 + out.length := left.count
    -- below the limit there is room to count up
    have below := UInt32.lt_iff_toNat_lt.mp room
    have bound := s.maxConnect.toNat_lt
    have more : ((s.mysqlpool.foldl discard s).connectCount + 1).toNat =
        (s.mysqlpool.foldl discard s).connectCount.toNat + 1 := by
      rw [UInt32.toNat_add, UInt32.toNat_one]
      omega
    have books : Balanced [] out s.fresh := fresh ▸ left.books
    refine ⟨?_, ?_, books.make⟩
    · simp only [more, List.length_cons, Option.map_some, Option.toList_some, List.length_append,
        List.length_nil]
      omega
    · show (s.mysqlpool.foldl discard s).connectCount + 1 ≤ (s.mysqlpool.foldl discard s).maxConnect
      rw [UInt32.le_iff_toNat_le, more, limit]
      omega
  | null gone full => exact accounts.discards (List.append_nil s.mysqlpool).symm

theorem Accounts.close (accounts : Accounts s out) (held : (t, m) ∈ out) :
    Accounts (s.close m) (out.erase (t, m)) := by
  have count := accounts.count
  have some := List.length_pos_of_mem held
  refine ⟨?_, accounts.limit, accounts.books.back held⟩
  show s.connectCount.toNat = (s.mysqlpool ++ [m]).length + (out.erase (t, m)).length
  rw [List.length_erase_of_mem held, List.length_append, List.length_singleton]
  omega

end MysqlState

/-! ## Runs -/

variable {h : History mysqlClients} {cfg : Config mysqlClients} {db : MysqlState} {limit : UInt32}

theorem loans_get {f : Fate} {r : (MysqlCall.getOneConnect).Reply} :
    loans mysqlDesk (.call t .getOneConnect f r :: h) =
      (r.map fun m => (t, m)).toList ++ loans mysqlDesk h := by
  cases r <;> rfl

/-- The accounts agree in every run of fair threads. -/
theorem mysql_accounts (run : Run (meets mysqlDesk.fair) (db.setParameter limit) h cfg) :
    MysqlState.Accounts cfg.state (loans mysqlDesk h) := by
  induction run with
  | init => exact ⟨rfl, Nat.zero_le _, .init⟩
  | @step h cfg cfg' ev run fair step accounts =>
    cases step with
    | start done => exact accounts
    | @call t c k f r s next exec =>
      change cfg.state.exec c f = some (r, s) at exec
      by_cases get : c = .getOneConnect
      · subst get
        rw [loans_get]
        obtain ⟨alive, connects, got⟩ := MysqlState.exec_getOneConnect exec
        have picked := cfg.state.getOneConnect_picked alive connects
        rw [got] at picked
        exact accounts.picked picked
      by_cases close : ∃ m, c = .close m
      · obtain ⟨m, rfl⟩ := close
        cases f <;> cases exec
        apply accounts.close
        simpa [meets, Desk.fair] using fair
      · have other (m : SessId) : c ≠ .close m := fun eq => close ⟨m, eq⟩
        obtain ⟨pool, fresh, count, limit⟩ := MysqlState.exec_pool exec get other
        have same : loans mysqlDesk (.call t c f r :: h) = loans mysqlDesk h := by
          cases c <;> first | rfl | exact absurd rfl get | exact absurd rfl (other _)
        rw [same]
        refine ⟨?_, ?_, ?_⟩
        · show s.connectCount.toNat = s.mysqlpool.length + _
          rw [count, pool]
          exact accounts.count
        · show s.connectCount ≤ s.maxConnect
          rw [count, limit]
          exact accounts.limit
        · show Balanced s.mysqlpool _ s.fresh
          rw [pool, fresh]
          exact accounts.books

/-- In every run of threads that close only what they have, the counter of `MysqlPool` is the
    number of connections idle or handed out, stays below the limit and never wraps; each
    connection is in one place; and `getOneConnect` picks as it should. -/
theorem mysql_pool_accounts (run : Run (meets mysqlDesk.fair) (db.setParameter limit) h cfg) :
    MysqlState.Accounts cfg.state (loans mysqlDesk h) ∧ MysqlState.NeverWraps cfg.state (loans mysqlDesk h) ∧
      ∀ alive connects, MysqlState.Picked cfg.state alive connects
        (cfg.state.getOneConnect alive connects).1 (cfg.state.getOneConnect alive connects).2 := by
  have accounts := mysql_accounts run
  exact ⟨accounts, accounts.neverWraps, cfg.state.getOneConnect_picked⟩

/-- A thread that gets a connection and gives it back. -/
def visit : Prog MysqlCall MysqlCall.Reply Unit := do
  let conn : Option SessId ← Prog.perform MysqlCall.getOneConnect
  match conn with
  | some m => Prog.perform (MysqlCall.close m)
  | none => pure ()

/-- Two threads get a connection each and one gives it back, dead; the next thread is given a
    new one. -/
def visits : List (Move mysqlClients) :=
  [.start 0 visit, .start 1 visit, .start 2 visit, .go 0 .ok, .go 1 .ok, .go 0 .ok,
    .go 2 (.connect (fun _ => false) true)]

theorem mysql_pool_accounts_three :
    ∃ (h : History mysqlClients) (cfg : Config mysqlClients),
      Run (meets mysqlDesk.fair) ((boot (agreeing [] 50)).mysql.setParameter 2) h cfg ∧
      loans mysqlDesk h = [(2, 3), (1, 2)] ∧ cfg.state.connectCount = 2 ∧
      MysqlState.Accounts cfg.state [(2, 3), (1, 2)] := by
  have ran : ((replay mysqlDesk.fair visits []
      (initial (M := mysqlClients) ((boot (agreeing [] 50)).mysql.setParameter 2))).any fun x =>
        loans mysqlDesk x.1 == [(2, 3), (1, 2)] && x.2.state.connectCount == 2) = true := by
    decide +kernel
  obtain ⟨⟨h, cfg⟩, played, after⟩ := (Option.any_eq_true _ _).mp ran
  simp only [Bool.and_eq_true, beq_iff_eq] at after
  obtain ⟨lent, count⟩ := after
  have run : Run (meets mysqlDesk.fair) _ h cfg := replay_meets played
  refine ⟨h, cfg, run, lent, count, ?_⟩
  rw [← lent]
  exact (mysql_pool_accounts run).1

end Seckill

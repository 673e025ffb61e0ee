import Mathlib.Data.Finset.Card
import Seckill.Lib.Progress
import Seckill.Verified.Holding
import Seckill.Verified.MysqlPool

/-! # The pools are large enough

A thread has one MySQL connection at a time, so with as many threads as `MAX_CONNECT` there
is one left for whoever asks; and no more are ever made than there are threads.  Redis
contexts are not counted at all.
-/

namespace Seckill

open CallTree Threads Loans MysqlState

variable {ok : Condition server} {st : Stores} {h : History server} {cfg : Config server}
  {ls : Nat → Local} {t : Nat} {m : SessId} {s x : MysqlState}

/-- How the server lends its connections. -/
abbrev sessionDesk : Desk Call Call.Reply where
  got
    | .mysql .getOneConnect, r => r
    | _, _ => none
  back
    | .mysql (.close m) => some m
    | _ => none

/-- Whenever a connection has to be made, it can be. -/
def connects (_ : History server) (_ : Server) : Event server → Bool
  | .call _ (.redis .getOneConnect) f _ => f.isOk
  | .call _ (.mysql .getOneConnect) .ok _ => true
  | .call _ (.mysql .getOneConnect) (.connect _ connects) _ => connects
  | .call _ (.mysql .getOneConnect) _ _ => false
  | _ => true

/-- The pool gave what it was asked for. -/
def gave : Event server → Bool
  | .call _ (.redis .getOneConnect) _ r => r.isSome
  | .call _ (.mysql .getOneConnect) _ r => r.isSome
  | _ => true

/-! ## Who has which connection -/

/-- The accounts of the pool in a run of the server. -/
structure Lent (st : Stores) (h : History server) (s : MysqlState) (ls : Nat → Local) : Prop where
  accounts : s.Accounts (loans sessionDesk h)
  limit : s.maxConnect = st.mysqlMax
  held : ∀ t m, (t, m) ∈ loans sessionDesk h ↔ (ls t).sql.con = some m

theorem loans_session {f : Fate} {r : (Call.mysql .getOneConnect).Reply} :
    loans sessionDesk (.call t (.mysql .getOneConnect) f r :: h) =
      (r.map fun m => (t, m)).toList ++ loans sessionDesk h := by
  cases r <;> rfl

/-- A call that has nothing to do with the pool. -/
theorem Lent.keep {h' : History server} {l : Local} (lent : Lent st h s ls)
    (same : loans sessionDesk h' = loans sessionDesk h) (pool : s.SamePool x)
    (con : l.sql.con = (ls t).sql.con) : Lent st h' x (Function.update ls t l) where
  accounts := by
    rw [same]
    obtain ⟨count, limit, books⟩ := lent.accounts
    exact ⟨by rw [pool.count, pool.pool, count], by rwa [pool.count, pool.limit],
      by rwa [pool.pool, pool.fresh]⟩
  limit := pool.limit.trans lent.limit
  held t' m := by
    rw [same, lent.held, update_eq (fun l : Local => l.sql.con) con]

theorem Lent.get {f : Fate} {alive : SessId → Bool} {connects : Bool} {r : Option SessId}
    (lent : Lent st h s ls) (without : (ls t).sql.con = none)
    (picked : s.Picked alive connects r x) :
    Lent st (.call t (.mysql .getOneConnect) f r :: h) x
      (Function.update ls t ((ls t).note (.mysql .getOneConnect) f r)) where
  accounts := loans_session ▸ lent.accounts.picked picked
  limit := by
    rw [← lent.limit]
    cases picked with
    | idle queue gone answers => exact (discards_frame _ s).2.1
    | made gone room connected => exact (discards_frame _ s).2.1
    | null gone full => exact (discards_frame _ s).2.1
  held t' m := by
    rw [loans_session, List.mem_append, lent.held]
    by_cases own : t' = t
    · subst own
      rw [Function.update_self, without]
      simp only [reduceCtorEq, or_false, Option.mem_toList, Option.map_eq_some_iff,
        Prod.mk.injEq, true_and]
      exact ⟨fun ⟨_, got, same⟩ => same ▸ got, fun got => ⟨m, got, rfl⟩⟩
    · rw [Function.update_of_ne own]
      refine or_iff_right fun mine => ?_
      obtain ⟨_, _, same⟩ := Option.map_eq_some_iff.mp (Option.mem_toList.mp mine)
      exact own (congrArg Prod.fst same).symm

theorem Lent.close {f : Fate} {r : Unit} (lent : Lent st h s ls) (con : (ls t).sql.con = some m) :
    Lent st (.call t (.mysql (.close m)) f r :: h) (s.close m)
      (Function.update ls t ((ls t).note (.mysql (.close m)) f r)) where
  accounts := lent.accounts.close ((lent.held t m).mpr con)
  limit := lent.limit
  held t' m' := by
    have once : (loans sessionDesk h).Nodup :=
      (List.nodup_append.mp lent.accounts.books.once).2.1.of_map
    show (t', m') ∈ (loans sessionDesk h).erase (t, m) ↔ _
    rw [once.mem_erase_iff, lent.held]
    by_cases own : t' = t
    · subst own
      rw [Function.update_self, con]
      constructor
      · rintro ⟨other, same⟩
        cases same
        exact absurd rfl other
      · intro none
        cases none
    · rw [Function.update_of_ne own]
      simp [own]

theorem lent (room : 0 < st.mysqlMax) (run : Run ok (boot st) h cfg) :
    Lent st h cfg.state.mysql (locals watch h) := by
  refine server_invariant (fun h s ls => Lent st h s.mysql ls)
    ?initial ?redis ?mysql ?counter ?grpc ?start run
  case initial =>
    refine ⟨⟨rfl, UInt32.le_iff_toNat_le.mpr ?_, ⟨List.nodup_singleton 0, ?_⟩⟩, rfl, fun _ _ => ?_⟩
    · exact UInt32.lt_iff_toNat_lt.mp room
    · simp [boot, loans]
    · simp [loans]
  case redis =>
    intro h cfg t c f r x _ inv _ _ _
    refine inv.keep ?_ ⟨rfl, rfl, rfl, rfl⟩ (by simp)
    cases c <;> rfl
  case mysql =>
    intro h cfg t c f r x run inv _ allowed exec
    by_cases get : c = .getOneConnect
    · subst get
      obtain ⟨alive, connects, got⟩ := MysqlState.exec_getOneConnect exec
      have picked := cfg.state.mysql.getOneConnect_picked alive connects
      rw [got] at picked
      exact inv.get (congrArg MysqlLocal.con allowed.1) picked
    by_cases close : ∃ m, c = .close m
    · obtain ⟨m, rfl⟩ := close
      cases f <;> cases exec
      exact inv.close (congrArg MysqlLocal.con allowed)
    · have other (m : SessId) : c ≠ .close m := fun eq => close ⟨m, eq⟩
      refine inv.keep ?_ (MysqlState.exec_pool exec get other) (Local.note_con get other)
      cases c <;> first | rfl | exact absurd rfl get | exact absurd rfl (other _)
  case counter =>
    intro h cfg t c f r x _ inv _ _ _
    refine inv.keep rfl ⟨rfl, rfl, rfl, rfl⟩ (by simp)
  case grpc =>
    intro h cfg t c f r x _ inv _ _ _
    refine inv.keep rfl ⟨rfl, rfl, rfl, rfl⟩ (by simp)
  case start =>
    intro h cfg t e _ inv _ settled
    refine inv.keep rfl ⟨rfl, rfl, rfl, rfl⟩ ?_
    rw [settled.sql]
    cases e <;> rfl

/-! ## Threads and connections -/

/-- The threads that have a connection are different, and each was started. -/
theorem Lent.threads (lent : Lent st h s ls) :
    ((loans sessionDesk h).map Prod.fst).Nodup := by
  have once : (loans sessionDesk h).Nodup :=
    (List.nodup_append.mp lent.accounts.books.once).2.1.of_map
  refine once.map_on ?_
  rintro ⟨t, m⟩ mine ⟨t', m'⟩ theirs rfl
  have same := ((lent.held _ _).mp mine).symm.trans ((lent.held _ _).mp theirs)
  rw [Option.some.inj same]

theorem loans_crew (run : Run ok (boot st) h cfg) : ∀ x ∈ loans sessionDesk h, x.1 ∈ crew h := by
  induction run with
  | init => exact List.forall_mem_nil _
  | step run met step ih =>
    cases step with
    | start done => exact fun x member => Finset.mem_insert_of_mem (ih x member)
    | @call t c k f r s next exec =>
      intro x member
      simp only [loans] at member
      split at member
      · obtain rfl | before := List.mem_cons.mp member
        · exact run.crew_of_call next
        · exact ih x before
      · exact ih x (List.mem_of_mem_erase member)
      · exact ih x member

/-- With a thread that has no connection there are fewer loans than threads. -/
theorem loans_room (room : 0 < st.mysqlMax) (run : Run ok (boot st) h cfg) (member : t ∈ crew h)
    (without : (locals watch h t).sql.con = none) : (loans sessionDesk h).length < (crew h).card := by
  have lent := lent room run
  have apart : t ∉ (loans sessionDesk h).map Prod.fst := by
    intro mine
    obtain ⟨⟨_, m⟩, held, rfl⟩ := List.mem_map.mp mine
    exact absurd (without.symm.trans ((lent.held _ m).mp held)) nofun
  have nodup : (t :: (loans sessionDesk h).map Prod.fst).Nodup :=
    List.nodup_cons.mpr ⟨apart, lent.threads⟩
  have sub : (t :: (loans sessionDesk h).map Prod.fst).toFinset ⊆ crew h := by
    intro u mem
    obtain rfl | mine := List.mem_cons.mp (List.mem_toFinset.mp mem)
    · exact member
    · obtain ⟨y, held, rfl⟩ := List.mem_map.mp mine
      exact loans_crew run y held
  have card := Finset.card_le_card sub
  rwa [List.toFinset_card_of_nodup nodup, List.length_cons, List.length_map] at card

/-- The connections there are: never more than threads, but for the one that was there at first. -/
theorem pool_small (room : 0 < st.mysqlMax) (run : Run ok (boot st) h cfg) :
    cfg.state.mysql.mysqlpool.length + (loans sessionDesk h).length ≤ max 1 (crew h).card := by
  induction run with
  | init => exact Nat.le_max_left 1 _
  | @step h cfg cfg' ev run met step ih =>
    have lent := lent room run
    cases step with
    | @start t e done =>
      have more := Finset.card_le_card (Finset.subset_insert t (crew h))
      exact ih.trans (max_le_max_left 1 more)
    | @call t c k f r s next exec =>
      have same (pool : s.mysql.mysqlpool = cfg.state.mysql.mysqlpool)
          (loan : loans sessionDesk (.call t c f r :: h) = loans sessionDesk h) :
          s.mysql.mysqlpool.length + (loans sessionDesk (.call t c f r :: h)).length ≤
            max 1 (crew h).card := by
        rw [pool, loan]
        exact ih
      cases c with
      | crash why => exact r.elim
      | mysql c =>
        obtain ⟨⟨r', x⟩, own, eq⟩ := Option.map_eq_some_iff.mp exec
        cases eq
        have allowed := run.allowed conforms next
        by_cases get : c = .getOneConnect
        · subst get
          obtain ⟨alive, connects, got⟩ := MysqlState.exec_getOneConnect own
          have picked := cfg.state.mysql.getOneConnect_picked alive connects
          rw [got] at picked
          have few := loans_room room run (run.crew_of_call next) (congrArg MysqlLocal.con allowed.1)
          rw [loans_session, crew]
          cases picked with
          | idle queue gone answers =>
            rw [queue] at ih
            simp only [List.length_append, List.length_cons, Option.map_some, Option.toList_some,
              List.length_nil] at ih ⊢
            omega
          | made gone below connected =>
            -- the pool is empty, so all others are on loan
            simp only [List.length_append, List.length_cons, Option.map_some, Option.toList_some,
              List.length_nil]
            omega
          | null gone full =>
            simp only [List.length_append, Option.map_none, Option.toList_none, List.length_nil]
            omega
        by_cases close : ∃ m, c = .close m
        · obtain ⟨m, rfl⟩ := close
          cases f <;> cases own
          have mine := (lent.held t m).mpr (congrArg MysqlLocal.con allowed)
          have some := List.length_pos_of_mem mine
          show (cfg.state.mysql.mysqlpool ++ [m]).length +
            ((loans sessionDesk h).erase (t, m)).length ≤ max 1 (crew h).card
          rw [List.length_erase_of_mem mine, List.length_append, List.length_singleton]
          omega
        · have other (m : SessId) : c ≠ .close m := fun eq => close ⟨m, eq⟩
          apply same (MysqlState.exec_pool own get other).pool
          cases c <;> first | rfl | exact absurd rfl get | exact absurd rfl (other _)
      | redis c =>
        obtain ⟨_, _, eq⟩ := Option.map_eq_some_iff.mp exec
        cases eq
        exact same rfl (by cases c <;> rfl)
      | counter c | grpc c =>
        obtain ⟨_, _, eq⟩ := Option.map_eq_some_iff.mp exec
        cases eq
        exact same rfl rfl

/-! ## Redis contexts -/

/-- `RedisPool` never counts what it makes. -/
theorem redis_uncounted_served (run : Run ok (boot st) h cfg) :
    cfg.state.redis.connectCount = 0 ∧ cfg.state.redis.maxConnect = st.redisMax := by
  refine server_invariant (fun _ s _ => s.redis.connectCount = 0 ∧ s.redis.maxConnect = st.redisMax)
    ?initial ?redis ?mysql ?counter ?grpc ?start run
  case initial => exact ⟨rfl, rfl⟩
  case redis =>
    intro h cfg t c f r x _ inv _ _ exec
    cases RedisState.exec_does exec with
    | getOneConnect got =>
      obtain ⟨c, rest, _, taken⟩ | ⟨_, _, made⟩ | none := cfg.state.redis.getOneConnect_cases f.isOk
      · rw [taken] at got
        cases got
        exact inv
      · rw [made] at got
        cases got
        exact inv
      · rw [none] at got
        cases got
        exact inv
    | close c => exact inv
    | command c cmd sent =>
      obtain ⟨_, _, count, limit⟩ := RedisState.redisCommand_pool sent
      exact ⟨count.trans inv.1, limit.trans inv.2⟩
  case mysql => exact fun _ inv _ _ _ => inv
  case counter => exact fun _ inv _ _ _ => inv
  case grpc => exact fun _ inv _ _ _ => inv
  case start => exact fun _ inv _ _ => inv

/-! ## The pools suffice -/

theorem redis_given {f : Fate} {r : Option ConnId} {x : RedisState} (redis : 0 < st.redisMax)
    (run : Run ok (boot st) h cfg) (works : f.isOk = true)
    (got : cfg.state.redis.getOneConnect f.isOk = (r, x)) : r.isSome = true := by
  obtain ⟨count, limit⟩ := redis_uncounted_served run
  rw [works] at got
  unfold RedisState.getOneConnect RedisState.createOneConnect at got
  rw [count, limit, if_pos redis] at got
  split at got <;> cases got <;> rfl

theorem mysql_given {alive : SessId → Bool} {r : Option SessId} (room : 0 < st.mysqlMax)
    (run : Run ok (boot st) h cfg) (few : (crew h).card ≤ st.mysqlMax.toNat) (member : t ∈ crew h)
    (without : (locals watch h t).sql.con = none)
    (got : cfg.state.mysql.getOneConnect alive true = (r, x)) : r.isSome = true := by
  have lent := lent room run
  have picked := cfg.state.mysql.getOneConnect_picked alive true
  rw [got] at picked
  cases picked with
  | idle queue gone answers => rfl
  | made gone below connected => rfl
  | null gone full =>
    -- all of the pool was closed, and the limit is above what is on loan
    have fewer := loans_room room run member without
    have left := lent.accounts.discards (List.append_nil cfg.state.mysql.mysqlpool).symm
    have count : (cfg.state.mysql.mysqlpool.foldl discard cfg.state.mysql).connectCount.toNat =
        0 + (loans sessionDesk h).length := left.count
    refine absurd ⟨UInt32.lt_iff_toNat_lt.mpr ?_, rfl⟩ full
    rw [count, lent.limit]
    omega

/-- One step of a run whose connecting works. -/
theorem gave_step {cfg' : Config server} {ev : Event server} (run : Run ok (boot st) h cfg)
    (redis : 0 < st.redisMax) (room : 0 < st.mysqlMax) (few : (crew h).card ≤ st.mysqlMax.toNat)
    (works : connects h cfg.state ev = true) (step : Step cfg ev cfg') : gave ev = true := by
  cases step with
  | start done => rfl
  | @call t c k f r s next exec =>
    have allowed := run.allowed conforms next
    cases c with
    | redis c =>
      cases c with
      | getOneConnect =>
        obtain ⟨⟨r', x⟩, own, same⟩ := Option.map_eq_some_iff.mp exec
        cases same
        cases RedisState.exec_does own with
        | getOneConnect got => exact redis_given redis run works got
      | close c | command c cmd => rfl
    | mysql c =>
      cases c with
      | getOneConnect =>
        obtain ⟨⟨r', x⟩, own, same⟩ := Option.map_eq_some_iff.mp exec
        cases same
        -- this thread has no handle yet, so the others have fewer than there may be
        have member := run.crew_of_call next
        have without : (locals watch h t).sql.con = none := congrArg MysqlLocal.con allowed.1
        cases f with
        | ok =>
          simp only [MysqlState.exec, Option.some.injEq] at own
          exact mysql_given room run few member without own
        | connect alive connects =>
          have connected : connects = true := works
          subst connected
          simp only [MysqlState.exec, Option.some.injEq] at own
          exact mysql_given room run few member without own
        | lostBefore | lostAfter | fail | failRollback | deliver _ _ _ | finished _ => cases works
      | close m | autocommit m mode | query m stmt | fetchRows m | rollback m | commit m => rfl
    | counter c => rfl
    | grpc c => rfl
    | crash why => rfl

theorem crew_mono (ev : Event server) : crew h ⊆ crew (ev :: h) := by
  cases ev with
  | call t c f r => exact Finset.Subset.refl _
  | start t e => exact Finset.subset_insert t _

/-- With no more threads than `MAX_CONNECT` nobody is ever given `NULL` while connecting works,
    and `connect_count` never exceeds the number of threads. -/
theorem pools_suffice (run : Run (meets connects) (boot st) h cfg) (redis : 0 < st.redisMax)
    (mysql : max 1 (crew h).card ≤ st.mysqlMax.toNat) :
    (∀ ev ∈ h, gave ev = true) ∧ cfg.state.mysql.connectCount.toNat ≤ max 1 (crew h).card := by
  have room : 0 < st.mysqlMax := UInt32.lt_iff_toNat_lt.mpr (le_trans (Nat.le_max_left 1 _) mysql)
  constructor
  · induction run with
    | init => exact List.forall_mem_nil _
    | @step h cfg cfg' ev run met step ih =>
      have less := (Finset.card_le_card (crew_mono ev)).trans ((Nat.le_max_right 1 _).trans mysql)
      refine List.forall_mem_cons.mpr ⟨gave_step run redis room less met step, ih ?_⟩
      exact max_le (UInt32.lt_iff_toNat_lt.mp room) less
  · rw [(lent room run).accounts.count]
    exact pool_small room run

/-- Three threads ask with the limit at three. -/
theorem pools_suffice_three :
    ∃ h cfg, Run (meets connects) (boot { agreeing [] 50 with mysqlMax := 3 }) h cfg ∧
      (loans sessionDesk h).length = 2 ∧ (∀ ev ∈ h, gave ev = true) ∧
        cfg.state.mysql.connectCount.toNat ≤ 3 := by
  have ran : ((replay connects (takes 0 ⟨0, ['a'], ['k']⟩ ++ go 0 9 ++
      takes 1 ⟨1, ['b'], ['k']⟩ ++ go 1 4 ++ [.start 2 .handleRPCS]) []
      (initial (boot { agreeing [] 50 with mysqlMax := 3 }))).any fun x =>
        (loans sessionDesk x.1).length == 2 && (crew x.1).card == 3) = true := by decide +kernel
  obtain ⟨⟨h, cfg⟩, played, given⟩ := (Option.any_eq_true _ _).mp ran
  simp only [Bool.and_eq_true, beq_iff_eq] at given
  have run : Run (meets connects) _ h cfg := replay_meets played
  have few : max 1 (crew h).card = 3 := by rw [given.2, Nat.max_eq_right (by decide)]
  have suffice := pools_suffice run (by decide) (few ▸ Nat.le_refl 3)
  exact ⟨h, cfg, run, given.1, suffice.1, few ▸ suffice.2⟩

end Seckill

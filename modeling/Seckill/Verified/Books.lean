import Seckill.Verified.Commands
import Seckill.Verified.Commits
import Seckill.Verified.FailureCount

/-! # Where the stock is

A unit of MySQL's stock is in Redis, in the failure count, with a thread between its
`EXEC` and its commit or failure, or lost.  Units are lost only when a refill overwrites
stock in Redis.  It follows that MySQL never finds too little stock for a unit that Redis
has granted.
-/

namespace Seckill

open CStr CallTree Threads Leases

variable {ok : Condition server} {st : Stores} {h h' : History server} {cfg : Config server}
  {s s' : Server} {ls : Nat → Local} {l : Local} {t N : Nat} {lossless : Prop}

/-- Threads run `HandleRPCS`, every command on a context succeeds, and of MySQL's calls only the
    `UPDATE` and the `INSERT` of an order may fail. -/
def ordersMayFail : History server → Server → Event server → Bool
  | _, _, .start _ e => e == .handleRPCS
  | _, _, .call _ (.redis (.command _ _)) f _ => f.isOk
  | _, _, .call _ (.mysql .getOneConnect) _ _ => true
  | _, _, .call _ (.mysql (.query _ (.updateGoods _))) _ _ => true
  | _, _, .call _ (.mysql (.query _ (.insertOrder _ _))) _ _ => true
  | _, _, .call _ (.mysql _) f _ => f.isOk
  | _, _, _ => true

theorem ordersMayFail_redis {ev : Event server} (may : ordersMayFail h s ev = true) :
    redisWorks h s ev = true := by
  unfold redisWorks
  split
  · exact may
  · rfl

theorem ordersMayFail_commits {ev : Event server} (may : ordersMayFail h s ev = true) :
    commitsWork h s ev = true := by
  unfold commitsWork
  split
  · exact may
  · rfl

theorem ordersMayFail_sound {ev : Event server} (may : ordersMayFail h s ev = true) :
    SoundMysql h s ev := by
  unfold SoundMysql
  split
  · cases may
  · cases may
  · cases may
  · trivial

/-! ## Units -/

/-- A thread with a unit has it from its `EXEC`, has not paid, and was not refused. -/
def UnitFits (l : Local) : Prop :=
  l.job.unit = true → l.job.granted = true ∧ l.job.paid = false ∧ l.job.why ≠ some .refused

/-- The failures that are not back in Redis yet. -/
def unbooked (h : History server) (s : Counters) : Int :=
  if refilling h = [] then s.failedCount else 0

/-- `lossless` says that no refill overwrites stock. -/
structure Books (lossless : Prop) (h : History server) (s : Server) (ls : Nat → Local) : Prop where
  mode : ∀ t, (ls t).fallback = false
  units : ∀ t, UnitFits (ls t)
  flight : ∀ t, t ∈ inFlight h ↔ (ls t).job.unit = true
  once : (inFlight h).Nodup
  balance : ∃ R G lost : Nat, s.redis.data.totalCount = decimal R ∧
    s.mysql.gTotalcount = some G ∧
    (R : Int) + unbooked h s.counters + (inFlight h).length + lost = G ∧
    (lossless → lost = 0) ∧
    (intMax < G → R = G ∧ s.counters.failedCount = 0 ∧ inFlight h = [])

/-- A call that moves no unit. -/
theorem Books.keep (books : Books lossless h s ls)
    (count : s'.redis.data.totalCount = s.redis.data.totalCount)
    (stock : s'.mysql.gTotalcount = s.mysql.gTotalcount)
    (failed : s'.counters.failedCount = s.counters.failedCount)
    (sameFlight : inFlight h' = inFlight h) (sameRefill : refilling h' = refilling h)
    (mode : l.fallback = false) (unit : l.job.unit = (ls t).job.unit) (fits : UnitFits l) :
    Books lossless h' s' (Function.update ls t l) where
  mode := forall_update (P := fun l : Local => l.fallback = false) books.mode mode
  units := forall_update books.units fits
  flight t' := by
    rw [sameFlight, update_eq (fun l : Local => l.job.unit) unit]
    exact books.flight t'
  once := sameFlight ▸ books.once
  balance := by
    rw [count, stock, failed, sameFlight, unbooked, failed, sameRefill]
    exact books.balance

theorem UnitFits.of_none (none : l.job.unit = false) : UnitFits l :=
  fun unit => absurd (none.symm.trans unit) nofun

/-- Something of a thread with a unit is with MySQL, in a range that `atoi` reads. -/
theorem Books.stock (books : Books lossless h s ls) (failed : 0 ≤ s.counters.failedCount)
    (unit : (ls t).job.unit = true) :
    ∃ G : Nat, s.mysql.gTotalcount = some G ∧ 0 < G ∧ (G : Int) ≤ intMax := by
  obtain ⟨R, G, lost, _, stock, sum, _, big⟩ := books.balance
  have member : t ∈ inFlight h := (books.flight t).mpr unit
  have pos : 0 < (inFlight h).length := List.length_pos_of_mem member
  have back : 0 ≤ unbooked h s.counters := by
    unfold unbooked
    split
    · exact failed
    · exact Int.le_refl 0
  refine ⟨G, stock, by omega, ?_⟩
  by_contra above
  have none := (big (by omega)).2.2
  rw [none] at member
  cases member

/-! ## The commands -/

theorem noteCmd_units {cmd : RedisCmd} {r : Option RedisReply} (fits : UnitFits l)
    (paid : (l.noteCmd cmd r).job.paid = l.job.paid) (exec : cmd ≠ .exec) :
    UnitFits (l.noteCmd cmd r) := by
  intro unit
  rw [Local.noteCmd_unit fun eq => absurd eq exec] at unit
  obtain ⟨granted, unpaid, refused⟩ := fits unit
  exact ⟨(Local.noteCmd_granted exec).trans granted, paid.trans unpaid,
    fun eq => refused (Local.noteCmd_refused eq)⟩

/-- `EXEC` hands a unit over to its thread. -/
theorem Books.grant {c : ConnId} {f : Fate} {r : Option RedisReply} {k : Nat}
    (books : Books lossless h s ls) (went : granted r = true)
    (before : s.redis.data.totalCount = decimal (k + 1)) (positive : 0 < atoi (decimal (k + 1)))
    (after : s'.redis.data.totalCount = decimal k)
    (stock : s'.mysql.gTotalcount = s.mysql.gTotalcount) (counters : s'.counters = s.counters)
    (range : ∀ G, s.mysql.gTotalcount = some G → G < 4294967296)
    (fresh : (ls t).job.unit = false) (mode : l.fallback = false) (unit : l.job.unit = true)
    (fits : UnitFits l) :
    Books lossless (.call t (.redis (.command c .exec)) f r :: h) s' (Function.update ls t l) := by
  have flight : inFlight (.call t (.redis (.command c .exec)) f r :: h) = t :: inFlight h := by
    simp [inFlight, went]
  have absent : t ∉ inFlight h := fun member =>
    absurd (fresh.symm.trans ((books.flight t).mp member)) nofun
  constructor
  · exact forall_update (P := fun l : Local => l.fallback = false) books.mode mode
  · exact forall_update books.units fits
  · rw [flight]
    exact mem_cons_update (fun l : Local => l.job.unit) books.flight unit
  · rw [flight]
    exact List.nodup_cons.mpr ⟨absent, books.once⟩
  · obtain ⟨R, G, lost, count, stocked, sum, exact_, big⟩ := books.balance
    obtain rfl : R = k + 1 := by
      have same := decimal_injective (count.symm.trans before)
      omega
    -- a count that `EXEC` was sent for is in the range of `int`
    have small : ¬intMax < G := by
      intro above
      have all := (big above).1
      have high := range G stocked
      have low := le_intMax_of_atoi_pos (n := (k : Int) + 1) (by omega) (by omega) positive
      omega
    refine ⟨k, G, lost, after, stock.trans stocked, ?_, exact_, fun above => absurd above small⟩
    have back : unbooked (.call t (.redis (.command c .exec)) f r :: h) s'.counters =
        unbooked h s.counters := by
      rw [counters]
      rfl
    rw [back, flight, List.length_cons]
    push_cast at sum ⊢
    omega

/-- A refill puts all failures back, over whatever Redis had. -/
theorem Books.refill {c : ConnId} {f : Fate} {r : Option RedisReply} {value : Str}
    (books : Books lossless h s ls) (set : isOK r = true) (idle : refilling h = [])
    (failures : 0 < s.counters.failedCount) (text : value = decimal s.counters.failedCount)
    (after : s'.redis.data.totalCount = value)
    (stock : s'.mysql.gTotalcount = s.mysql.gTotalcount)
    (empty : lossless → s.redis.data.totalCount = decimal 0) (mode : l.fallback = false)
    (unit : l.job.unit = (ls t).job.unit) (fits : UnitFits l) :
    Books lossless (.call t (.redis (.command c (.set value))) f r :: h) s'
      (Function.update ls t l) := by
  constructor
  · exact forall_update (P := fun l : Local => l.fallback = false) books.mode mode
  · exact forall_update books.units fits
  · intro t'
    rw [update_eq (fun l : Local => l.job.unit) unit]
    exact books.flight t'
  · exact books.once
  · obtain ⟨R, G, lost, count, stocked, sum, exact_, big⟩ := books.balance
    obtain ⟨F, count'⟩ : ∃ F : Nat, s.counters.failedCount = F :=
      ⟨s.counters.failedCount.toNat, by omega⟩
    -- the count is replaced, so what was in it is lost
    refine ⟨F, G, lost + R, ?_, stock.trans stocked, ?_, fun kept => ?_, fun above => ?_⟩
    · rw [after, text, count']
    · have before : unbooked h s.counters = F := by simp [unbooked, idle, count']
      have now : unbooked (.call t (.redis (.command c (.set value))) f r :: h) s'.counters = 0 := by
        simp [unbooked, refilling, set]
      rw [before] at sum
      rw [now]
      have flight : inFlight (.call t (.redis (.command c (.set value))) f r :: h) = inFlight h := rfl
      rw [flight]
      push_cast
      omega
    · -- over an empty counter nothing is lost
      have zero := decimal_injective (count.symm.trans (empty kept))
      have none := exact_ kept
      omega
    · have none := (big above).2.1
      omega

/-! ## MySQL -/

/-- A thread with a unit is not refused: there is stock, and its count is read as it is. -/
theorem Books.not_refused {c : MysqlCall} {f : Fate} {r : c.Reply} {x : MysqlState}
    (books : Books lossless h s ls) (ledger : Ledger N st s.mysql ls)
    (failed : 0 ≤ s.counters.failedCount)
    (may : ordersMayFail h s (.call t (.mysql c) f r) = true) (allowed : (ls t).AllowsMysql c)
    (done : s.mysql.exec c f = some (r, x)) (unit : (ls t).job.unit = true)
    (before : (ls t).job.why ≠ some .refused) :
    ((ls t).note (.mysql c) f r).job.why ≠ some .refused := by
  cases c with
  | query m stmt =>
    cases stmt with
    | selectGoods =>
      obtain rfl := Fate.eq_ok may
      obtain ⟨_, ran⟩ := query_ok done
      cases ran
      exact before
    | selectUsrKey user | selectOrder user => exact before
    | updateGoods count | insertOrder user key =>
      simp only [Local.note, Local.noteMysql, Local.noteQuery]
      (repeat' split) <;> first | exact before | simp [Local.setWhy]
  | fetchRows m =>
    obtain rfl := Fate.eq_ok may
    by_cases selected : (ls t).sql.phase = .selected
    · -- the row is the stock, which is not empty while a unit is out
      have fits := ledger.fits t m allowed.1
      rw [selected] at fits
      obtain ⟨_, _, _, result⟩ := fits
      obtain ⟨G, stock, pos, range⟩ := books.stock failed unit
      have rows : r = [[decimal G]] := by
        cases done
        rw [result, stock]
        rfl
      have count : lastCount r = G := by
        rw [rows]
        exact atoi_decimal (by omega) range
      have there : 0 < lastCount r := by omega
      simp only [Local.note, Local.noteMysql, Local.noteRows, selected, if_pos there]
      exact before
    · simp only [Local.note, Local.noteMysql, noteRows_of_ne selected]
      exact before
  | getOneConnect | close m | autocommit m mode | rollback m | commit m => exact before

/-- A commit takes the thread's unit out of the stock. -/
theorem Books.commit {m : SessId} {f : Fate} {k : Nat} (books : Books lossless h s ls)
    (held : (ls t).job.unit = true) (before : s.mysql.gTotalcount = some (k + 1))
    (after : s'.mysql.gTotalcount = some k)
    (count : s'.redis.data.totalCount = s.redis.data.totalCount)
    (counters : s'.counters = s.counters) (mode : l.fallback = false)
    (unit : l.job.unit = false) :
    Books lossless (.call t (.mysql (.commit m)) f false :: h) s' (Function.update ls t l) := by
  have member : t ∈ inFlight h := (books.flight t).mpr held
  have flight : inFlight (.call t (.mysql (.commit m)) f false :: h) = (inFlight h).erase t := by
    simp [inFlight]
  constructor
  · exact forall_update (P := fun l : Local => l.fallback = false) books.mode mode
  · exact forall_update books.units (.of_none unit)
  · rw [flight]
    exact mem_erase_update (fun l : Local => l.job.unit) books.flight books.once unit
  · rw [flight]
    exact books.once.erase t
  · obtain ⟨R, G, lost, counted, stocked, sum, exact_, big⟩ := books.balance
    obtain rfl : G = k + 1 := Option.some.inj (stocked.symm.trans before)
    refine ⟨R, k, lost, count.trans counted, after, ?_, exact_, fun above => ?_⟩
    · have back : unbooked (.call t (.mysql (.commit m)) f false :: h) s'.counters =
          unbooked h s.counters := by
        rw [counters]
        rfl
      -- one unit less in flight and in stock
      have pos := List.length_pos_of_mem member
      rw [back, flight, List.length_erase_of_mem member]
      push_cast at sum ⊢
      omega
    · have none := (big (by push_cast; omega)).2.2
      rw [none] at member
      cases member

/-- A failure that is counted is a unit given up. -/
theorem Books.fail {f : Fate} {r : Unit} (books : Books lossless h s ls)
    (held : (ls t).job.unit = true) (idle : refilling h = [])
    (failed : s'.counters.failedCount = s.counters.failedCount + 1)
    (count : s'.redis.data.totalCount = s.redis.data.totalCount)
    (stock : s'.mysql.gTotalcount = s.mysql.gTotalcount) (mode : l.fallback = false)
    (unit : l.job.unit = false) :
    Books lossless (.call t (.counter .incFailedCount) f r :: h) s' (Function.update ls t l) := by
  have member : t ∈ inFlight h := (books.flight t).mpr held
  have flight : inFlight (.call t (.counter .incFailedCount) f r :: h) = (inFlight h).erase t := rfl
  constructor
  · exact forall_update (P := fun l : Local => l.fallback = false) books.mode mode
  · exact forall_update books.units (.of_none unit)
  · rw [flight]
    exact mem_erase_update (fun l : Local => l.job.unit) books.flight books.once unit
  · rw [flight]
    exact books.once.erase t
  · obtain ⟨R, G, lost, counted, stocked, sum, exact_, big⟩ := books.balance
    refine ⟨R, G, lost, count.trans counted, stock.trans stocked, ?_, exact_, fun above => ?_⟩
    · have before : unbooked h s.counters = s.counters.failedCount := by simp [unbooked, idle]
      have after : unbooked (.call t (.counter .incFailedCount) f r :: h) s'.counters =
          s.counters.failedCount + 1 := by
        have still : refilling (.call t (.counter .incFailedCount) f r :: h) = [] := idle
        rw [unbooked, if_pos still, failed]
      -- one unit less in flight, one failure more
      have pos := List.length_pos_of_mem member
      rw [before] at sum
      rw [after, flight, List.length_erase_of_mem member]
      omega
    · have none := (big above).2.2
      rw [none] at member
      cases member

/-- The refill is over: the counter is cleared of what is back in Redis. -/
theorem Books.clear {n : Int} {f : Fate} {r : Unit} (books : Books lossless h s ls)
    (mine : refilling h = [t]) (failed : s'.counters.failedCount = 0)
    (count : s'.redis.data.totalCount = s.redis.data.totalCount)
    (stock : s'.mysql.gTotalcount = s.mysql.gTotalcount) (mode : l.fallback = false)
    (unit : l.job.unit = (ls t).job.unit) (fits : UnitFits l) :
    Books lossless (.call t (.counter (.setFailedCount n)) f r :: h) s' (Function.update ls t l) := by
  constructor
  · exact forall_update (P := fun l : Local => l.fallback = false) books.mode mode
  · exact forall_update books.units fits
  · intro t'
    rw [update_eq (fun l : Local => l.job.unit) unit]
    exact books.flight t'
  · exact books.once
  · obtain ⟨R, G, lost, counted, stocked, sum, exact_, big⟩ := books.balance
    refine ⟨R, G, lost, count.trans counted, stock.trans stocked, ?_, exact_,
      fun above => ⟨(big above).1, failed, (big above).2.2⟩⟩
    have before : unbooked h s.counters = 0 := by simp [unbooked, mine]
    have after : unbooked (.call t (.counter (.setFailedCount n)) f r :: h) s'.counters = 0 := by
      simp [unbooked, refilling, mine, failed]
    rw [before] at sum
    rw [after]
    exact sum

/-! ## Along a run -/

/-- The facts that the steps below use, of the run so far. -/
structure Ready (N : Nat) (st : Stores) (h : History server) (s : Server) : Prop where
  ledger : Ledger N st s.mysql (locals watch h)
  counts : Counts s (locals watch h)
  locks : ∀ t, LockFits s.counters t (locals watch h t)
  refilling : Refilling h (locals watch h)

theorem ready (range : N < 4294967296) (redis : st.totalCount = decimal N)
    (mysql : st.gTotalcount = some N)
    (may : ∀ {h s ev}, ok h s ev → ordersMayFail h s ev = true) (run : Run ok (boot st) h cfg) :
    Ready N st h cfg.state where
  ledger := ledger range mysql (fun met => ordersMayFail_sound (may met)) run
  counts := counts redis run
  locks := lock_fits run
  refilling := refilling_fits run

theorem Books.command {c : ConnId} {cmd : RedisCmd} {f : Fate} {r : Option RedisReply}
    {x : RedisState} (range : N < 4294967296) (redis : st.totalCount = decimal N)
    (works : ∀ {h s ev}, ok h s ev → redisWorks h s ev = true) (run : Run ok (boot st) h cfg)
    (books : Books lossless h cfg.state (locals watch h)) (ready : Ready N st h cfg.state)
    (met : ok h cfg.state (.call t (.redis (.command c cmd)) f r))
    (kept : lossless → ∀ value, cmd = .set value → cfg.state.redis.data.totalCount = decimal 0)
    (allowed : (locals watch h t).Allowed (.redis (.command c cmd)))
    (sent : cfg.state.redis.redisCommand c cmd f = some (r, x)) :
    Books lossless (.call t (.redis (.command c cmd)) f r :: h) { cfg.state with redis := x }
      (Function.update (locals watch h) t
        ((locals watch h t).note (.redis (.command c cmd)) f r)) := by
  have mode : ((locals watch h t).note (.redis (.command c cmd)) f r).fallback = false := by
    simpa using books.mode t
  have paid : ((locals watch h t).noteCmd cmd r).job.paid = (locals watch h t).job.paid :=
    (Local.note_redis (c := .command c cmd) (f := f)).2.2.1
  by_cases exec : cmd = .exec
  · subst exec
    have fresh : (locals watch h t).job.unit = false := by
      by_contra unit
      have granted := (books.units t (by simpa using unit)).1
      exact absurd (allowed.2.1.1.symm.trans granted) nofun
    obtain ⟨rfl, data⟩ | ⟨rfl, k, q, key, _, before, _, positive, data⟩ :=
      exec_served redis works run met allowed sent
    · refine books.keep (by rw [data]) rfl rfl rfl rfl mode rfl (.of_none ?_)
      exact fresh
    · refine books.grant rfl before positive (by rw [data]) rfl rfl ?_ fresh mode rfl
        fun _ => ⟨rfl, paid.trans allowed.2.1.2.2, nofun⟩
      intro G stock
      obtain ⟨g, sold, stock', _, sum⟩ := ready.ledger.stock
      obtain rfl : g = G := Option.some.inj (stock'.symm.trans stock)
      omega
  have same := Local.noteCmd_unit (l := locals watch h t) (r := r) fun eq => absurd eq exec
  have units := noteCmd_units (books.units t) paid exec
  obtain ⟨_, reply, rfl⟩ := served works run met sent
  have fits := in_step works run allowed.1
  by_cases set : ∃ value, cmd = .set value
  · obtain ⟨value, rfl⟩ := set
    obtain ⟨_, free, first, last, saw, failures, text⟩ := allowed
    obtain ⟨rfl, rfl⟩ := (ready.locks t).saw first last saw
    have idle := ready.refilling.none ready.locks (t := t) (by simp [saw]) (by simp [saw])
    rw [free] at fits
    rw [serve_data fits (by simp)] at reply ⊢
    have answered : isOK r = true := by
      subst reply
      exact (by decide : isOK (some (.status okText)) = true)
    exact books.refill answered idle failures text rfl rfl (fun loss => kept loss value rfl) mode
      same units
  · have other (value : Str) : cmd ≠ .set value := fun eq => set ⟨value, eq⟩
    refine books.keep ?_ rfl rfl ?_ ?_ mode same units
    · refine serve_untouched exec other fun decr => ?_
      -- `DECR` is only sent inside `MULTI`
      subst decr
      obtain ⟨v, opened⟩ := allowed.2
      rw [opened] at fits
      simp [fits.1]
    · cases cmd <;> first | rfl | exact absurd rfl exec
    · cases cmd <;> first | rfl | exact absurd rfl (other _)

theorem Books.mysql {c : MysqlCall} {f : Fate} {r : c.Reply} {x : MysqlState}
    (commits : ∀ {h s ev}, ok h s ev → commitsWork h s ev = true) (run : Run ok (boot st) h cfg)
    (books : Books lossless h cfg.state (locals watch h)) (ready : Ready N st h cfg.state)
    (may : ordersMayFail h cfg.state (.call t (.mysql c) f r) = true)
    (allowed : (locals watch h t).AllowsMysql c)
    (done : cfg.state.mysql.exec c f = some (r, x)) :
    Books lossless (.call t (.mysql c) f r :: h) { cfg.state with mysql := x }
      (Function.update (locals watch h) t ((locals watch h t).note (.mysql c) f r)) := by
  have mode : ((locals watch h t).note (.mysql c) f r).fallback = false := by
    simpa using books.mode t
  by_cases commit : ∃ m, c = .commit m
  · obtain ⟨m, rfl⟩ := commit
    have sells := allowed.2.1.resolve_right (by simp [books.mode t])
    obtain ⟨rfl, k, q, key, _, before, after, _⟩ :=
      commit_sells run ready.ledger (ordersMayFail_commits may) allowed done
    exact books.commit sells before after rfl rfl mode (Bool.and_false _)
  · have other (m : SessId) : c ≠ .commit m := fun eq => commit ⟨m, eq⟩
    obtain ⟨paid, unit, _⟩ := Local.note_mysql_paid (l := locals watch h t) (f := f) (r := r) other
    have same := mysql_committed ready.ledger allowed other (never_tried commits run t) done
    refine books.keep rfl same.count rfl ?_ ?_ mode unit fun held => ?_
    · cases c <;> first | rfl | exact absurd rfl (other _)
    · cases c <;> rfl
    · rw [unit] at held
      obtain ⟨granted, unpaid, before⟩ := books.units t held
      refine ⟨?_, paid.trans unpaid, ?_⟩
      · simpa using granted
      · exact books.not_refused ready.ledger ready.counts.failed may allowed done held before

theorem Books.counter {c : CounterCall} {f : Fate} {r : c.Reply} {x : Counters}
    (books : Books lossless h s (locals watch h)) (ready : Ready N st h s)
    (allowed : (locals watch h t).AllowsCounter c)
    (done : s.counters.exec t c f = some (r, x)) :
    Books lossless (.call t (.counter c) f r :: h) { s with counters := x }
      (Function.update (locals watch h) t ((locals watch h t).note (.counter c) f r)) := by
  have mode : ((locals watch h t).note (.counter c) f r).fallback = false := by
    simpa using books.mode t
  have units : UnitFits ((locals watch h t).note (.counter c) f r) := by
    intro unit
    simpa using books.units t (Local.note_counter_unit unit)
  cases Counters.exec_does done with
  | incFailedCount =>
    have idle := ready.refilling.none ready.locks (t := t) (by simp [allowed.1]) (by simp [allowed.1])
    have sells := allowed.2.1.resolve_right (by simp [books.mode t])
    exact books.fail sells idle rfl rfl rfl mode rfl
  | setFailedCount n =>
    obtain ⟨rfl, k, refilled⟩ := allowed
    exact books.clear (ready.refilling.only t k refilled) rfl rfl rfl mode rfl units
  | successNum =>
    refine books.keep rfl rfl rfl rfl rfl mode ?_ units
    simp only [Local.note, Local.noteCounter]
    (repeat' split) <;> rfl
  | failedCount =>
    refine books.keep rfl rfl rfl rfl rfl mode ?_ units
    simp only [Local.note, Local.noteCounter]
    split <;> rfl
  | wrlock nobody | unlock | incSuccessNum => exact books.keep rfl rfl rfl rfl rfl mode rfl units

/-- A thread that answers has sold its unit, or given it up. -/
theorem Books.answered {w : WorkerId} {result : Str} (books : Books lossless h s ls)
    (allowed : (ls t).AllowsGrpc (.finish w result)) : (ls t).job.unit = false := by
  by_contra held
  have held : (ls t).job.unit = true := by simpa using held
  obtain ⟨_, unpaid, refused⟩ := books.units t held
  obtain ⟨_, _, _, _, _, _, _, a, _, ⟨_, paid⟩ | ⟨_, _, _, only⟩⟩ := allowed
  · exact absurd (unpaid.symm.trans paid) nofun
  · exact refused (only held)

theorem Books.grpc {c : GrpcCall} {f : Fate} {r : c.Reply} {x : GrpcState}
    (books : Books lossless h s (locals watch h)) (allowed : (locals watch h t).AllowsGrpc c) :
    Books lossless (.call t (.grpc c) f r :: h) { s with grpc := x }
      (Function.update (locals watch h) t ((locals watch h t).note (.grpc c) f r)) := by
  have mode : ((locals watch h t).note (.grpc c) f r).fallback = false := by
    simpa using books.mode t
  have keep (unit : ((locals watch h t).note (.grpc c) f r).job.unit = (locals watch h t).job.unit)
      (units : UnitFits ((locals watch h t).note (.grpc c) f r)) :
      Books lossless (.call t (.grpc c) f r :: h) { s with grpc := x }
        (Function.update (locals watch h) t ((locals watch h t).note (.grpc c) f r)) :=
    books.keep rfl rfl rfl rfl rfl mode unit units
  cases c with
  -- whoever answers, or waits for an event, has no unit
  | finish w result => exact keep (books.answered allowed).symm (.of_none rfl)
  | next =>
    have none : (locals watch h t).job.unit = false := by rw [allowed.1]
    refine keep ?_ (.of_none ?_)
    · rw [none]
      cases f <;> rfl
    · cases f <;> rfl
  | setStatus w st =>
    refine keep ?_ fun unit => ?_
    · simp only [Local.note, Local.noteGrpc, Job.noteStatus]
      (repeat' split) <;> rfl
    · simp only [Local.note, Local.noteGrpc, Job.noteStatus] at unit ⊢
      (repeat' split) <;> exact books.units t (Local.note_grpc_unit (f := f) (r := r) unit)
  | requestseckill w =>
    refine keep ?_ fun unit => ?_
    · simp only [Local.note, Local.noteGrpc, Job.noteRegistered]
      split <;> rfl
    · simp only [Local.note, Local.noteGrpc, Job.noteRegistered] at unit ⊢
      split <;> exact books.units t (Local.note_grpc_unit (f := f) (r := r) unit)
  | alloc | status w | usrname w | usrkey w | setResult w result | result w | delete w =>
    exact keep rfl (books.units t)

/-- The books are right along every run. -/
theorem books (range : N < 4294967296) (redis : st.totalCount = decimal N)
    (mysql : st.gTotalcount = some N)
    (may : ∀ {h s ev}, ok h s ev → ordersMayFail h s ev = true)
    (kept : lossless → ∀ {h s t c value f r}, ok h s (.call t (.redis (.command c (.set value))) f r) →
      s.redis.data.totalCount = decimal 0)
    (run : Run ok (boot st) h cfg) : Books lossless h cfg.state (locals watch h) := by
  have works {h : History server} {s : Server} {ev : Event server} (met : ok h s ev) :
      redisWorks h s ev = true := ordersMayFail_redis (may met)
  have commits {h : History server} {s : Server} {ev : Event server} (met : ok h s ev) :
      commitsWork h s ev = true := ordersMayFail_commits (may met)
  refine server_invariant (fun h s ls => Books lossless h s ls)
    ?initial ?redis ?mysql ?counter ?grpc ?start run
  case initial =>
    refine ⟨fun _ => rfl, fun _ => .of_none rfl, fun t => by simp [inFlight], List.nodup_nil,
      N, N, 0, redis, mysql, ?_, fun _ => rfl, fun _ => ⟨rfl, rfl, rfl⟩⟩
    simp [unbooked, refilling, inFlight, boot]
  case redis =>
    intro h cfg t c f r x run inv met allowed exec
    have mode : ((locals watch h t).note (.redis c) f r).fallback = false := by
      simpa using inv.mode t
    cases RedisState.exec_does exec with
    | getOneConnect got =>
      refine inv.keep ?_ rfl rfl rfl rfl mode rfl (inv.units t)
      exact congrArg RedisData.totalCount (RedisState.getOneConnect_data got)
    | close c => exact inv.keep rfl rfl rfl rfl rfl mode rfl (inv.units t)
    | command c cmd sent =>
      refine inv.command range redis works run (ready range redis mysql may run) met
        (fun loss value eq => ?_) allowed sent
      subst eq
      exact kept loss met
  case mysql =>
    intro h cfg t c f r x run inv met allowed exec
    exact inv.mysql commits run (ready range redis mysql may run) (may met) allowed exec
  case counter =>
    intro h cfg t c f r x run inv _ allowed exec
    exact inv.counter (ready range redis mysql may run) allowed exec
  case grpc =>
    intro h cfg t c f r x _ inv _ allowed _
    exact inv.grpc allowed
  case start =>
    intro h cfg t e _ inv met settled
    have none : (locals watch h t).job.unit = false := settled.unit
    have handle : e = .handleRPCS := by simpa [ordersMayFail] using may met
    subst handle
    exact inv.keep rfl rfl rfl rfl rfl rfl none.symm (.of_none rfl)

end Seckill

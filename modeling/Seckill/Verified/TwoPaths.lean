import Seckill.Verified.OptimisticLocking
import Seckill.Verified.SaleOutcomes

/-! # Redis or MySQL

A request run alone from stores that agree, with a Redis context and without one.  The two
checks are made over one store or over the other: `HGET` compares bytes and MySQL weights.
The sale itself is the same call, and it sees to it that nothing is sold twice; so the two
ways differ only where MySQL takes the name for another user's.
-/

namespace Seckill

open CStr CallTree Transaction

/-! ## A session that reads -/

namespace MysqlState

variable {s y z : MysqlState} {m : SessId}

/-- Nothing of the session is pending, and the others and what is durable are as before. -/
structure Reads (s y : MysqlState) (m : SessId) : Prop where
  beside : Beside s y m
  shop : y.shop = s.shop
  settled : (y.view m).Settled
  usrInfo : y.usrInfo = s.usrInfo

theorem Reads.trans (first : Reads s y m) (second : Reads y z m) : Reads s z m where
  beside := first.beside.trans second.beside
  shop := second.shop.trans first.shop
  settled := second.settled
  usrInfo := second.usrInfo.trans first.usrInfo

theorem Step.reads {x : Trx Shop} (step : Step s m x y) (durable : x.durable = s.shop)
    (settled : x.Settled) (usrInfo : y.usrInfo = s.usrInfo) : Reads s y m where
  beside := step.beside
  shop := (congrArg Trx.durable step.view).trans durable
  settled := by
    rw [step.view]
    exact settled
  usrInfo := usrInfo

/-- A `SELECT` without a lock. -/
theorem select_reads (settled : (s.view m).Settled) (rows : List (List Str)) :
    Reads s ((s.setResult m rows).stmtDone m) m ∧
      (((s.setResult m rows).stmtDone m).session m).result = rows := by
  have same : (s.setResult m rows).view m = s.view m := by
    simp [view, shop, seenCount, ownRows, setResult, setSession]
  constructor
  · have step : Step s m ((s.view m).write id) ((s.setResult m rows).stmtDone m) := by
      refine stmtDone_step ⟨rfl, fun _ => Or.inr, rfl⟩ rfl ?_ (congrArg Trx.seen same)
      exact congrArg Trx.autocommit same
    rw [settled.write_id] at step
    refine step.reads rfl settled ?_
    unfold stmtDone
    split <;> rfl
  · unfold stmtDone
    split <;> simp [commitTrx, endTrx, setSession, setResult]

theorem fetch_reads (settled : (s.view m).Settled) : Reads s (s.setResult m []) m where
  beside := ⟨rfl, fun _ => Or.inr, rfl⟩
  shop := rfl
  settled := by
    have same : (s.setResult m []).view m = s.view m := by
      simp [view, shop, seenCount, ownRows, setResult, setSession]
    rw [same]
    exact settled
  usrInfo := rfl

theorem autocommit_reads (settled : (s.view m).Settled) (mode : Bool) :
    ∃ e y, s.autocommit m mode .ok = some (e, y) ∧ Reads s y m := by
  obtain ⟨e, y, done, step⟩ := s.autocommit_step (m := m) mode true
  obtain ⟨same, after⟩ := settled.setAutocommit mode
  refine ⟨e, y, done, step.reads ?_ after ?_⟩
  · exact congrArg Trx.durable same
  · have switched : y = ((if mode then s.commitTrx m else s).setSession m
        { (if mode then s.commitTrx m else s).session m with autocommit := mode }) :=
      (congrArg Prod.snd (Option.some.inj done)).symm
    rw [switched]
    cases mode <;> rfl

end MysqlState

/-! ## The sale -/

/-- The request is the only one: its `Worker` is there, nothing is locked, and nothing is pending
    on the connection. -/
structure Calm (s : Server) (this : WorkerId) (m : SessId) : Prop where
  worker : ∃ x, s.grpc.worker this = some x
  unlocked : s.counters.rwlock = none
  settled : (s.mysql.view m).Settled
  range : ∀ n, s.mysql.gTotalcount = some n → n < 4294967296
  lock : s.mysql.lock = none
  inserts : s.mysql.inserts = []

/-- The request has only read so far, in MySQL. -/
structure Asked (s y : Server) (this : WorkerId) (m : SessId) : Prop where
  worker : ∃ x, y.grpc.worker this = some x
  unlocked : y.counters.rwlock = none
  reads : MysqlState.Reads s.mysql y.mysql m

/-- MySQL has stock, and no order under a name equal to this one. -/
def Sells (s : MysqlState) (name : Str) : Prop :=
  (∀ row ∈ s.orderInfo, s.sameName row.usrName name = false) ∧
    ∃ n : Nat, s.gTotalcount = some n ∧ 0 < atoi (decimal n)

/-- What selling one unit makes of the shop. -/
def Shop.sell (shop : Shop) (name key : Str) : Shop :=
  Shop.addRow name key (shop.setStock (({} : Outcomes).totalCount shop - 1))

/-- The answer of a request, and what it leaves in MySQL. -/
structure Decided (s : Server) (this : WorkerId) (name key : Str) (sells : Prop) (s' : Server) :
    Prop where
  sold : sells → answerOf s' this = some one ∧ s'.mysql.shop = s.mysql.shop.sell (cStr name) (cStr key)
  refused : ¬sells → answerOf s' this = some zero ∧ s'.mysql.shop = s.mysql.shop

variable {t : Nat} {s y : Server} {this : WorkerId} {m : SessId} {name key : Str} {c : ConnId}

theorem Asked.called (calm : Calm s this m) (asked : Asked s y this m) :
    Called y this m name key {} where
  worker := asked.worker
  unlocked := asked.unlocked
  settled := asked.reads.settled
  range n stock := by
    have same : y.mysql.gTotalcount = s.mysql.gTotalcount := congrArg Shop.stock asked.reads.shop
    exact calm.range n (same.symm.trans stock)
  select _ := by
    apply asked.reads.beside.blocked
    show s.mysql.lock.any (· != m) = false
    rw [calm.lock]
    rfl
  insert _ := by
    apply asked.reads.beside.blocked
    show s.mysql.inserts.any _ = false
    rw [calm.inserts]
    rfl

theorem totalCount_pos {shop : Shop} : 0 < ({} : Outcomes).totalCount shop ↔
    ∃ n : Nat, shop.stock = some n ∧ 0 < atoi (decimal n) := by
  cases stock : shop.stock with
  | none => simp [Outcomes.totalCount, stock]
  | some n => simp [Outcomes.totalCount, stock]

/-- Only an order under an equal name keeps the `INSERT` from being done. -/
theorem Asked.booked (asked : Asked s y this m) :
    ({} : Outcomes).booked y.mysql m name ↔
      ∀ row ∈ s.mysql.orderInfo, s.mysql.sameName row.usrName name = false := by
  have rows : (y.mysql.view m).seen.rows = s.mysql.orderInfo := by
    rw [asked.reads.settled]
    exact congrArg Shop.rows asked.reads.shop
  have taken : y.mysql.taken m name =
      s.mysql.orderInfo.any fun row => s.mysql.sameName row.usrName name := by
    simp only [MysqlState.taken, rows, MysqlState.sameName, asked.reads.beside.weight]
  simp [Outcomes.booked, MysqlState.insertOutcome, taken]

/-- The sale comes to one unit, or to nothing. -/
theorem sale_answers (calm : Calm s this m) (asked : Asked s y this m) :
    (seckillGoodsMysql this name key (some m)).Ends (answering t {}) y
      fun _ s' => Decided s this name key (Sells s.mysql (cStr name)) s' := by
  apply (seckillGoodsMysql_ends (asked.called calm : Called y this m name key {})).mono
  intro _ s' done
  have shop := asked.reads.shop
  obtain ⟨sold, refused⟩ := done
  rw [shop] at sold refused
  by_cases positive : 0 < ({} : Outcomes).totalCount s.mysql.shop
  · obtain ⟨view, _, answer⟩ := sold positive
    have settled := (opened_settled (o := {}) asked.reads.settled).2
    have durable := congrArg Trx.durable view
    rw [Trx.work_exact settled (by simp [Outcomes.opened])] at durable
    have before : (({} : Outcomes).opened (y.mysql.view m)).durable = s.mysql.shop := shop
    rw [before] at durable
    change s'.mysql.shop = if ({} : Outcomes).booked y.mysql m (cStr name) then _ else _ at durable
    by_cases booked : ({} : Outcomes).booked y.mysql m (cStr name)
    · rw [if_pos booked] at durable answer
      have sells : Sells s.mysql (cStr name) :=
        ⟨asked.booked.mp booked, totalCount_pos.mp positive⟩
      exact ⟨fun _ => ⟨answer, durable⟩, fun none => absurd sells none⟩
    · rw [if_neg booked] at durable answer
      exact ⟨fun sells => absurd (asked.booked.mpr sells.1) booked, fun _ => ⟨answer, durable⟩⟩
  · obtain ⟨same, _, answer⟩ := refused positive
    exact ⟨fun sells => absurd (totalCount_pos.mpr sells.2) positive, fun _ => ⟨answer, same⟩⟩

/-! ## Without a context -/

/-- MySQL has the user, under an equal name, with this key. -/
def MysqlState.knows (s : MysqlState) (name key : Str) : Bool :=
  s.usrInfo.any fun u => s.sameName u.1 name && cStr u.2 == key

/-- MySQL has an order under an equal name. -/
def MysqlState.hasOrder (s : MysqlState) (name : Str) : Bool :=
  s.orderInfo.any fun row => s.sameName row.usrName name

theorem Asked.trans {z : MysqlState} (asked : Asked s y this m)
    (reads : MysqlState.Reads y.mysql z m) : Asked s { y with mysql := z } this m where
  worker := asked.worker
  unlocked := asked.unlocked
  reads := asked.reads.trans reads

theorem checkUserInfoMysql_ends (asked : Asked s y this m) :
    (checkUserInfoMysql name key (some m)).Ends (answering t {}) y
      fun registered y' => Asked s y' this m ∧ registered = s.mysql.knows (cStr name) key := by
  let rows := (y.mysql.usrInfo.filter fun u => y.mysql.sameName u.1 (cStr name)).map fun u => [u.2]
  obtain ⟨selects, result⟩ := MysqlState.select_reads asked.reads.settled rows
  refine ends_mysql (c := .query m (.selectUsrKey (cStr name))) (r := false) rfl ?_
  refine ends_mysql (c := .fetchRows m) rfl ?_
  refine .ret ⟨(asked.trans selects).trans (MysqlState.fetch_reads selects.settled), ?_⟩
  show ((y.mysql.setResult m rows).stmtDone m |>.session m).result.any _ = _
  rw [result]
  simp only [rows, List.any_map, List.any_filter, MysqlState.knows, MysqlState.sameName,
    asked.reads.beside.weight, asked.reads.usrInfo]
  congr 1

theorem checkUserHasGotMysql_ends (calm : Calm s this m) (asked : Asked s y this m) :
    (checkUserHasGotMysql name (some m)).Ends (answering t {}) y
      fun hasgot y' => Asked s y' this m ∧ hasgot = s.mysql.hasOrder (cStr name) := by
  obtain ⟨_, y₁, off, reads₁⟩ := MysqlState.autocommit_reads asked.reads.settled false
  refine ends_mysql (c := .autocommit m false) off ?_
  have asked₁ := asked.trans reads₁
  have free : y₁.blocked m (.selectOrder (cStr name)) = false := by
    apply asked₁.reads.beside.blocked
    show s.mysql.inserts.any _ = false
    rw [calm.inserts]
    rfl
  let rows := ((y₁.orderInfo ++ y₁.ownRows m).filter fun o => y₁.sameName o.usrName (cStr name)).map
    fun o => [o.usrName, o.usrKey, o.goodsId]
  obtain ⟨selects, result⟩ := MysqlState.select_reads asked₁.reads.settled rows
  have sent : y₁.exec (.query m (.selectOrder (cStr name))) .ok =
      some (false, (y₁.setResult m rows).stmtDone m) := by
    simp [MysqlState.exec, MysqlState.query, free, MysqlState.runStmt, rows]
  refine ends_mysql (c := .query m (.selectOrder (cStr name))) (r := false) sent ?_
  refine ends_mysql (c := .fetchRows m) rfl ?_
  have fetched := selects.trans (MysqlState.fetch_reads selects.settled)
  obtain ⟨_, y₂, on, reads₂⟩ := MysqlState.autocommit_reads fetched.settled true
  refine ends_mysql (c := .autocommit m true) on ?_
  refine .ret ⟨asked₁.trans (fetched.trans reads₂), ?_⟩
  -- what the session sees of the orders is what is durable
  have seen : y₁.orderInfo ++ y₁.ownRows m = s.mysql.orderInfo := by
    have settled : (y₁.view m).seen.rows = (y₁.view m).durable.rows :=
      congrArg Shop.rows asked₁.reads.settled
    exact settled.trans (congrArg Shop.rows asked₁.reads.shop)
  show ((y₁.setResult m rows).stmtDone m |>.session m).result.any _ = _
  rw [result]
  have weight : y₁.weight = s.mysql.weight := asked₁.reads.beside.weight
  simp only [rows, seen, List.any_map, List.any_filter, MysqlState.hasOrder, MysqlState.sameName,
    weight]
  congr 1
  funext row
  simp

/-- The request is turned down. -/
theorem refuse_ends {sells : Prop} (asked : Asked s y this m) (none : ¬sells) :
    (setResult this zero).Ends (answering t {}) y
      fun _ s' => Decided s this name key sells s' := by
  obtain ⟨x, worker⟩ := asked.worker
  refine ends_setResult worker (.ret ⟨fun sells => absurd sells none, fun _ => ?_⟩)
  exact ⟨answerOf_set, asked.reads.shop⟩

theorem hasOrder_false : s.mysql.hasOrder name = false ↔
    ∀ row ∈ s.mysql.orderInfo, s.mysql.sameName row.usrName name = false := by
  simp [MysqlState.hasOrder]

theorem calm_asked (calm : Calm s this m) : Asked s s this m where
  worker := calm.worker
  unlocked := calm.unlocked
  reads := ⟨.refl, rfl, calm.settled, rfl⟩

theorem mysqlPath_ends (calm : Calm s this m) :
    (serveRequest this name key none (some m)).Ends (answering t {}) s fun _ s' =>
      Decided s this name key
        (s.mysql.knows (cStr name) key = true ∧ Sells s.mysql (cStr name)) s' := by
  apply (checkUserInfoMysql_ends (calm_asked calm)).bind
  rintro registered y₁ ⟨asked₁, knows⟩
  cases registered with
  | false => exact refuse_ends asked₁ fun sells => absurd (knows.trans sells.1) nofun
  | true =>
    apply (checkUserHasGotMysql_ends calm asked₁).bind
    rintro hasgot y₂ ⟨asked₂, order⟩
    cases hasgot with
    | true =>
      refine refuse_ends asked₂ fun sells => ?_
      exact absurd (order.trans (hasOrder_false.mpr sells.2.1)) nofun
    | false =>
      apply (sale_answers calm asked₂).mono
      intro _ s' decided
      exact ⟨fun sells => decided.sold sells.2, fun none => decided.refused fun sells =>
        none ⟨knows.symm, sells⟩⟩

/-! ## With a context -/

theorem ends_redis {α : Type} {post : α → Server → Prop} {c : RedisCall} {k : c.Reply → Code α}
    {r : c.Reply} {z : RedisState} (done : y.redis.exec c .ok = some (r, z))
    (rest : (k r).Ends (answering t {}) { y with redis := z } post) :
    Prog.Ends (answering t {}) (.call (.redis c) k) y post :=
  .call (by simp [answering, Server.exec, Outcomes.fate, done]) rest

/-- A command on a context without an error. -/
theorem ends_command {α : Type} {post : α → Server → Prop} {cmd : RedisCmd}
    {k : Option RedisReply → Code α} {r : RedisReply} {z : RedisState}
    (healthy : (y.redis.conn c).err = false) (served : y.redis.serve c cmd = (r, z))
    (rest : (k (some r)).Ends (answering t {}) { y with redis := z } post) :
    (redisCommand (some c) cmd >>= k).Ends (answering t {}) y post := by
  have done : y.redis.exec (.command c cmd) .ok = some (some r, z) := by
    simp [RedisState.exec, RedisState.redisCommand, healthy, served]
  exact ends_redis (c := .command c cmd) done rest

/-- The context is as a thread gets it, or watches `total_count` undisturbed. -/
structure Ctx (s y : Server) (c : ConnId) (watched : Option Bool) : Prop where
  conn : y.redis.conn c = { watched := watched }
  data : y.redis.data = s.redis.data

variable {watched : Option Bool}

theorem Ctx.healthy (ctx : Ctx s y c watched) : (y.redis.conn c).err = false := by
  rw [ctx.conn]

theorem Ctx.queue (ctx : Ctx s y c watched) : (y.redis.conn c).queue = none := by
  rw [ctx.conn]

theorem Ctx.hget (ctx : Ctx s y c watched) (key : HashKey) (field : Str) :
    y.redis.serve c (.hget key field) =
      (match (s.redis.data.hash key).lookup field with | some v => .string v | none => .nil, y.redis) := by
  rw [← ctx.data]
  simp only [RedisState.serve, ctx.queue]
  rfl

theorem checkUserInfo_ends (asked : Asked s y this m) (ctx : Ctx s y c none) :
    (checkUserInfo name key (some c) (some m)).Ends (answering t {}) y fun registered y' =>
      (Asked s y' this m ∧ Ctx s y' c none) ∧
        (registered = true ↔ ∃ v, s.redis.data.usrInfo.lookup (cStr name) = some v ∧ key = cStr v) := by
  have served := ctx.hget .usrInfo (cStr name)
  simp only [RedisData.hash] at served
  cases user : s.redis.data.usrInfo.lookup (cStr name) with
  | none =>
    rw [user] at served
    exact ends_command ctx.healthy served (.ret ⟨⟨asked, ctx⟩, by simp⟩)
  | some v =>
    rw [user] at served
    exact ends_command ctx.healthy served (.ret ⟨⟨asked, ctx⟩, by simp⟩)

theorem checkUserHasGot_ends (asked : Asked s y this m) (ctx : Ctx s y c none) :
    (checkUserHasGot name (some c) (some m)).Ends (answering t {}) y fun hasgot y' =>
      (Asked s y' this m ∧ Ctx s y' c none) ∧
        (hasgot = true ↔ cStr name ∈ s.redis.data.orderInfo) := by
  have served := ctx.hget .orderInfo (cStr name)
  simp only [RedisData.hash] at served
  cases order : s.redis.data.orderInfo.lookup (cStr name) with
  | none =>
    rw [order] at served
    have absent : cStr name ∉ s.redis.data.orderInfo := AList.lookup_eq_none.mp order
    exact ends_command ctx.healthy served (.ret ⟨⟨asked, ctx⟩, by simp [absent]⟩)
  | some v =>
    rw [order] at served
    have member : cStr name ∈ s.redis.data.orderInfo := AList.lookup_isSome.mp (by simp [order])
    exact ends_command ctx.healthy served (.ret ⟨⟨asked, ctx⟩, by simp [member]⟩)

/-- `WATCH` and `GET` give the count of the two stores. -/
theorem watchCount_ends (asked : Asked s y this m) (ctx : Ctx s y c none) :
    (watchCount (some c)).Ends (answering t {}) y fun count y' =>
      (Asked s y' this m ∧ Ctx s y' c (some false)) ∧ count = some (atoi s.redis.data.totalCount) := by
  have watch : y.redis.serve c .watch =
      (.status okText, y.redis.setConn c { watched := some false }) := by
    simp only [RedisState.serve, ctx.conn]
    rfl
  refine ends_command ctx.healthy watch ?_
  let y₁ : Server := { y with redis := y.redis.setConn c { watched := some false } }
  have ctx₁ : Ctx s y₁ c (some false) := ⟨Function.update_self c _ _, ctx.data⟩
  have asked₁ : Asked s y₁ this m := ⟨asked.worker, asked.unlocked, asked.reads⟩
  have get : y₁.redis.serve c .get = (.string s.redis.data.totalCount, y₁.redis) := by
    rw [← ctx₁.data]
    simp only [RedisState.serve, ctx₁.queue]
    rfl
  refine ends_command (y := y₁) ctx₁.healthy get ?_
  exact .ret ⟨⟨asked₁, ctx₁⟩, rfl⟩

/-- Undisturbed, the transaction is executed. -/
theorem reserve_ends (asked : Asked s y this m) (ctx : Ctx s y c (some false)) :
    (reserve name key (some c)).Ends (answering t {}) y fun reserved y' =>
      Asked s y' this m ∧ reserved = true := by
  have multi : y.redis.serve c .multi =
      (.status okText, y.redis.setConn c { watched := some false, queue := some [] }) := by
    simp only [RedisState.serve, ctx.conn]
  -- in the transaction a command is queued
  have queued (z : RedisState) (q : List RedisCmd) (cmd : RedisCmd)
      (conn : z.conn c = { watched := some false, queue := some q })
      (other : cmd ≠ .watch ∧ cmd ≠ .multi ∧ cmd ≠ .exec) :
      z.serve c cmd = (.status ['Q', 'U', 'E', 'U', 'E', 'D'],
        z.setConn c { watched := some false, queue := some (q ++ [cmd]) }) := by
    rw [serve_queued (by rw [conn]) other, conn]
  have set (z : RedisState) (x : Conn) : (z.setConn c x).conn c = x := Function.update_self c _ _
  let y₁ := y.redis.setConn c { watched := some false, queue := some [] }
  let y₂ := y₁.setConn c { watched := some false, queue := some [.decr] }
  let hmset := RedisCmd.hmset .orderInfo (cStr name) (cStr key)
  let y₃ := y₂.setConn c { watched := some false, queue := some [.decr, hmset] }
  have decr : y₁.serve c .decr = (_, y₂) := queued y₁ [] .decr (set _ _) (by simp)
  have order : y₂.serve c hmset = (_, y₃) := queued y₂ [.decr] hmset (set _ _) (by simp [hmset])
  obtain ⟨z, exec⟩ : ∃ z, y₃.serve c .exec = (.array 2, z) := by
    have conn : y₃.conn c = { watched := some false, queue := some [.decr, hmset] } := set _ _
    simp [RedisState.serve, conn]
  refine ends_command ctx.healthy multi ?_
  refine ends_command (y := { y with redis := y₁ }) (by rw [set]) decr ?_
  refine ends_command (y := { y with redis := y₂ }) (by rw [set]) order ?_
  refine ends_command (y := { y with redis := y₃ }) (by rw [set]) exec ?_
  exact .ret ⟨⟨asked.worker, asked.unlocked, asked.reads⟩, rfl⟩

/-- Sold out, Redis may be refilled; MySQL is not asked. -/
theorem refill_ends (asked : Asked s y this m) (ctx : Ctx s y c (some false)) :
    (refill (some c)).Ends (answering t {}) y fun _ y' => Asked s y' this m := by
  have unwatch : y.redis.serve c .unwatch = (.status okText, y.redis.setConn c {}) := by
    simp only [RedisState.serve, ctx.conn]
  refine ends_command ctx.healthy unwatch ?_
  refine ends_counter (c := .wrlock) (r := ()) (if_pos asked.unlocked) ?_
  refine ends_counter (c := .failedCount) (r := y.counters.failedCount) rfl ?_
  show Prog.Ends _ (if y.counters.failedCount > 0 then _ else _) _ _
  split
  · refine ends_counter (c := .failedCount) (r := y.counters.failedCount) rfl ?_
    have conn : (y.redis.setConn c {}).conn c = {} := Function.update_self c _ _
    obtain ⟨z, served⟩ : ∃ z, (y.redis.setConn c {}).serve c (.set (decimal y.counters.failedCount)) =
        (.status okText, z) := by
      simp [RedisState.serve, conn, RedisData.run]
    refine ends_command (by rw [conn]) served ?_
    refine ends_counter (c := .setFailedCount 0) (r := ()) rfl ?_
    refine ends_counter (c := .unlock) (r := ()) rfl ?_
    exact .ret ⟨asked.worker, rfl, asked.reads⟩
  · refine ends_counter (c := .unlock) (r := ()) rfl ?_
    exact .ret ⟨asked.worker, rfl, asked.reads⟩

/-! ## Both ways -/

/-- Both stores know the same users and orders and have the same count. -/
structure Agree (s : Server) : Prop where
  users : ∀ name key, s.redis.data.usrInfo.lookup name = some key ↔ (name, key) ∈ s.mysql.usrInfo
  orders : ∀ name, name ∈ s.redis.data.orderInfo ↔ ∃ row ∈ s.mysql.orderInfo, row.usrName = name
  stock : ∃ n : Nat, s.redis.data.totalCount = decimal n ∧ s.mysql.gTotalcount = some n

/-- Stores agree when the users of MySQL are loaded into Redis, no two under one name, and there
    are no orders yet. -/
theorem loaded_agree {st : Stores} {n : Nat} (names : (st.usrInfo.map Prod.fst).Nodup)
    (loaded : st.redisUsers = st.usrInfo.foldr (fun u h => h.insert u.1 u.2) ∅)
    (noOrders : st.redisOrders = ∅) (noRows : st.orderInfo = [])
    (redis : st.totalCount = decimal n) (mysql : st.gTotalcount = some n) : Agree (boot st) where
  users name key := by
    show st.redisUsers.lookup name = some key ↔ (name, key) ∈ st.usrInfo
    rw [loaded]
    generalize st.usrInfo = users at names
    induction users with
    | nil => simp
    | cons u users ih =>
      obtain ⟨new, names⟩ := List.nodup_cons.mp names
      rw [List.foldr_cons, List.mem_cons]
      by_cases same : name = u.1
      · subst same
        have absent : (u.1, key) ∉ users := fun member =>
          new (List.mem_map.mpr ⟨(u.1, key), member, rfl⟩)
        rw [AList.lookup_insert, or_iff_left absent, Option.some.injEq, Prod.ext_iff]
        simp [eq_comm]
      · have other : (name, key) ≠ u := fun eq => same (congrArg Prod.fst eq)
        rw [AList.lookup_insert_ne same, ih names, or_iff_right other]
  orders name := by
    show name ∈ st.redisOrders ↔ ∃ row ∈ st.orderInfo, row.usrName = name
    rw [noOrders, noRows]
    exact iff_of_false (AList.notMem_empty name) (by simp)
  stock := ⟨n, redis, mysql⟩

/-- The user is registered under this very name, with this key. -/
def Registered (s : Server) (name key : Str) : Prop :=
  ∃ v, (name, v) ∈ s.mysql.usrInfo ∧ key = cStr v

theorem redisPath_ends (calm : Calm s this m) (agree : Agree s) (context : s.redis.conn c = {}) :
    (serveRequest this name key (some c) (some m)).Ends (answering t {}) s fun _ s' =>
      Decided s this name key (Registered s (cStr name) key ∧ Sells s.mysql (cStr name)) s' := by
  apply (checkUserInfo_ends (calm_asked calm) ⟨context, rfl⟩).bind
  rintro registered y₁ ⟨⟨asked₁, ctx₁⟩, knows⟩
  have known : registered = true ↔ Registered s (cStr name) key := by
    rw [knows]
    simp only [agree.users, Registered]
  cases registered with
  | false => exact refuse_ends asked₁ fun sells => absurd (known.mpr sells.1) nofun
  | true =>
    apply (checkUserHasGot_ends asked₁ ctx₁).bind
    rintro hasgot y₂ ⟨⟨asked₂, ctx₂⟩, order⟩
    cases hasgot with
    | true =>
      refine refuse_ends asked₂ fun sells => ?_
      -- an order under this very name is one under an equal name
      obtain ⟨row, member, same⟩ := (agree.orders _).mp (order.mp rfl)
      have free := sells.2.1 row member
      rw [same, MysqlState.sameName, beq_self_eq_true] at free
      cases free
    | false =>
      obtain ⟨n, count, stock⟩ := agree.stock
      show (seckillGoods this name key (some c) (some m) 0).Ends _ _ _
      rw [seckillGoods_eq]
      apply (watchCount_ends asked₂ ctx₂).bind
      rintro _ y₃ ⟨⟨asked₃, ctx₃⟩, rfl⟩
      show Prog.Ends _ (if atoi s.redis.data.totalCount > 0 then _ else _) _ _
      rw [count]
      by_cases positive : 0 < atoi (decimal n)
      · rw [if_pos positive]
        apply (reserve_ends asked₃ ctx₃).bind
        rintro _ y₄ ⟨asked₄, rfl⟩
        apply (sale_answers calm asked₄).mono
        intro _ s' decided
        exact ⟨fun sells => decided.sold sells.2, fun none => decided.refused fun sells =>
          none ⟨known.mp rfl, sells⟩⟩
      · rw [if_neg positive]
        apply (refill_ends asked₃ ctx₃).bind
        intro _ y₄ asked₄
        refine refuse_ends asked₄ fun sells => ?_
        obtain ⟨k, same, some⟩ := sells.2.2
        cases stock.symm.trans same
        exact positive some

/-- The name is taken for another user's, who is registered with this key and has no order. -/
def Mistaken (s : Server) (name key : Str) : Prop :=
  ¬Registered s name key ∧ (∃ u ∈ s.mysql.usrInfo, s.mysql.sameName u.1 name ∧ cStr u.2 = key) ∧
    Sells s.mysql name

/-- From stores that agree a request run alone is answered alike with a context and without one, and
    leaves MySQL alike, exactly if its name is not taken for another user's. -/
theorem paths_agree_iff (t : Nat) (key : Str) (calm : Calm s this m) (agree : Agree s)
    (context : s.redis.conn c = {}) (text : cStr name = name) :
    ∃ s₁ s₂, (serveRequest this name key (some c) (some m)).alone (answering t {}) s = some ((), s₁) ∧
      (serveRequest this name key none (some m)).alone (answering t {}) s = some ((), s₂) ∧
      ((answerOf s₁ this = answerOf s₂ this ∧ s₁.mysql.shop = s₂.mysql.shop) ↔
        ¬Mistaken s name key) := by
  obtain ⟨_, s₁, ends₁, redis⟩ := (redisPath_ends calm agree context :
    (serveRequest this name key (some c) (some m)).Ends (answering t {}) s _)
  obtain ⟨_, s₂, ends₂, mysql⟩ := (mysqlPath_ends calm :
    (serveRequest this name key none (some m)).Ends (answering t {}) s _)
  refine ⟨s₁, s₂, ends₁, ends₂, ?_⟩
  rw [text] at redis mysql
  have knows : s.mysql.knows name key = true ↔
      ∃ u ∈ s.mysql.usrInfo, s.mysql.sameName u.1 name ∧ cStr u.2 = key := by
    simp [MysqlState.knows]
  -- who is registered under the very name is found under an equal one
  have known (registered : Registered s name key) : s.mysql.knows name key = true := by
    obtain ⟨v, member, same⟩ := registered
    exact knows.mpr ⟨(name, v), member, beq_self_eq_true _, same.symm⟩
  by_cases sells : Sells s.mysql name
  · by_cases registered : Registered s name key
    · obtain ⟨answer₁, shop₁⟩ := redis.sold ⟨registered, sells⟩
      obtain ⟨answer₂, shop₂⟩ := mysql.sold ⟨known registered, sells⟩
      apply iff_of_true ⟨answer₁.trans answer₂.symm, shop₁.trans shop₂.symm⟩
      exact fun mistaken => mistaken.1 registered
    · obtain ⟨answer₁, shop₁⟩ := redis.refused fun both => registered both.1
      by_cases found : s.mysql.knows name key = true
      · obtain ⟨answer₂, _⟩ := mysql.sold ⟨found, sells⟩
        apply iff_of_false
        · rintro ⟨same, _⟩
          rw [answer₁, answer₂] at same
          exact absurd same (by decide)
        · exact fun right => right ⟨registered, knows.mp found, sells⟩
      · obtain ⟨answer₂, shop₂⟩ := mysql.refused fun both => found both.1
        apply iff_of_true ⟨answer₁.trans answer₂.symm, shop₁.trans shop₂.symm⟩
        exact fun mistaken => found (knows.mpr mistaken.2.1)
  · obtain ⟨answer₁, shop₁⟩ := redis.refused fun both => sells both.2
    obtain ⟨answer₂, shop₂⟩ := mysql.refused fun both => sells both.2
    apply iff_of_true ⟨answer₁.trans answer₂.symm, shop₁.trans shop₂.symm⟩
    exact fun mistaken => sells mistaken.2.2

/-- Stores that agree on one user, with a collation that ignores case. -/
def folding : Stores := { agreeing [(['b', 'o', 'b'], ['k'])] 1 with weight := fun c => c.toUpper.toNat }

theorem folding_calm : Calm (boot folding) 0 0 where
  worker := ⟨_, rfl⟩
  unlocked := rfl
  settled := rfl
  range n stock := by
    cases stock
    decide
  lock := rfl
  inserts := rfl

theorem folding_agree : Agree (boot folding) :=
  loaded_agree (List.nodup_singleton _) rfl rfl rfl rfl rfl

/-- The user asks under the name it is registered with. -/
theorem paths_agree_bob : ∃ s₁ s₂,
    (serveRequest 0 ['b', 'o', 'b'] ['k'] (some 0) (some 0)).alone (answering 0 {}) (boot folding) =
      some ((), s₁) ∧
    (serveRequest 0 ['b', 'o', 'b'] ['k'] none (some 0)).alone (answering 0 {}) (boot folding) =
      some ((), s₂) ∧ answerOf s₁ 0 = answerOf s₂ 0 ∧ s₁.mysql.shop = s₂.mysql.shop := by
  obtain ⟨s₁, s₂, ends₁, ends₂, agree_iff⟩ := paths_agree_iff 0 ['k'] folding_calm
    folding_agree (c := 0) rfl (show cStr ['b', 'o', 'b'] = ['b', 'o', 'b'] by decide)
  refine ⟨s₁, s₂, ends₁, ends₂, agree_iff.mpr fun mistaken => mistaken.1 ?_⟩
  exact ⟨['k'], List.mem_singleton_self _, rfl⟩

/-- Asked for `BOB`, Redis knows no such user and MySQL sells to `bob`. -/
theorem paths_differ : Calm (boot folding) 0 0 ∧ Agree (boot folding) ∧ ∃ s₁ s₂,
    (serveRequest 0 ['B', 'O', 'B'] ['k'] (some 0) (some 0)).alone (answering 0 {}) (boot folding) =
      some ((), s₁) ∧
    (serveRequest 0 ['B', 'O', 'B'] ['k'] none (some 0)).alone (answering 0 {}) (boot folding) =
      some ((), s₂) ∧ answerOf s₁ 0 = some zero ∧ answerOf s₂ 0 = some one ∧
      s₁.mysql.gTotalcount = some 1 ∧ s₂.mysql.gTotalcount = some 0 := by
  have first : (((serveRequest 0 ['B', 'O', 'B'] ['k'] (some 0) (some 0)).alone (answering 0 {})
      (boot folding)).any fun x =>
        answerOf x.2 0 == some zero && x.2.mysql.gTotalcount == some 1) = true := by decide +kernel
  have second : (((serveRequest 0 ['B', 'O', 'B'] ['k'] none (some 0)).alone (answering 0 {})
      (boot folding)).any fun x =>
        answerOf x.2 0 == some one && x.2.mysql.gTotalcount == some 0) = true := by decide +kernel
  obtain ⟨⟨_, s₁⟩, ends₁, after₁⟩ := (Option.any_eq_true _ _).mp first
  obtain ⟨⟨_, s₂⟩, ends₂, after₂⟩ := (Option.any_eq_true _ _).mp second
  simp only [Bool.and_eq_true, beq_iff_eq] at after₁ after₂
  exact ⟨folding_calm, folding_agree, s₁, s₂, ends₁, ends₂, after₁.1, after₂.1, after₁.2, after₂.2⟩

end Seckill

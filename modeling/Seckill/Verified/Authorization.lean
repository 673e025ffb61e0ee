import Seckill.Verified.CleanSessions
import Seckill.Verified.FaultFree
import Seckill.Verified.Reservations
import Seckill.Verified.TextRuns
import Seckill.Verified.Truth

/-! # Only registered users are served

No call of the server writes `usr_info`, and the replies tell what it holds.  So whoever was
vouched for is registered, and a run leaves nothing behind for a stranger: no order, no mark,
no unit taken and no answer "1".
-/

namespace Seckill

open CStr CallTree SqlText Threads

variable {ok : Condition server} {st : Stores} {h : History server} {cfg : Config server}
  {ls : Nat → Local} {l : Local} {t : Nat} {m m' : SessId} {q : Request}

/-- The key of the user is in `usr_info`, of Redis or of MySQL. -/
def Stores.Knows (st : Stores) (usrName usrKey : Str) : Prop :=
  (∃ str, st.redisUsers.lookup (cStr usrName) = some str ∧ cStr str = usrKey) ∨
    ∃ u ∈ st.usrInfo, collate st.weight u.1 = collate st.weight (cStr usrName) ∧ cStr u.2 = usrKey

abbrev Stores.Registers (st : Stores) (q : Request) : Prop := st.Knows q.usrname q.usrkey

/-! ## Redis -/

section Redis

variable {s x : RedisState} {c : ConnId} {cmd : RedisCmd} {f : Fate} {r : Option RedisReply}

theorem runAll_users {d : RedisData} {user key : Str} :
    (d.runAll [.decr, .hmset .orderInfo user key]).1.usrInfo = d.usrInfo := by
  simp only [RedisData.runAll, RedisData.run]
  (repeat' split) <;> rfl

/-- The only field that a command can add to `order_info` is that of the transaction. -/
theorem command_hashes (fits : InStep s l) (ctx : l.redis.ctx = some c) (allowed : l.AllowsCmd cmd)
    (sent : s.redisCommand c cmd f = some (r, x)) :
    x.data.usrInfo = s.data.usrInfo ∧ ∀ user ∈ x.data.orderInfo, user ∈ s.data.orderInfo ∨
      cmd = .exec ∧ ∃ v, l.redis.phase = .queued v user := by
  obtain same | ⟨healthy, data⟩ := RedisState.redisCommand_data sent
  · rw [same]
    exact ⟨rfl, fun _ => Or.inl⟩
  have fits := fits c ctx healthy
  by_cases exec : cmd = .exec
  · subst exec
    obtain ⟨_, _, v, name, queued, _⟩ := allowed
    rw [queued] at fits
    rw [data, RedisState.serve_executed healthy]
    cases executed : s.executed c .exec .ok with
    | nil => exact ⟨rfl, fun _ => Or.inl⟩
    | cons done rest =>
      obtain ⟨_, key, same, _⟩ := executed_exec fits (executed ▸ List.mem_cons_self)
      rw [← executed, same]
      refine ⟨runAll_users, fun user member => ?_⟩
      have marked : user ∈ (s.data.run .decr).2.1.orderInfo.insert (cStr name) key := member
      rw [AList.mem_insert] at marked
      obtain rfl | before := marked
      · exact Or.inr ⟨rfl, v, queued⟩
      · have kept : (s.data.run .decr).2.1.orderInfo = s.data.orderInfo := by
          simp only [RedisData.run]
          (repeat' split) <;> rfl
        exact Or.inl (kept ▸ before)
  · obtain ⟨orders, users⟩ := serve_hashes fits allowed exec
    rw [data, orders, users]
    exact ⟨rfl, fun _ => Or.inl⟩

/-- A string that `HGET usr_info` is answered is the key of its field. -/
theorem hget_reply {field str : Str}
    (sent : s.redisCommand c (.hget .usrInfo field) f = some (some (.string str), x)) :
    s.data.usrInfo.lookup field = some str := by
  have heard : f = .ok ∧ (s.conn c).err = false := by
    by_contra broken
    rw [Classical.not_and_iff_not_or_not, Bool.not_eq_false] at broken
    cases (RedisState.redisCommand_broken sent broken).1
  obtain ⟨rfl, healthy⟩ := heard
  have reply := Option.some.inj (RedisState.redisCommand_ok sent healthy).1
  unfold RedisState.serve at reply
  split at reply
  · simp only [RedisData.run, RedisData.hash] at reply
    split at reply
    next found =>
      cases reply
      exact found
    · cases reply
  · cases reply

end Redis

/-! ## MySQL -/

section Mysql

variable {s x y : MysqlState} {f : Fate} {new : List OrderRow}

/-- No row of an order is new but those of `new`, and `usr_info` is the same. -/
structure Adds (s x : MysqlState) (new : List OrderRow) : Prop where
  users : x.usrInfo = s.usrInfo
  rows : ∀ row ∈ allOrders x, row ∈ allOrders s ∨ row ∈ new

theorem Adds.refl : Adds s s [] := ⟨rfl, fun _ => Or.inl⟩

theorem Adds.trans (first : Adds s x []) (second : Adds x y new) : Adds s y new where
  users := second.users.trans first.users
  rows row member := by
    obtain before | new := second.rows row member
    · exact Or.inl ((first.rows row before).resolve_right List.not_mem_nil)
    · exact Or.inr new

theorem endTrx_adds : Adds s (s.endTrx m) [] where
  users := rfl
  rows row member := by
    rw [allOrders, List.mem_append] at member ⊢
    obtain committed | open' := member
    · exact Or.inl (Or.inl committed)
    · obtain ⟨entry, kept, rfl⟩ := List.mem_map.mp open'
      exact Or.inl (Or.inr (List.mem_map_of_mem (List.mem_filter.mp kept).1))

theorem commitTrx_adds : Adds s (s.commitTrx m) [] where
  users := rfl
  rows row member := by
    rw [allOrders, List.mem_append] at member
    have pending {entries : List (SessId × OrderRow)} (sub : entries ⊆ s.inserts)
        (kept : row ∈ entries.map Prod.snd) : row ∈ allOrders s := by
      obtain ⟨entry, before, rfl⟩ := List.mem_map.mp kept
      exact List.mem_append_right _ (List.mem_map_of_mem (sub before))
    obtain committed | open' := member
    · obtain before | own := List.mem_append.mp committed
      · exact Or.inl (List.mem_append_left _ before)
      · exact Or.inl (pending (List.filter_subset_self _) own)
    · exact Or.inl (pending (List.filter_subset_self _) open')

theorem stmtDone_adds (adds : Adds s x new) : Adds s (x.stmtDone m) new := by
  unfold MysqlState.stmtDone
  split
  · exact ⟨adds.users, fun row member =>
      adds.rows row ((commitTrx_adds.rows row member).resolve_right List.not_mem_nil)⟩
  · exact ⟨adds.users, adds.rows⟩

/-- The row that a call adds. -/
def MysqlCall.adds : MysqlCall → List OrderRow
  | .query _ (.insertOrder name key) => [⟨name, key, ['1', '0']⟩]
  | _ => []

theorem runStmt_adds (stmt : Stmt) :
    Adds s (s.runStmt m stmt).2 (MysqlCall.query m stmt).adds := by
  cases stmt with
  | selectUsrKey name | selectOrder name | selectGoods => exact stmtDone_adds ⟨rfl, fun _ => Or.inl⟩
  | updateGoods count =>
    simp only [MysqlState.runStmt]
    split
    · exact Adds.refl
    · exact stmtDone_adds ⟨rfl, fun _ => Or.inl⟩
  | insertOrder name key =>
    simp only [MysqlState.runStmt]
    split
    · exact ⟨rfl, fun _ => Or.inl⟩
    · refine stmtDone_adds ⟨rfl, fun row member => ?_⟩
      simp only [allOrders, MysqlState.addInsert, List.map_append, ← List.append_assoc] at member
      exact List.mem_append.mp member

theorem evict_adds (alive : SessId → Bool) (pool : List SessId) (s : MysqlState) :
    Adds s (MysqlState.evict alive pool s) [] := by
  induction pool generalizing s with
  | nil => exact ⟨rfl, fun _ => Or.inl⟩
  | cons dead rest ih =>
    unfold MysqlState.evict
    split
    · exact ⟨rfl, fun _ => Or.inl⟩
    · have ended : Adds s { s.rollbackTrx dead with connectCount := s.connectCount - 1 } [] :=
        ⟨rfl, (endTrx_adds (m := dead)).rows⟩
      exact ended.trans (ih _)

/-- Only an `INSERT` adds an order, and nothing changes the users. -/
theorem exec_adds {c : MysqlCall} {r : c.Reply} (done : s.exec c f = some (r, x)) :
    Adds s x c.adds := by
  cases c with
  | getOneConnect =>
    obtain ⟨alive, connects, got⟩ := MysqlState.exec_getOneConnect done
    obtain ⟨s', evicted, cases⟩ := s.getOneConnect_cases alive connects
    -- a session that is closed is rolled back, and what is new is empty
    have adds := evict_adds alive s.mysqlpool s
    rw [← evicted] at adds
    obtain ⟨_, _, _, taken⟩ | ⟨_, made⟩ | none := cases
    · rw [taken] at got
      cases got
      exact ⟨adds.users, adds.rows⟩
    · rw [made] at got
      cases got
      exact ⟨adds.users, adds.rows⟩
    · rw [none] at got
      cases got
      exact adds
  | query m stmt =>
    have kept (adds : Adds s x []) : Adds s x (MysqlCall.query m stmt).adds :=
      ⟨adds.users, fun row member => (adds.rows row member).imp_right fun none => by cases none⟩
    by_cases ran : f = .ok
    · subst ran
      obtain ⟨_, same⟩ := query_ok done
      have after : x = (s.runStmt m stmt).2 := congrArg Prod.snd same
      rw [after]
      exact runStmt_adds stmt
    · cases f <;> simp only [MysqlState.exec, MysqlState.query, reduceCtorEq] at done
      · exact absurd rfl ran
      · cases done
        exact kept Adds.refl
      · cases done
        exact kept endTrx_adds
  | close m =>
    cases f <;> cases done
    exact ⟨rfl, fun _ => Or.inl⟩
  | autocommit m mode =>
    cases f <;> cases done
    · -- what `mysql_autocommit(ON)` commits was inserted before
      cases mode with
      | false => exact ⟨rfl, fun _ => Or.inl⟩
      | true => exact ⟨rfl, (commitTrx_adds (m := m)).rows⟩
    · exact Adds.refl
  | fetchRows m =>
    cases f <;> cases done
    all_goals exact ⟨rfl, fun _ => Or.inl⟩
  | rollback m =>
    cases f <;> cases done
    · exact endTrx_adds
    · exact Adds.refl
  | commit m =>
    cases f <;> cases done
    · exact commitTrx_adds
    · exact Adds.refl
    · exact endTrx_adds

/-- A call on one session leaves the others alone. -/
theorem exec_session {c : MysqlCall} {r : c.Reply} (on : c.session = some m) (other : m' ≠ m)
    (done : s.exec c f = some (r, x)) : x.session m' = s.session m' := by
  have ends (s : MysqlState) : (s.endTrx m).session m' = s.session m' :=
    Function.update_of_ne other _ _
  have stmt (s y : MysqlState) (same : y.session m' = s.session m') :
      (y.stmtDone m).session m' = s.session m' := by
    unfold MysqlState.stmtDone
    split
    · exact (ends y).trans same
    · exact (Function.update_of_ne other _ _).trans same
  cases c with
  | getOneConnect => cases on
  | close m₁ =>
    cases f <;> cases done
    rfl
  | autocommit m₁ mode =>
    cases on
    cases f <;> cases done
    · cases mode with
      | false => exact Function.update_of_ne other _ _
      | true => exact (Function.update_of_ne other _ _).trans (ends s)
    · rfl
  | fetchRows m₁ =>
    cases on
    cases f <;> cases done
    all_goals exact Function.update_of_ne other _ _
  | rollback m₁ =>
    cases on
    cases f <;> cases done
    · exact ends s
    · rfl
  | commit m₁ =>
    cases on
    cases f <;> cases done
    · exact ends s
    · rfl
    · exact ends s
  | query m₁ statement =>
    cases on
    by_cases ran : f = .ok
    · subst ran
      obtain ⟨_, same⟩ := query_ok done
      have after : x = (s.runStmt m statement).2 := congrArg Prod.snd same
      rw [after]
      cases statement with
      | selectUsrKey name | selectOrder name => exact stmt s _ (Function.update_of_ne other _ _)
      | selectGoods => exact stmt s _ (Function.update_of_ne other _ _)
      | updateGoods count =>
        simp only [MysqlState.runStmt]
        split
        · rfl
        · exact stmt s _ (Function.update_of_ne other _ _)
      | insertOrder name key =>
        simp only [MysqlState.runStmt]
        split
        · rfl
        · exact stmt s _ rfl
    · cases f <;> simp only [MysqlState.exec, MysqlState.query, reduceCtorEq] at done
      · exact absurd rfl ran
      · cases done
        rfl
      · cases done
        exact ends s

/-- A session that was made before keeps its result when a connection is handed out. -/
theorem getOneConnect_result {r : Option SessId} (made : m < s.fresh)
    (done : s.exec .getOneConnect f = some (r, x)) : (x.session m).result = (s.session m).result := by
  obtain ⟨alive, connects, got⟩ := MysqlState.exec_getOneConnect done
  obtain ⟨s', evicted, cases⟩ := s.getOneConnect_cases alive connects
  have calms := MysqlState.evict_calms alive s.mysqlpool s
  have fresh := (s.evict_pool alive s.mysqlpool).2
  rw [← evicted] at calms fresh
  obtain ⟨_, _, _, taken⟩ | ⟨_, new⟩ | none := cases
  · rw [taken] at got
    cases got
    exact calms.result m
  · rw [new] at got
    cases got
    have older : m ≠ s'.fresh := Nat.ne_of_lt (fresh ▸ made)
    exact (congrArg Session.result (Function.update_of_ne older _ _)).trans (calms.result m)
  · rw [none] at got
    cases got
    exact calms.result m

end Mysql

/-! ## What the threads have heard -/

/-- What the thread heard of its user is so. -/
structure Informed (st : Stores) (s : Server) (l : Local) (served : Option Request) (v : Voucher) :
    Prop where
  asking : v.asking = true → ∃ m name, l.sql.con = some m ∧ v.name = some name ∧
    ∀ row ∈ (s.mysql.session m).result,
      ∃ u ∈ st.usrInfo, collate st.weight u.1 = collate st.weight (cStr name) ∧ row = [u.2]
  vouched : v.vouched = true → ∃ q, served = some q ∧ st.Registers q ∧ v.name = some q.usrname ∧
    v.key = some q.usrkey

theorem informed_new {s : Server} {served : Option Request} : Informed st s l served {} :=
  ⟨nofun, nofun⟩

/-- Nobody writes `usr_info`, and the threads know what they heard. -/
structure Vouched (st : Stores) (h : History server) (s : Server) (ls : Nat → Local) : Prop where
  redisUsers : s.redis.data.usrInfo = st.redisUsers
  mysqlUsers : s.mysql.usrInfo = st.usrInfo
  threads : ∀ t, Informed st s (ls t) (serving t h) (locals vouching h t)

variable {s s' : Server}

/-- A call of one thread that leaves `usr_info` and the results of the others' sessions. -/
theorem Vouched.call {c : Call} {f : Fate} {r : c.Reply} (vouched : Vouched st h s ls)
    (redis : s'.redis.data.usrInfo = s.redis.data.usrInfo)
    (mysql : s'.mysql.usrInfo = s.mysql.usrInfo)
    (others : ∀ t', t' ≠ t → ∀ m, (ls t').sql.con = some m →
      (s'.mysql.session m).result = (s.mysql.session m).result)
    (own : Informed st s' l (serving t (.call t c f r :: h))
      (vouching.note (locals vouching h t) c f r)) :
    Vouched st (.call t c f r :: h) s' (Function.update ls t l) where
  redisUsers := redis.trans vouched.redisUsers
  mysqlUsers := mysql.trans vouched.mysqlUsers
  threads t' := by
    by_cases same : t' = t
    · subst same
      rw [Function.update_self, locals_call, Function.update_self]
      exact own
    · rw [Function.update_of_ne same, locals_call, Function.update_of_ne same, serving_other same]
      obtain ⟨asking, vouched⟩ := vouched.threads t'
      refine ⟨fun asks => ?_, vouched⟩
      obtain ⟨m, user, con, named, rows⟩ := asking asks
      refine ⟨m, user, con, named, fun row member => ?_⟩
      rw [others t' same m con] at member
      exact rows row member

theorem Informed.same {served : Option Request} {v : Voucher} (informed : Informed st s l served v)
    {l' : Local} (sql : l'.sql.con = l.sql.con)
    (result : ∀ m, l.sql.con = some m → v.asking = true →
      (s'.mysql.session m).result = (s.mysql.session m).result) :
    Informed st s' l' served v where
  asking asks := by
    obtain ⟨m, user, con, named, rows⟩ := informed.asking asks
    refine ⟨m, user, sql.trans con, named, fun row member => ?_⟩
    rw [result m con asks] at member
    exact rows row member
  vouched := informed.vouched

theorem Vouched.command {c : ConnId} {cmd : RedisCmd} {f : Fate} {r : Option RedisReply}
    {x : RedisState} (vouched : Vouched st h s ls) (read : HasRead (serving t h) (locals vouching h t))
    (fits : InStep s.redis (ls t)) (allowed : (ls t).Allowed (.redis (.command c cmd)))
    (asked : (locals vouching h t).Allows (.redis (.command c cmd)))
    (sent : s.redis.redisCommand c cmd f = some (r, x)) :
    Vouched st (.call t (.redis (.command c cmd)) f r :: h) { s with redis := x }
      (Function.update ls t ((ls t).note (.redis (.command c cmd)) f r)) := by
  have con : ((ls t).note (.redis (.command c cmd)) f r).sql.con = (ls t).sql.con :=
    congrArg MysqlLocal.con (Local.note_redis (f := f)).1
  have before := vouched.threads t
  refine vouched.call (command_hashes fits allowed.1 allowed.2 sent).1 rfl (fun _ _ _ _ => rfl) ?_
  have still {v : Voucher} (same : v = locals vouching h t) : Informed st { s with redis := x }
      ((ls t).note (.redis (.command c cmd)) f r) (serving t h) v := by
    rw [same]
    exact before.same con fun _ _ _ => rfl
  by_cases told : ∃ field str, cmd = .hget .usrInfo field ∧ r = some (.string str)
  · obtain ⟨field, str, rfl, rfl⟩ := told
    refine ⟨fun asks => (still rfl).asking asks, fun now => ?_⟩
    obtain already | heard := Bool.or_eq_true_iff.mp now
    · exact before.vouched already
    · -- the reply was the key of the request
      have found := hget_reply sent
      obtain already | ⟨name, named, rfl⟩ := asked
      · exact before.vouched already
      · have keyed := beq_iff_eq.mp heard
        obtain ⟨q, serves, rfl⟩ := read.name name named
        obtain ⟨q', serves', same⟩ := read.key _ keyed
        obtain rfl := Option.some.inj (serves.symm.trans serves')
        rw [vouched.redisUsers] at found
        exact ⟨q, serves, Or.inl ⟨str, found, same.symm⟩, named, same ▸ keyed⟩
  · apply still
    cases cmd with
    | hget key field =>
      cases key with
      | usrInfo =>
        match r with
        | some (.string str) => exact absurd ⟨field, str, rfl, rfl⟩ told
        | none | some .nil | some (.status _) | some (.error _) | some (.integer _)
        | some (.array _) => rfl
      | orderInfo => rfl
    | watch | unwatch | multi | exec | get | set _ | decr | hmset _ _ _ | lpush _ | lpop | llen => rfl

/-- To a thread that does not wait for rows MySQL's state means nothing. -/
theorem Informed.calm {served : Option Request} {v : Voucher} (informed : Informed st s l served v)
    (calm : v.asking = false) {l' : Local} : Informed st s' l' served v :=
  ⟨fun asks => absurd (calm.symm.trans asks) nofun, informed.vouched⟩

/-- The rows of the statement's answer, for the thread that asked. -/
theorem Informed.ask {f : Fate} {user : Str} {error : Bool} {x : MysqlState} {served : Option Request}
    {v : Voucher} (informed : Informed st s l served v) (users : s.mysql.usrInfo = st.usrInfo)
    (weight : s.mysql.weight = st.weight) (con : l.sql.con = some m)
    (asked : ∃ name, v.name = some name ∧ user = cStr name)
    (sent : s.mysql.query m (.selectUsrKey user) f = some (error, x)) {l' : Local}
    (same : l'.sql.con = l.sql.con) :
    Informed st { s with mysql := x } l' served { v with asking := !error } := by
  refine ⟨fun asks => ?_, informed.vouched⟩
  obtain ⟨name, named, rfl⟩ := asked
  refine ⟨m, name, same.trans con, named, fun row member => ?_⟩
  have ran : f = .ok := by
    cases f <;> simp only [MysqlState.query, reduceCtorEq] at sent
    · rfl
    all_goals
      cases sent
      cases asks
  subst ran
  obtain ⟨_, after⟩ := query_ok sent
  have state : x = (s.mysql.runStmt m (.selectUsrKey (cStr name))).2 := congrArg Prod.snd after
  simp only [state, MysqlState.runStmt, stmtDone_result] at member
  simp only [MysqlState.setResult, MysqlState.setSession, Function.update_self, List.mem_map,
    List.mem_filter] at member
  obtain ⟨u, ⟨listed, like⟩, rfl⟩ := member
  refine ⟨u, users ▸ listed, ?_, rfl⟩
  rw [← weight]
  exact beq_iff_eq.mp like

/-- The thread has its rows. -/
theorem Informed.fetch {f : Fate} {rows : List (List Str)} {x : MysqlState} {served : Option Request}
    {v : Voucher} (informed : Informed st s l served v) (read : HasRead served v)
    (con : l.sql.con = some m) (fetched : s.mysql.fetchRows m f = some (rows, x)) {l' : Local} :
    Informed st { s with mysql := x } l' served
      { v with asking := false, vouched := v.asking && v.finds rows || v.vouched } := by
  refine ⟨nofun, fun now => ?_⟩
  obtain heard | already := Bool.or_eq_true_iff.mp now
  · obtain ⟨asks, finds⟩ := Bool.and_eq_true_iff.mp heard
    obtain ⟨m', name, con', named, sound⟩ := informed.asking asks
    obtain rfl := Option.some.inj (con.symm.trans con')
    obtain ⟨key, keyed, found⟩ := (Option.any_eq_true _ _).mp finds
    obtain ⟨row, member, first⟩ := List.any_eq_true.mp found
    have listed : row ∈ (s.mysql.session m).result := by
      cases f <;> cases fetched
      · exact member
      · cases member
    obtain ⟨u, registered, like, rfl⟩ := sound row listed
    obtain ⟨q, serves, rfl⟩ := read.name name named
    obtain ⟨q', serves', rfl⟩ := read.key key keyed
    obtain rfl := Option.some.inj (serves.symm.trans serves')
    have same : cStr u.2 = q.usrkey := Option.some.inj (beq_iff_eq.mp first)
    exact ⟨q, serves, Or.inr ⟨u, registered, like, same⟩, named, keyed⟩
  · exact informed.vouched already

theorem Vouched.mysql {c : MysqlCall} {f : Fate} {r : c.Reply} {x : MysqlState}
    (vouched : Vouched st h s ls) (read : HasRead (serving t h) (locals vouching h t))
    (holds : HoldsSessions s.mysql ls) (weight : s.mysql.weight = st.weight) (allowed : (ls t).AllowsMysql c)
    (asked : (locals vouching h t).Allows (.mysql c)) (done : s.mysql.exec c f = some (r, x)) :
    Vouched st (.call t (.mysql c) f r :: h) { s with mysql := x }
      (Function.update ls t ((ls t).note (.mysql c) f r)) := by
  have before := vouched.threads t
  refine vouched.call rfl (exec_adds done).users (fun t' other m' held => ?_) ?_
  · by_cases get : c = .getOneConnect
    · subst get
      exact getOneConnect_result (holds.held_made held) done
    · obtain ⟨m, on⟩ : ∃ m, c.session = some m := by
        cases c <;> first | exact absurd rfl get | exact ⟨_, rfl⟩
      have apart : m' ≠ m := by
        rintro rfl
        exact other (holds.once held (allowed_con on allowed))
      rw [exec_session on apart done]
  · cases c with
    | fetchRows m => exact before.fetch read allowed.1 done
    | query m stmt =>
      cases stmt with
      | selectUsrKey user =>
        exact before.ask vouched.mysqlUsers weight allowed.1 asked.2 done rfl
      | selectOrder user | selectGoods | updateGoods count | insertOrder user key =>
        exact before.calm asked.1
    | commit m => exact before.calm asked.1
    | getOneConnect | close m | autocommit m mode | rollback m => exact before.calm asked

theorem Vouched.grpc {c : GrpcCall} {f : Fate} {r : c.Reply} {x : GrpcState}
    (run : Run ok (boot st) h cfg) (vouched : Vouched st h cfg.state (locals watch h))
    (allowed : (locals watch h t).AllowsGrpc c) (done : cfg.state.grpc.exec c f = some (r, x)) :
    Vouched st (.call t (.grpc c) f r :: h) { cfg.state with grpc := x }
      (Function.update (locals watch h) t ((locals watch h t).note (.grpc c) f r)) := by
  have before := vouched.threads t
  refine vouched.call rfl rfl (fun _ _ _ _ => rfl) ?_
  have still : Informed st { cfg.state with grpc := x } ((locals watch h t).note (.grpc c) f r)
      (serving t h) (locals vouching h t) :=
    before.same (congrArg MysqlLocal.con (by simp)) fun _ _ _ => rfl
  cases GrpcState.exec_does done with
  | usrname w found =>
    have serves := serving_object run allowed.1 allowed.2.1 found
    refine ⟨fun asks => ?_, fun heard => ?_⟩
    · obtain ⟨m, user, con, named, rows⟩ := still.asking asks
      obtain ⟨q, serves', rfl⟩ := (hasRead run t).name user named
      obtain rfl := Option.some.inj (serves.symm.trans serves')
      exact ⟨m, _, con, rfl, rows⟩
    · obtain ⟨q, serves', registered, _, keyed⟩ := still.vouched heard
      obtain rfl := Option.some.inj (serves.symm.trans serves')
      exact ⟨_, serves', registered, rfl, keyed⟩
  | usrkey w found =>
    have serves := serving_object run allowed.1 allowed.2.1 found
    refine ⟨still.asking, fun heard => ?_⟩
    · obtain ⟨q, serves', registered, named, _⟩ := still.vouched heard
      obtain rfl := Option.some.inj (serves.symm.trans serves')
      exact ⟨_, serves', registered, named, rfl⟩
  | finish w result found => exact informed_new
  | deliver w usrname usrkey registered found => exact informed_new
  | finished w finishing => exact informed_new
  | alloc | status w found | setStatus w status found | requestseckill w found
  | setResult w result found | result w found | delete w found => exact still

/-- In every run the threads know what they have heard, and `usr_info` stays. -/
theorem vouched (run : Run ok (boot st) h cfg) : Vouched st h cfg.state (locals watch h) := by
  refine server_invariant (fun h s ls => Vouched st h s ls)
    ?initial ?redis ?mysql ?counter ?grpc ?start (run.obeys vouching_conforms)
  case initial => exact ⟨rfl, rfl, fun _ => informed_new⟩
  case redis =>
    intro h cfg t c f r x run inv met allowed exec
    cases RedisState.exec_does exec with
    | getOneConnect got =>
      refine inv.call ?_ rfl (fun _ _ _ _ => rfl) ((inv.threads t).same rfl fun _ _ _ => rfl)
      exact congrArg RedisData.usrInfo (RedisState.getOneConnect_data got)
    | close c => exact inv.call rfl rfl (fun _ _ _ _ => rfl) ((inv.threads t).same rfl fun _ _ _ => rfl)
    | command c cmd sent => exact inv.command (hasRead run t) ((watches run).fits t) allowed met.2 sent
  case mysql =>
    intro h cfg t c f r x run inv met allowed exec
    exact inv.mysql (hasRead run _) (sessions_exclusive run) (same_weight run) allowed met.2 exec
  case counter =>
    intro h cfg t c f r x _ inv _ _ _
    refine inv.call rfl rfl (fun _ _ _ _ => rfl) ((inv.threads t).same ?_ fun _ _ _ => rfl)
    exact congrArg MysqlLocal.con (by simp)
  case grpc =>
    intro h cfg t c f r x run inv _ allowed exec
    exact inv.grpc run allowed exec
  case start =>
    intro h cfg t e _ inv _ settled
    refine ⟨inv.redisUsers, inv.mysqlUsers, fun t' => ?_⟩
    by_cases own : t' = t
    · subst own
      rw [Function.update_self, locals_start, Function.update_self]
      exact informed_new
    · rw [Function.update_of_ne own, locals_start, Function.update_of_ne own]
      exact inv.threads t'

/-! ## What a run leaves behind -/

/-- The order of a request in MySQL. -/
def Request.row (q : Request) : OrderRow := ⟨cStr q.usrname, cStr q.usrkey, ['1', '0']⟩

/-- Everything that a run writes or answers is for a registered user who asked for it. -/
structure Authorized (st : Stores) (h : History server) (s : Server) : Prop where
  rows : ∀ row ∈ allOrders s.mysql, row ∈ st.orderInfo ∨
    ∃ q ∈ delivered h, st.Registers q ∧ q.row = row
  marks : ∀ user ∈ s.redis.data.orderInfo, user ∈ st.redisOrders ∨
    ∃ q ∈ delivered h, st.Registers q ∧ cStr q.usrname = user
  grants : ∀ q ∈ grants h, st.Registers q
  ones : ∀ a ∈ answers h, a.result = one → st.Registers a.request

/-- A thread that was vouched for serves a registered user. -/
theorem vouched_serving (run : Run ok (boot st) h cfg)
    (heard : (locals vouching h t).vouched = true) :
    ∃ q, serving t h = some q ∧ q ∈ delivered h ∧ st.Registers q ∧
      (locals vouching h t).name = some q.usrname ∧ (locals vouching h t).key = some q.usrkey := by
  obtain ⟨q, serves, registered, named, keyed⟩ := ((vouched run).threads t).vouched heard
  exact ⟨q, serves, (requests run).served t q serves, registered, named, keyed⟩

theorem rows_authorized (run : Run ok (boot st) h cfg) :
    ∀ row ∈ allOrders cfg.state.mysql, row ∈ st.orderInfo ∨
      ∃ q ∈ delivered h, st.Registers q ∧ q.row = row := by
  have later {h : History server} {ev : Event server} {row : OrderRow}
      (before : row ∈ st.orderInfo ∨ ∃ q ∈ delivered h, st.Registers q ∧ q.row = row) :
      row ∈ st.orderInfo ∨ ∃ q ∈ delivered (ev :: h), st.Registers q ∧ q.row = row :=
    before.imp_right fun ⟨q, member, known⟩ => ⟨q, delivered_cons ev q member, known⟩
  refine server_invariant (fun h s _ => ∀ row ∈ allOrders s.mysql, row ∈ st.orderInfo ∨
      ∃ q ∈ delivered h, st.Registers q ∧ q.row = row)
    ?initial ?redis ?mysql ?counter ?grpc ?start (run.obeys vouching_conforms)
  case initial =>
    intro row member
    rw [allOrders, boot] at member
    exact Or.inl (by simpa using member)
  case redis => exact fun _ inv _ _ _ row member => later (inv row member)
  case mysql =>
    intro h cfg t c f r x run inv met allowed exec row member
    obtain before | new := (exec_adds exec).rows row member
    · exact later (inv row before)
    · cases c with
      | query m stmt =>
        cases stmt with
        | insertOrder name key =>
          -- the row of an `INSERT` is that of the request that was vouched for
          obtain ⟨_, heard, usrName, usrKey, named, keyed, rfl, rfl⟩ := met.2
          obtain ⟨q, _, member, registered, named', keyed'⟩ := vouched_serving run heard
          obtain rfl := Option.some.inj (named.symm.trans named')
          obtain rfl := Option.some.inj (keyed.symm.trans keyed')
          exact later (Or.inr ⟨q, member, registered, (List.mem_singleton.mp new).symm⟩)
        | selectUsrKey name | selectOrder name | selectGoods | updateGoods count => cases new
      | getOneConnect | close m | autocommit m mode | fetchRows m | rollback m | commit m => cases new
  case counter => exact fun _ inv _ _ _ row member => later (inv row member)
  case grpc => exact fun _ inv _ _ _ row member => later (inv row member)
  case start => exact fun _ inv _ _ row member => later (inv row member)

theorem marks_authorized (run : Run ok (boot st) h cfg) :
    ∀ user ∈ cfg.state.redis.data.orderInfo, user ∈ st.redisOrders ∨
      ∃ q ∈ delivered h, st.Registers q ∧ cStr q.usrname = user := by
  have later {h : History server} {ev : Event server} {user : Str}
      (before : user ∈ st.redisOrders ∨
        ∃ q ∈ delivered h, st.Registers q ∧ cStr q.usrname = user) :
      user ∈ st.redisOrders ∨ ∃ q ∈ delivered (ev :: h), st.Registers q ∧ cStr q.usrname = user :=
    before.imp_right fun ⟨q, member, known⟩ => ⟨q, delivered_cons ev q member, known⟩
  refine server_invariant (fun h s _ => ∀ user ∈ s.redis.data.orderInfo, user ∈ st.redisOrders ∨
      ∃ q ∈ delivered h, st.Registers q ∧ cStr q.usrname = user)
    ?initial ?redis ?mysql ?counter ?grpc ?start (run.obeys vouching_conforms)
  case initial => exact fun _ => Or.inl
  case redis =>
    intro h cfg t c f r x run inv met allowed exec user member
    cases RedisState.exec_does exec with
    | getOneConnect got =>
      rw [RedisState.getOneConnect_data got] at member
      exact later (inv user member)
    | close c => exact later (inv user member)
    | command c cmd sent =>
      obtain before | ⟨rfl, v, queued⟩ :=
        (command_hashes ((watches run).fits t) allowed.1 allowed.2 sent).2 user member
      · exact later (inv user before)
      · -- the mark is that of the request in progress
        obtain ⟨_, work, v', name, phase, named, _⟩ := allowed.2
        obtain ⟨q, serves, member, registered, _⟩ := vouched_serving run met.2
        obtain ⟨q', serves', agrees, _⟩ := serving_atWork run work
        obtain rfl := Option.some.inj (serves.symm.trans serves')
        have same : cStr name = user := by
          rw [phase] at queued
          cases queued
          rfl
        exact later (Or.inr ⟨q, member, registered, by rw [← agrees name named, same]⟩)
  case mysql => exact fun _ inv _ _ _ user member => later (inv user member)
  case counter => exact fun _ inv _ _ _ user member => later (inv user member)
  case grpc => exact fun _ inv _ _ _ user member => later (inv user member)
  case start => exact fun _ inv _ _ user member => later (inv user member)

theorem grants_authorized (run : Run ok (boot st) h cfg) : ∀ q ∈ grants h, st.Registers q := by
  refine server_invariant (fun h _ _ => ∀ q ∈ grants h, st.Registers q)
    ?initial ?redis ?mysql ?counter ?grpc ?start (run.obeys vouching_conforms)
  case initial => exact fun _ => nofun
  case redis =>
    intro h cfg t c f r x run inv met _ _ q member
    cases c with
    | getOneConnect | close c => exact inv q member
    | command c cmd =>
      by_cases exec : cmd = .exec
      · subst exec
        simp only [grants] at member
        split at member
        · obtain mine | before := List.mem_append.mp member
          · obtain ⟨q', serves, _, registered, _⟩ := vouched_serving run met.2
            obtain rfl := Option.some.inj (serves.symm.trans (Option.mem_toList.mp mine))
            exact registered
          · exact inv q before
        · exact inv q member
      · apply inv q
        cases cmd <;> first | exact member | exact absurd rfl exec
  case mysql =>
    intro h cfg t c f r x _ inv _ _ _
    cases c <;> exact inv
  case counter => exact fun _ inv _ _ _ => inv
  case grpc => exact fun _ inv _ _ _ => inv
  case start => exact fun _ inv _ _ => inv

/-- Who has paid is registered. -/
theorem paid_authorized (run : Run ok (boot st) h cfg) :
    ∀ t q, serving t h = some q → (locals watch h t).job.paid = true → st.Registers q := by
  refine server_invariant
    (fun h _ ls => ∀ t q, serving t h = some q → (ls t).job.paid = true → st.Registers q)
    ?initial ?redis ?mysql ?counter ?grpc ?start (run.obeys vouching_conforms)
  case initial => exact fun _ _ => nofun
  case redis =>
    intro h cfg t c f r x _ inv _ _ _ t' q serves paid
    rw [update_eq (fun l : Local => l.job.paid) (by simp)] at paid
    exact inv t' q serves paid
  case mysql =>
    intro h cfg t c f r x run inv met _ _ t' q serves paid
    by_cases commit : ∃ m, c = .commit m ∧ t' = t
    · obtain ⟨m, rfl, rfl⟩ := commit
      obtain ⟨q', serves', _, registered, _⟩ := vouched_serving run met.2.2
      obtain rfl := Option.some.inj (serves'.symm.trans serves)
      exact registered
    · apply inv t' q serves
      by_cases own : t' = t
      · subst own
        rw [Function.update_self, (Local.note_mysql_paid fun m eq => commit ⟨m, eq, rfl⟩).1] at paid
        exact paid
      · rwa [Function.update_of_ne own] at paid
  case counter =>
    intro h cfg t c f r x _ inv _ _ _ t' q serves paid
    rw [update_eq (fun l : Local => l.job.paid) (by simp)] at paid
    exact inv t' q serves paid
  case grpc =>
    intro h cfg t c f r x run inv _ allowed _ t' q serves paid
    by_cases own : t' = t
    · subst own
      rw [Function.update_self] at paid
      cases c with
      | next =>
        -- a new request has paid nothing yet
        cases f <;> cases paid
      | finish w result => exact absurd (serves.symm.trans (if_pos rfl)) nofun
      | alloc | status w | setStatus w status | requestseckill w | usrname w | usrkey w
      | setResult w result | result w | delete w =>
        rw [(Local.noteGrpc_job (by simp)).2.2.1] at paid
        exact inv t' q serves paid
    · rw [serving_other own] at serves
      rw [Function.update_of_ne own] at paid
      exact inv t' q serves paid
  case start =>
    intro h cfg t e _ inv _ _ t' q serves paid
    by_cases own : t' = t
    · subst own
      rw [Function.update_self] at paid
      cases e <;> cases paid
    · rw [Function.update_of_ne own] at paid
      exact inv t' q serves paid

/-- Whatever calls fail and however the threads interleave, the statements say what is meant and
    nothing is done for a stranger. -/
theorem only_registered_served (run : Run ok (boot st) h cfg)
    (verbatim : ∀ q ∈ delivered h, q.Verbatim) : Understood h ∧ Authorized st h cfg.state := by
  refine ⟨run_understood run verbatim, rows_authorized run, marks_authorized run,
    grants_authorized run, ?_⟩
  intro a member told
  obtain ⟨⟨_, past⟩, serves, _, _⟩ := given run a member
  exact paid_authorized past a.thread a.request serves ((answer_paid run member).mp told)

/-- A registered user buys, and a stranger with a wrong key asks. -/
theorem only_registered_served_one :
    ∃ h cfg, Run anything (boot (agreeing [(['a'], ['k'])] 50)) h cfg ∧ (delivered h).length = 2 ∧
      (grants h).length = 1 ∧ Understood h ∧
        Authorized (agreeing [(['a'], ['k'])] 50) h cfg.state := by
  have ran : ((replay (fun _ _ _ => true) (serves 0 ⟨0, ['a'], ['k']⟩ .ok .ok ++
      takes 1 ⟨1, ['a'], ['x']⟩ ++ go 1 16) [] (initial (boot (agreeing [(['a'], ['k'])] 50)))).any
        fun x => (delivered x.1).length == 2 && (grants x.1).length == 1 &&
          (delivered x.1).all fun q => decide q.Verbatim) = true := by
    decide +kernel
  obtain ⟨⟨h, cfg⟩, played, given⟩ := (Option.any_eq_true _ _).mp ran
  simp only [Bool.and_eq_true, beq_iff_eq, List.all_eq_true, decide_eq_true_eq] at given
  have run : Run anything _ h cfg := replay_meets played
  exact ⟨h, cfg, run, given.1.1, given.1.2, only_registered_served run given.2⟩

end Seckill

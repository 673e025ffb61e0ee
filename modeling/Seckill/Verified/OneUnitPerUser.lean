import Seckill.Verified.Commands

/-! # One unit of Redis stock for each user

`checkUserHasGot` looks into `order_info` once, before the `WATCH`, and no retry looks
again; so two requests of one user that both look before either `EXEC` both get a unit.
This is the only way: as long as no other request of the user gets its grant between a
request's look and its `EXEC`, each user has one grant, and the grants are exactly the
fields of `order_info`.
-/

namespace Seckill

open CStr CallTree Threads

variable {ok : Condition server} {st : Stores} {h h' : History server} {cfg : Config server}
  {ls : Nat → Local} {l : Local} {t n : Nat} {d d' : RedisData}

/-- No other request of the user has got its grant since this one looked. -/
def undisturbed (h : History server) (_ : Server) : Event server → Bool
  | .call t (.redis (.command _ .exec)) _ r =>
    !granted r || (serving t h).all fun q =>
      !(grantsSinceCheck t h).any fun g => cStr g.usrname == cStr q.usrname
  | _ => true

/-- `order_info` has a field for each grant, and what a thread saw there is out of date only
    by the grants since. -/
structure OnePerUser (h : History server) (d : RedisData) (ls : Nat → Local) : Prop where
  nodup : ((grants h).map fun q => cStr q.usrname).Nodup
  fields : d.orderInfo.keys.length = (grants h).length
  since : ∀ t q, serving t h = some q → (ls t).job.checked = true → cStr q.usrname ∈ d.orderInfo →
    ∃ g ∈ grantsSinceCheck t h, cStr g.usrname = cStr q.usrname

/-- A call that has nothing to do with orders. -/
theorem OnePerUser.keep (one : OnePerUser h d ls) (sameGrants : grants h' = grants h)
    (orderInfo : d'.orderInfo = d.orderInfo)
    (sameSince : ∀ t, grantsSinceCheck t h' = grantsSinceCheck t h)
    (sameServing : ∀ t', t' ≠ t → serving t' h' = serving t' h)
    (own : ∀ q, serving t h' = some q → l.job.checked = true →
      serving t h = some q ∧ (ls t).job.checked = true) :
    OnePerUser h' d' (Function.update ls t l) where
  nodup := sameGrants ▸ one.nodup
  fields := by
    rw [orderInfo, sameGrants]
    exact one.fields
  since t' q serves checked member := by
    rw [sameSince]
    rw [orderInfo] at member
    by_cases same : t' = t
    · subst same
      rw [Function.update_self] at checked
      obtain ⟨serves, checked⟩ := own q serves checked
      exact one.since t' q serves checked member
    · rw [Function.update_of_ne same] at checked
      rw [sameServing t' same] at serves
      exact one.since t' q serves checked member

theorem noteCmd_checked {l : Local} {cmd : RedisCmd} {r : Option RedisReply}
    (other : ∀ field, cmd ≠ .hget .orderInfo field) :
    (l.noteCmd cmd r).job.checked = l.job.checked := by
  unfold Local.noteCmd Local.noteGet Job.noteHget
  (repeat' split) <;> first | rfl | exact absurd rfl (other _)

/-- The thread looks: what it sees is up to date. -/
theorem OnePerUser.look {q : Request} {c : ConnId} {f : Fate} {r : Option RedisReply} {field : Str}
    (one : OnePerUser h d ls) (serves : serving t h = some q) (name : field = cStr q.usrname)
    (saw : l.job.checked = true → field ∉ d.orderInfo) :
    OnePerUser (.call t (.redis (.command c (.hget .orderInfo field))) f r :: h) d
      (Function.update ls t l) where
  nodup := one.nodup
  fields := one.fields
  since t' q' serves' checked member := by
    by_cases same : t' = t
    · subst same
      rw [Function.update_self] at checked
      have eq : q = q' := Option.some.inj (serves.symm.trans serves')
      rw [← eq, ← name] at member
      exact absurd member (saw checked)
    · rw [Function.update_of_ne same] at checked
      have since : grantsSinceCheck t' (.call t (.redis (.command c (.hget .orderInfo field))) f r :: h)
          = grantsSinceCheck t' h := if_neg (Ne.symm same)
      rw [since]
      exact one.since t' q' serves' checked member

/-- A grant to a user without one. -/
theorem OnePerUser.grant {q : Request} {c : ConnId} {f : Fate} {r : Option RedisReply} {key : Str}
    (one : OnePerUser h d ls) (went : granted r = true) (serves : serving t h = some q)
    (users : ∀ user, user ∈ d.orderInfo ↔ ∃ q ∈ grants h, cStr q.usrname = user)
    (first : cStr q.usrname ∉ d.orderInfo)
    (orderInfo : d'.orderInfo = d.orderInfo.insert (cStr q.usrname) key)
    (checked : l.job.checked = (ls t).job.checked) :
    OnePerUser (.call t (.redis (.command c .exec)) f r :: h) d' (Function.update ls t l) := by
  have all : grants (.call t (.redis (.command c .exec)) f r :: h) = q :: grants h := by
    simp [grants, went, serves]
  have since (t' : Nat) : grantsSinceCheck t' (.call t (.redis (.command c .exec)) f r :: h) =
      q :: grantsSinceCheck t' h := by
    simp [grantsSinceCheck, went, serves]
  constructor
  · rw [all, List.map_cons, List.nodup_cons]
    refine ⟨fun member => ?_, one.nodup⟩
    obtain ⟨g, granted, same⟩ := List.mem_map.mp member
    exact first ((users _).mpr ⟨g, granted, same⟩)
  · have keys : (d.orderInfo.insert (cStr q.usrname) key).keys =
        cStr q.usrname :: d.orderInfo.keys := by
      simp only [AList.keys, AList.entries_insert_of_notMem first, List.keys_cons]
    rw [orderInfo, keys, all, List.length_cons, List.length_cons, one.fields]
  · intro t' q' serves' checked' member
    rw [since]
    rw [update_eq (fun l : Local => l.job.checked) checked] at checked'
    rw [orderInfo, AList.mem_insert] at member
    obtain same | before := member
    · exact ⟨q, List.mem_cons_self, same.symm⟩
    · obtain ⟨g, granted, same⟩ := one.since t' q' serves' checked' before
      exact ⟨g, List.mem_cons_of_mem _ granted, same⟩

/-- What the condition of the results below asks of each step. -/
def undisturbedWorks (h : History server) (s : Server) (ev : Event server) : Bool :=
  redisWorks h s ev && undisturbed h s ev

theorem one_per_user (start : st.totalCount = decimal n) (empty : st.redisOrders = ∅)
    (works : ∀ {h s ev}, ok h s ev → redisWorks h s ev = true)
    (alone : ∀ {h s ev}, ok h s ev → undisturbed h s ev = true) (run : Run ok (boot st) h cfg) :
    OnePerUser h cfg.state.redis.data (locals watch h) := by
  refine server_invariant (fun h s ls => OnePerUser h s.redis.data ls)
    ?initial ?redis ?mysql ?counter ?grpc ?start run
  case initial =>
    refine ⟨List.nodup_nil, ?_, fun _ _ => nofun⟩
    rw [boot, empty]
    rfl
  case redis =>
    intro h cfg t c f r x run inv met allowed exec
    have keep {d' : RedisData} (sameGrants : grants (.call t (.redis c) f r :: h) = grants h)
        (orderInfo : d'.orderInfo = cfg.state.redis.data.orderInfo)
        (since : ∀ t', grantsSinceCheck t' (.call t (.redis c) f r :: h) = grantsSinceCheck t' h)
        (checked : ((locals watch h t).note (.redis c) f r).job.checked =
          (locals watch h t).job.checked) :
        OnePerUser (.call t (.redis c) f r :: h) d'
          (Function.update (locals watch h) t ((locals watch h t).note (.redis c) f r)) :=
      inv.keep sameGrants orderInfo since (fun _ _ => rfl)
        fun q serves saw => ⟨serves, checked ▸ saw⟩
    cases RedisState.exec_does exec with
    | getOneConnect got =>
      simp only [RedisState.getOneConnect_data got]
      exact keep rfl rfl (fun _ => rfl) rfl
    | close c => exact keep rfl rfl (fun _ => rfl) rfl
    | @command _ r _ c cmd sent =>
      have users (user : Str) : user ∈ cfg.state.redis.data.orderInfo ↔
          ∃ q ∈ grants h, cStr q.usrname = user := by
        rw [(redis_orders start works run).orderInfo, empty]
        simp
      by_cases isExec : cmd = .exec
      · subst isExec
        obtain ⟨rfl, data⟩ | ⟨rfl, k, q, key, serves, _, _, _, data⟩ :=
          exec_served start works run met allowed sent
        · simp only [data]
          exact keep rfl rfl (fun _ => rfl) rfl
        · refine inv.grant rfl serves users (fun member => ?_) (by rw [data]) rfl
          -- the thread has looked, so the user's field is from a grant since
          obtain ⟨g, since, same⟩ := inv.since t q serves allowed.2.1.2.1 member
          have went : granted (some (.array 2)) = true := rfl
          have free := alone met
          rw [undisturbed, went, serves, Option.all_some, Bool.not_true, Bool.false_or,
            Bool.not_eq_true'] at free
          exact List.any_eq_false.mp free g since (beq_iff_eq.mpr same)
      obtain ⟨_, reply, rfl⟩ := served works run met sent
      have fits := in_step works run allowed.1
      have same := (serve_hashes fits allowed.2 isExec).1
      by_cases look : ∃ field, cmd = .hget .orderInfo field
      · obtain ⟨field, rfl⟩ := look
        obtain ⟨ctx, ⟨free, _⟩, work, _, name, named, rfl⟩ := allowed
        obtain ⟨q, serves, delivered, _⟩ := serving_atWork run work
        rw [free] at fits
        rw [serve_data fits (by simp)]
        rw [serve_data fits (by simp)] at reply
        refine inv.look serves (by rw [delivered name named]) fun saw member => ?_
        -- a field that is there is found
        obtain ⟨v, found⟩ := Option.isSome_iff_exists.mp (AList.lookup_isSome.mpr member)
        subst reply
        simp [Local.note, Local.noteCmd, Job.noteHget, RedisData.run, RedisData.hash, found] at saw
      · have other (field : Str) : cmd ≠ .hget .orderInfo field := fun eq => look ⟨field, eq⟩
        refine keep ?_ same (fun t' => ?_) (noteCmd_checked other)
        · cases cmd <;> first | rfl | exact absurd rfl isExec
        · cases cmd with
          | exec => exact absurd rfl isExec
          | hget key field =>
            cases key with
            | usrInfo => rfl
            | orderInfo => exact absurd rfl (other field)
          | watch | unwatch | multi | get | set value | decr | hmset key field value | lpush value
          | lpop | llen => rfl
  case mysql =>
    intro h cfg t c f r x _ inv _ _ _
    exact inv.keep rfl rfl (fun _ => rfl) (fun _ _ => rfl) fun q serves saw =>
      ⟨serves, by simpa using saw⟩
  case counter =>
    intro h cfg t c f r x _ inv _ _ _
    exact inv.keep rfl rfl (fun _ => rfl) (fun _ _ => rfl) fun q serves saw =>
      ⟨serves, by simpa using saw⟩
  case grpc =>
    intro h cfg t c f r x _ inv _ _ exec
    refine inv.keep rfl rfl (fun _ => rfl) (fun t' other => serving_other other) fun q serves saw => ?_
    cases c with
    | finish w result => simp [serving] at serves
    | next =>
      -- a request that was just delivered has not been looked up
      cases f <;> cases saw
    | alloc | status w | setStatus w status | requestseckill w | usrname w | usrkey w
    | setResult w result | result w | delete w =>
      refine ⟨serves, ?_⟩
      rwa [(Local.noteGrpc_job (by simp)).1] at saw
  case start =>
    intro h cfg t e _ inv _ _
    refine inv.keep rfl rfl (fun _ => rfl) (fun _ _ => rfl) fun q serves saw => ?_
    cases e <;> cases saw

/-- As long as no other request of the user gets its grant between a request's look into
    `order_info` and its `EXEC`, no user gets two units, and the grants are as many as the
    fields of `order_info`. -/
theorem one_unit_per_user (start : st.totalCount = decimal n) (empty : st.redisOrders = ∅)
    (run : Run (meets undisturbedWorks) (boot st) h cfg) :
    ((grants h).map fun q => cStr q.usrname).Nodup ∧
      cfg.state.redis.data.orderInfo.keys.length = (grants h).length := by
  have one := one_per_user start empty (fun met => (Bool.and_eq_true_iff.mp met).1)
    (fun met => (Bool.and_eq_true_iff.mp met).2) run
  exact ⟨one.nodup, one.fields⟩

/-- Two users with overlapping requests get one unit each. -/
theorem one_unit_per_user_of_two :
    ∃ h cfg, Run (meets undisturbedWorks) (boot (agreeing [(['a'], ['k']), (['b'], ['k'])] 2)) h cfg ∧
      (grants h).length = 2 ∧ cfg.state.redis.data.orderInfo.keys.length = 2 := by
  have ran : ((replay undisturbedWorks (queues 0 ⟨0, ['a'], ['k']⟩ ++ queues 1 ⟨1, ['b'], ['k']⟩ ++
      go 0 1 ++ go 1 8) []
      (initial (boot (agreeing [(['a'], ['k']), (['b'], ['k'])] 2)))).any fun x =>
        (grants x.1).length == 2) = true := by decide +kernel
  obtain ⟨⟨h, cfg⟩, played, two⟩ := (Option.any_eq_true _ _).mp ran
  rw [beq_iff_eq] at two
  have run : Run (meets undisturbedWorks) _ h cfg := replay_meets played
  obtain ⟨_, fields⟩ := one_unit_per_user (n := 2) rfl rfl run
  exact ⟨h, cfg, run, two, fields.trans two⟩

/-- Two requests of one user look before either `EXEC`; the second loses its first attempt to
    the first, tries again without looking, and gets the second unit. -/
theorem one_user_gets_two_units :
    ∃ h cfg, Run (meets redisWorks) (boot (agreeing [(['a'], ['k'])] 2)) h cfg ∧
      (grants h).map (fun q => cStr q.usrname) = [['a'], ['a']] ∧
      cfg.state.redis.data.orderInfo.keys.length = 1 := by
  have ran : ((replay redisWorks (queues 0 ⟨0, ['a'], ['k']⟩ ++ queues 1 ⟨1, ['a'], ['k']⟩ ++
      go 0 1 ++ go 1 8) [] (initial (boot (agreeing [(['a'], ['k'])] 2)))).any fun x =>
        (grants x.1).map (fun q => cStr q.usrname) == [['a'], ['a']] &&
          x.2.state.redis.data.orderInfo.keys.length == 1) = true := by decide +kernel
  obtain ⟨⟨h, cfg⟩, played, twice⟩ := (Option.any_eq_true _ _).mp ran
  rw [Bool.and_eq_true, beq_iff_eq, beq_iff_eq] at twice
  exact ⟨h, cfg, replay_meets played, twice⟩

end Seckill

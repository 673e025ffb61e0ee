import Seckill.Verified.Holding
import Seckill.Verified.Parts
import Seckill.Verified.Replies
import Seckill.Verified.Scenario

/-! # Redis contexts that are given back

Every exit of the Redis code leaves its context clean, whatever the replies, unless one is
missing or an `UNWATCH` or an `EXEC` is refused; then `RedisPool::close` takes it all the same.  A thread
can tell: `Handle` is what its own commands and their replies say of the context it has, and
the programs give it back only clean or spoilt.
-/

namespace Seckill

open CStr CallTree Threads Leases

variable {c : ConnId} {cmd : RedisCmd} {r : Option RedisReply}

/-- A reply that leaves its context unclean for good: none, no `OK` to an `UNWATCH` that was
    needed, or an error that refuses `EXEC` and leaves its transaction open. -/
def Conn.spoils (x : Conn) (cmd : RedisCmd) (r : Option RedisReply) : Bool :=
  r.isNone || cmd == .unwatch && !isOK r && x.watched.isSome ||
    cmd == .exec && r.any RedisReply.refusesExec && x.queue.isSome

/-- What a thread can tell of the context it has. -/
structure Handle where
  ctx : Option ConnId := none
  conn : Conn := {}
  spoilt : Bool := false

/-- A context is given back clean or spoilt. -/
abbrev handling : Watch anyReplies where
  Local := Handle
  allowed l
    | .redis .getOneConnect => l.ctx = none
    | .redis (.close c) => l.ctx = some c ∧ (l.spoilt = true ∨ l.conn = {})
    | .redis (.command c _) => l.ctx = some c
    | _ => True
  note l
    | .redis .getOneConnect, _, r => { ctx := r }
    | .redis (.close _), _, _ => {}
    | .redis (.command _ cmd), _, r =>
      { l with conn := l.conn.hears cmd r, spoilt := l.spoilt || l.conn.spoils cmd r }
    | _, _, _ => l
  idle := {}
  begin _ := {}
  settled l := l.ctx = none

/-! ## The programs -/

abbrev Handles {α : Type} (p : Code α) (l : Handle) (post : α → Handle → Prop) : Prop :=
  p.Keeps handling.toMonitor l post

/-- The thread has the context, in such a state unless it is spoilt. -/
structure At (c : ConnId) (P : Conn → Prop) (l : Handle) : Prop where
  ctx : l.ctx = some c
  conn : l.spoilt = true ∨ P l.conn

def Conn.Clean (x : Conn) : Prop := x = {}

/-- Nothing but a watch is open. -/
def Conn.Watching (x : Conn) : Prop := x.err = false ∧ x.queue = none

variable {this : WorkerId} {usrName usrKey : Str} {redisconn : Option ConnId}
  {connection : Option SessId} {α β : Type} {l : Handle} {P Q : Conn → Prop}

/-- A program that makes no call to Redis leaves the context as it is. -/
theorem handles_of_noRedis {p : Code α} (only : p.Only Call.NoRedis) :
    Handles p l fun _ l' => l' = l := by
  apply only.keeps
  · intro c noRedis
    cases c with
    | redis c => exact absurd noRedis id
    | mysql c | counter c | grpc c | crash why => exact ⟨trivial, fun _ _ => rfl⟩
  · exact fun _ => rfl

/-- The rule for a command. -/
theorem command_handles {k : Option RedisReply → Code α} {post : α → Handle → Prop}
    (mine : At c P l)
    (rest : ∀ r l', At c (fun y => ∃ x, P x ∧ x.spoils cmd r = false ∧ x.hears cmd r = y) l' →
      Handles (k r) l' post) :
    Handles (redisCommand (some c) cmd >>= k) l post := by
  refine ⟨mine.ctx, fun _ r => rest r _ ⟨mine.ctx, ?_⟩⟩
  obtain spoilt | fits := mine.conn
  · exact Or.inl (by simp [spoilt])
  · cases spoils : l.conn.spoils cmd r with
    | true => exact Or.inl (by simp [spoils])
    | false => exact Or.inr ⟨l.conn, fits, spoils, rfl⟩

theorem At.mono (mine : At c P l) (weaker : ∀ x, P x → Q x) : At c Q l :=
  ⟨mine.ctx, mine.conn.imp_right (weaker l.conn)⟩

/-- A command that opens nothing. -/
theorem plain_handles {k : Option RedisReply → Code α} {post : α → Handle → Prop}
    (mine : At c P l) (other : ∀ x r, P x → x.spoils cmd r = false → P (x.hears cmd r))
    (rest : ∀ r l', At c P l' → Handles (k r) l' post) :
    Handles (redisCommand (some c) cmd >>= k) l post := by
  apply command_handles mine
  intro r l' mine'
  apply rest r l'
  apply mine'.mono
  rintro y ⟨x, fits, unspoilt, rfl⟩
  exact other x r fits unspoilt

/-- The program gives the context back as it got it: clean. -/
abbrev Cleans {α : Type} (c : ConnId) (p : Code α) : Prop :=
  ∀ {l}, At c Conn.Clean l → Handles p l fun _ l' => At c Conn.Clean l'

theorem Cleans.bind {p : Code α} {f : α → Code β} (first : Cleans c p) (rest : ∀ a, Cleans c (f a)) :
    Cleans c (p >>= f) :=
  fun mine => Prog.Keeps.bind (first mine) fun a _ mine' => rest a mine'

theorem cleans_of_noRedis {p : Code α} (only : p.Only Call.NoRedis) : Cleans c p :=
  fun mine => (handles_of_noRedis only).mono fun _ _ same => same ▸ mine

/-- A reply that spoils nothing is there. -/
theorem Conn.answered {x : Conn} (unspoilt : x.spoils cmd r = false) : ∃ reply, r = some reply := by
  cases r with
  | none => simp [Conn.spoils] at unspoilt
  | some reply => exact ⟨reply, rfl⟩

theorem Conn.Clean.stays {x : Conn} (clean : x.Clean) (other : cmd ≠ .watch ∧ cmd ≠ .multi)
    (unspoilt : x.spoils cmd r = false) : (x.hears cmd r).Clean := by
  obtain ⟨reply, rfl⟩ := Conn.answered unspoilt
  cases clean
  cases cmd <;> simp_all [Conn.hears, Conn.Clean]

theorem watchCount_handles (mine : At c Conn.Clean l) :
    Handles (watchCount (some c)) l fun
      | none, l' => At c Conn.Clean l'
      | some _, l' => At c Conn.Watching l' := by
  apply command_handles mine
  intro watchReply l₁ watched
  apply command_handles watched
  intro reply l₂ got
  cases reply with
  | none =>
    -- the context is spoilt, if it was not before
    apply got.mono
    rintro y ⟨x, _, unspoilt, _⟩
    simp [Conn.spoils] at unspoilt
  | some reply =>
    have heard : At c (fun y => ∃ first, watchReply = some first ∧ y = Conn.hears {} .watch watchReply)
        l₂ := by
      apply got.mono
      rintro y ⟨x, ⟨_, rfl, unspoilt, rfl⟩, _, rfl⟩
      obtain ⟨first, rfl⟩ := Conn.answered unspoilt
      exact ⟨first, rfl, rfl⟩
    show Handles (if isOK watchReply = true then _ else _) _ _
    cases watching : isOK watchReply with
    | true =>
      rw [if_pos rfl]
      cases reply.str with
      | none => exact ⟨trivial, nofun⟩
      | some v =>
        apply heard.mono
        rintro y ⟨first, rfl, rfl⟩
        simp only [Conn.hears, watching, if_true]
        exact ⟨rfl, rfl⟩
    | false =>
      rw [if_neg Bool.false_ne_true]
      apply heard.mono
      rintro y ⟨first, rfl, rfl⟩
      simp [Conn.hears, watching, Conn.Clean]

theorem reserve_handles (mine : At c Conn.Watching l) :
    Handles (reserve usrName usrKey (some c)) l fun
      | true, l' => At c Conn.Clean l'
      | false, l' => At c Conn.Watching l' := by
  apply command_handles mine
  intro multiReply l₁ opened
  show Handles (if isOK multiReply = true then _ else _) _ _
  cases multi : isOK multiReply with
  | false =>
    rw [if_neg Bool.false_ne_true]
    apply opened.mono
    rintro y ⟨x, watching, unspoilt, rfl⟩
    obtain ⟨reply, rfl⟩ := Conn.answered unspoilt
    simpa [Conn.hears, multi] using watching
  | true =>
    rw [if_pos rfl]
    -- the transaction is open, and an answer to EXEC ends it unless it refuses EXEC
    have opened : At c (fun y => y.err = false ∧ y.queue.isSome = true) l₁ := by
      apply opened.mono
      rintro y ⟨x, watching, unspoilt, rfl⟩
      obtain ⟨reply, rfl⟩ := Conn.answered unspoilt
      simp [Conn.hears, multi, watching.1]
    apply plain_handles opened
    · intro x r fits unspoilt
      obtain ⟨reply, rfl⟩ := Conn.answered unspoilt
      exact fits
    intro _ l₂ decred
    apply plain_handles decred
    · intro x r fits unspoilt
      obtain ⟨reply, rfl⟩ := Conn.answered unspoilt
      exact fits
    intro _ l₃ queued
    apply command_handles queued
    intro execReply l₄ executed
    have clean : At c Conn.Clean l₄ := by
      apply executed.mono
      rintro y ⟨x, ⟨healthy, open_⟩, unspoilt, rfl⟩
      obtain ⟨reply, rfl⟩ := Conn.answered unspoilt
      have taken : reply.refusesExec = false := by simpa [Conn.spoils, open_] using unspoilt
      simp [Conn.hears, Conn.Clean, Conn.forget, open_, healthy, taken]
    have watching : At c Conn.Watching l₄ := clean.mono fun x clean => by
      cases clean
      exact ⟨rfl, rfl⟩
    split
    next elements =>
      show Handles (.ret (decide (1 < elements))) _ _
      cases decide (1 < elements) with
      | true => exact clean
      | false => exact watching
    next => exact watching

/-- An `UNWATCH` that is not refused leaves nothing open. -/
theorem unwatch_handles {k : Option RedisReply → Code α} {post : α → Handle → Prop}
    (mine : At c Conn.Watching l) (rest : ∀ r l', At c Conn.Clean l' → Handles (k r) l' post) :
    Handles (redisCommand (some c) .unwatch >>= k) l post := by
  apply command_handles mine
  intro r l' unwatched
  apply rest r l'
  apply unwatched.mono
  rintro y ⟨x, ⟨healthy, closed⟩, unspoilt, rfl⟩
  obtain ⟨reply, rfl⟩ := Conn.answered unspoilt
  obtain ⟨err, watched, queue⟩ := x
  cases healthy
  cases closed
  cases done : isOK (some reply) with
  | true => simp [Conn.hears, Conn.Clean, done]
  | false =>
    have unwatched : watched = none := by simpa [Conn.spoils, done] using unspoilt
    simp [Conn.hears, Conn.Clean, done, unwatched]

theorem refill_handles (mine : At c Conn.Watching l) :
    Handles (refill (some c)) l fun _ l' => At c Conn.Clean l' := by
  apply unwatch_handles mine
  intro _ l₁ clean
  have unlock : Cleans c (counter .unlock) := cleans_of_noRedis counter_noRedis
  refine ⟨trivial, fun _ _ => ⟨trivial, fun _ failedCount => ?_⟩⟩
  show Handles (if failedCount > 0 then _ else _) l₁ _
  split
  · refine ⟨trivial, fun _ again => ?_⟩
    apply plain_handles clean
    · exact fun x r clean unspoilt => Conn.Clean.stays clean (by simp) unspoilt
    intro setCreply l₂ clean₂
    split
    · exact ⟨trivial, fun _ _ => unlock clean₂⟩
    · exact unlock clean₂
  · exact unlock clean

theorem seckillGoodsFrom_cleans {fuel repeatCount : Nat} :
    Cleans c (seckillGoodsFrom this usrName usrKey (some c) connection fuel repeatCount) := by
  have answer : Cleans c (setResult this zero) := cleans_of_noRedis setResult_noRedis
  induction fuel generalizing repeatCount with
  | zero => exact fun {l} mine => mine
  | succ fuel ih =>
    have retry : Cleans c (if repeatCount + 1 < RETRYCOUNT then
        seckillGoodsFrom this usrName usrKey (some c) connection fuel (repeatCount + 1)
        else setResult this zero) := by
      split
      · exact ih
      · exact answer
    intro l mine
    apply (watchCount_handles mine).bind
    intro count l₁ counted
    cases count with
    | none => exact answer counted
    | some currGoodsCount =>
      show Handles (if currGoodsCount > 0 then _ else _) l₁ _
      split
      · apply (reserve_handles counted).bind
        intro reserved l₂ after
        cases reserved with
        | true => exact cleans_of_noRedis seckillGoodsMysql_noRedis after
        | false => exact unwatch_handles after fun _ _ clean => retry clean
      · exact (refill_handles counted).bind fun _ _ clean => answer clean

theorem checkUserInfo_cleans : Cleans c (checkUserInfo usrName usrKey (some c) connection) := by
  intro l mine
  apply plain_handles mine
  · exact fun x r clean unspoilt => Conn.Clean.stays clean (by simp) unspoilt
  intro confirmReply l' clean
  split <;> exact clean

theorem checkUserHasGot_cleans : Cleans c (checkUserHasGot usrName (some c) connection) := by
  intro l mine
  apply plain_handles mine
  · exact fun x r clean unspoilt => Conn.Clean.stays clean (by simp) unspoilt
  intro orderReply l' clean
  split <;> exact clean

theorem serveRequest_cleans : Cleans c (serveRequest this usrName usrKey (some c) connection) := by
  have answer : Cleans c (setResult this zero) := cleans_of_noRedis setResult_noRedis
  apply checkUserInfo_cleans.bind
  intro registered
  cases registered with
  | false => exact answer
  | true =>
    apply checkUserHasGot_cleans.bind
    intro hasgot
    cases hasgot with
    | true => exact answer
    | false => exact seckillGoodsFrom_cleans

/-- The end of a request: both connections are given back. -/
theorem process_handles (mine : At c Conn.Clean l) :
    Handles (process this (some c) connection) l fun _ l' => l'.ctx = none := by
  apply (cleans_of_noRedis newWorker_noRedis mine).bind
  intro _ l₁ mine₁
  refine ⟨trivial, fun _ usrName => ⟨trivial, fun _ usrKey => ?_⟩⟩
  apply (serveRequest_cleans mine₁).bind
  intro _ l₂ mine₂
  refine ⟨⟨mine₂.ctx, mine₂.conn⟩, fun _ _ => ?_⟩
  apply (handles_of_noRedis mysqlClose_noRedis).bind
  rintro _ _ rfl
  exact ⟨trivial, fun _ _ => ⟨trivial, fun _ _ => rfl⟩⟩

theorem proceedAs_handles {status : WorkerStatus} (free : l.ctx = none) :
    Handles (proceedAs this status) l fun _ l' => l'.ctx = none := by
  cases status with
  | create => exact ⟨trivial, fun _ _ => ⟨trivial, fun _ _ => free⟩⟩
  | process =>
    refine ⟨free, fun _ redisconn => ⟨trivial, fun _ connection => ⟨trivial, fun _ _ => ?_⟩⟩⟩
    cases redisconn with
    | none => exact ⟨trivial, nofun⟩
    | some c =>
      have got : At c Conn.Clean { ctx := some c } := ⟨rfl, Or.inr rfl⟩
      apply plain_handles got
      · exact fun x r clean unspoilt => Conn.Clean.stays clean (by simp) unspoilt
      · exact fun _ _ mine => process_handles mine
  | finish =>
    refine ⟨free, fun _ redisconn => ?_⟩
    cases redisconn with
    | none => exact ⟨trivial, nofun⟩
    | some c =>
      have got : At c Conn.Clean { ctx := some c } := ⟨rfl, Or.inr rfl⟩
      apply plain_handles got
      · exact fun x r clean unspoilt => Conn.Clean.stays clean (by simp) unspoilt
      · exact fun _ _ mine => ⟨⟨mine.ctx, mine.conn⟩, fun _ _ => ⟨trivial, fun _ _ => rfl⟩⟩

theorem admission_handles (free : l.ctx = none) :
    Handles admission l fun _ l' => l'.ctx = none := by
  refine ⟨trivial, fun _ successNum => ?_⟩
  show Handles (if successNum < 50 then _ else _) l _
  split
  · refine ⟨free, fun _ redisconn => ?_⟩
    cases redisconn with
    | none => exact ⟨trivial, nofun⟩
    | some c =>
      have got : At c Conn.Clean { ctx := some c } := ⟨rfl, Or.inr rfl⟩
      apply plain_handles got
      · exact fun x r clean unspoilt => Conn.Clean.stays clean (by simp) unspoilt
      intro reply l' mine
      split
      · exact ⟨trivial, fun _ _ => ⟨⟨mine.ctx, mine.conn⟩, fun _ _ => rfl⟩⟩
      · exact ⟨⟨mine.ctx, mine.conn⟩, fun _ _ => rfl⟩
  · exact free

/-- Every program of the server gives its contexts back clean or spoilt. -/
theorem handling_conforms : handling.Conforms := by
  refine ⟨rfl, fun e => ?_⟩
  cases e with
  | handleRPCS =>
    apply (admission_handles rfl).bind
    intro passed l free
    cases passed with
    | false => exact free
    | true => exact ⟨trivial, fun _ _ => ⟨trivial, fun _ _ => proceedAs_handles free⟩⟩
  | fallback =>
    refine ⟨trivial, fun _ tag => ⟨trivial, fun _ status => ?_⟩⟩
    have proceed (status : WorkerStatus) : Handles (proceedAs tag status) {} fun _ l' => l'.ctx = none :=
      proceedAs_handles rfl
    cases status with
    | create => exact proceed .create
    | finish => exact proceed .finish
    | process =>
      refine ⟨trivial, fun _ connection => ⟨trivial, fun _ _ => ?_⟩⟩
      apply (handles_of_noRedis process_noRedis).mono
      rintro _ _ rfl
      rfl

/-! ## Runs -/

section Runs

variable {st : Stores} {h : History anyReplies} {cfg : Config anyReplies} {s x : Server}
  {ls : Nat → Handle} {t : Nat} {l : Handle}

/-- Every command is answered, no `UNWATCH` is refused while something is watched, and no `EXEC`
    while `MULTI` is open. -/
def unspoilt : History anyReplies → Server → Event anyReplies → Bool
  | _, s, .call _ (.redis (.command c cmd)) _ r => !(s.redis.conn c).spoils cmd r
  | _, _, _ => true

/-- The thread has no context, or knows the state of the one it has. -/
def Handle.Knows (conn : ConnId → Conn) (l : Handle) : Prop :=
  ∀ c, l.ctx = some c → l.spoilt = false ∧ conn c = l.conn

/-- Every thread knows the state of the context it has, and those in the pool are clean. -/
structure Contexts (s : Server) (ls : Nat → Handle) : Prop where
  leases : Exclusive (fun l c => l.ctx = some c) ls s.redis.redispool s.redis.fresh
  known : ∀ t, (ls t).Knows s.redis.conn
  clean : ∀ c ∈ s.redis.redispool, (s.redis.conn c).Clean

/-- A step that has nothing to do with Redis. -/
theorem Contexts.keep (inv : Contexts s ls) (redis : x.redis = s.redis) (same : l = ls t) :
    Contexts x (Function.update ls t l) := by
  rw [same, Function.update_eq_self]
  exact ⟨by rw [redis]; exact inv.leases, by rw [redis]; exact inv.known,
    by rw [redis]; exact inv.clean⟩

theorem Contexts.getOneConnect {connects : Bool} {r : Option ConnId} {y : RedisState}
    (inv : Contexts s ls) (got : s.redis.getOneConnect connects = (r, y)) :
    Contexts { s with redis := y } (Function.update ls t { ctx := r }) := by
  have leases := getContext_exclusive (t := t) (l := { ctx := r }) inv.leases (fun _ held => held) got
  obtain ⟨c, rest, pool, taken⟩ | ⟨_, _, made⟩ | none := s.redis.getOneConnect_cases connects
  · rw [taken] at got
    cases got
    -- what is taken was clean in the pool
    refine ⟨leases, fun t' => ?_, fun c' free => inv.clean c' ?_⟩
    · apply forall_update (P := Handle.Knows s.redis.conn) inv.known
      rintro _ ⟨⟩
      refine ⟨rfl, inv.clean c ?_⟩
      rw [pool]
      exact List.mem_cons_self
    · rw [pool]
      exact List.mem_cons_of_mem c free
  · rw [made] at got
    cases got
    have before {c : ConnId} (made : c < s.redis.fresh) :
        (s.redis.setConn s.redis.fresh {}).conn c = s.redis.conn c :=
      Function.update_of_ne (Nat.ne_of_lt made) _ _
    refine ⟨leases, fun t' c held => ?_, fun c free => ?_⟩
    · by_cases own : t' = t
      · subst own
        rw [Function.update_self] at held ⊢
        cases held
        exact ⟨rfl, Function.update_self _ _ _⟩
      · rw [Function.update_of_ne own] at held ⊢
        obtain ⟨unspoilt, same⟩ := inv.known t' c held
        exact ⟨unspoilt, (before (inv.leases.held_made held)).trans same⟩
    · show ((s.redis.setConn s.redis.fresh {}).conn c).Clean
      rw [before (inv.leases.idle_made free)]
      exact inv.clean c free
  · rw [none] at got
    cases got
    refine ⟨leases, fun t' => ?_, inv.clean⟩
    apply forall_update (P := Handle.Knows s.redis.conn) inv.known
    exact fun _ => nofun

theorem Contexts.close (inv : Contexts s ls) (held : (ls t).ctx = some c)
    (left : (ls t).spoilt = true ∨ (ls t).conn = {}) :
    Contexts { s with redis := s.redis.close c } (Function.update ls t {}) := by
  obtain ⟨unspoilt, same⟩ := inv.known t c held
  have clean : (s.redis.conn c).Clean := by
    rw [same]
    exact left.resolve_left (by simp [unspoilt])
  refine ⟨inv.leases.give held fun j => nofun, fun t' => ?_, fun c' free => ?_⟩
  · apply forall_update (P := Handle.Knows s.redis.conn) inv.known
    exact fun _ => nofun
  · obtain before | last := List.mem_append.mp free
    · exact inv.clean c' before
    · rw [List.mem_singleton.mp last]
      exact clean

theorem Contexts.command (inv : Contexts s ls) (held : (ls t).ctx = some c)
    (unspoilt : (s.redis.conn c).spoils cmd r = false) :
    Contexts { s with redis := s.redis.setConn c ((s.redis.conn c).hears cmd r) }
      (Function.update ls t { ls t with
        conn := (ls t).conn.hears cmd r
        spoilt := (ls t).spoilt || (ls t).conn.spoils cmd r }) := by
  obtain ⟨before, same⟩ := inv.known t c held
  refine ⟨inv.leases.keep fun j => id, fun t' c' held' => ?_, fun c' free => ?_⟩
  · by_cases own : t' = t
    · subst own
      rw [Function.update_self] at held' ⊢
      obtain rfl := Option.some.inj (held.symm.trans held')
      rw [same] at unspoilt
      refine ⟨by simp [before, unspoilt], ?_⟩
      show Function.update s.redis.conn c _ c = _
      rw [Function.update_self, same]
    · rw [Function.update_of_ne own] at held' ⊢
      have other : c' ≠ c := by
        rintro rfl
        exact own (inv.leases.once held' held)
      obtain ⟨unspoilt', same'⟩ := inv.known t' c' held'
      exact ⟨unspoilt', (Function.update_of_ne other _ _).trans same'⟩
  · have other : c' ≠ c := by
      rintro rfl
      exact inv.leases.apart held free
    show (Function.update s.redis.conn c _ c').Clean
    rw [Function.update_of_ne other]
    exact inv.clean c' free

theorem contexts (run : Run (meets unspoilt) (boot st) h cfg) :
    Contexts cfg.state (locals handling h) := by
  refine @Run.invariant _ _ _ _ _ _ _ handling (fun _ => Contexts) handling_conforms ?_ ?_ ?_ run
  · refine ⟨Exclusive.init (fun _ => (by simp)) (List.nodup_singleton 0) (by simp [boot]), ?_, ?_⟩
    · exact fun _ _ => by simp
    · exact fun _ _ => rfl
  · intro h cfg t c f r x _ inv met allowed exec
    cases c with
    | crash why => exact r.elim
    | mysql c | counter c | grpc c =>
      obtain ⟨y, _, same⟩ := Option.map_eq_some_iff.mp exec
      cases same
      exact inv.keep rfl rfl
    | redis c =>
      cases c with
      | getOneConnect =>
        obtain ⟨⟨r', y⟩, got, same⟩ := Option.map_eq_some_iff.mp exec
        cases same
        obtain ⟨f, reply⟩ := f
        cases f <;> simp only [RedisState.exec, Option.some.injEq, reduceCtorEq] at got
        all_goals exact inv.getOneConnect got
      | close c =>
        obtain ⟨⟨r', y⟩, got, same⟩ := Option.map_eq_some_iff.mp exec
        cases same
        obtain ⟨f, reply⟩ := f
        cases f <;> cases got
        exact inv.close allowed.1 allowed.2
      | command c cmd =>
        obtain ⟨f, reply⟩ := f
        simp only [Server.hear] at exec
        split at exec
        · cases exec
        · cases exec
          apply inv.command allowed
          have met : (!(cfg.state.redis.conn c).spoils cmd r) = true := met
          simpa using met
  · intro h cfg t e _ inv _ settled
    refine ⟨inv.leases.keep fun j => (by simp), fun t' => ?_, inv.clean⟩
    apply forall_update (P := Handle.Knows cfg.state.redis.conn) inv.known
    exact fun _ => by simp

/-- Where every command is answered and neither an `EXEC` nor an `UNWATCH` that is needed is
    refused, the contexts in the pool are clean, and so is every context that is handed out. -/
theorem contexts_clean (run : Run (meets unspoilt) (boot st) h cfg) :
    (∀ c ∈ cfg.state.redis.redispool, cfg.state.redis.conn c = {}) ∧
      ∀ connects c x, cfg.state.redis.getOneConnect connects = (some c, x) → x.conn c = {} := by
  have inv := contexts run
  refine ⟨inv.clean, fun connects c x got => ?_⟩
  obtain ⟨c', rest, pool, taken⟩ | ⟨_, _, made⟩ | none := cfg.state.redis.getOneConnect_cases connects
  · rw [taken] at got
    cases got
    apply inv.clean
    rw [pool]
    exact List.mem_cons_self
  · rw [made] at got
    cases got
    exact Function.update_self _ _ _
  · rw [none] at got
    cases got

/-- The moves of thread 0 with the replies that its commands get. -/
def hearing (replies : List (Fate × Option RedisReply)) : List (Move anyReplies) :=
  .start 0 .handleRPCS :: replies.map fun x => .go 0 x

/-- A call other than a command. -/
def done : Fate × Option RedisReply := (.ok, none)

def heard (r : RedisReply) : Fate × Option RedisReply := (.ok, some r)

/-- A request whose `EXEC` is answered nil and whose next `WATCH` is refused. -/
def refusedTwice : List (Move anyReplies) :=
  hearing ([done, done, heard (.integer 0), done, done, (.deliver 0 ['a'] ['k'], none)] ++
    List.replicate 4 done ++ [heard (.integer 1)] ++ List.replicate 5 done ++
    [heard (.string ['k']), heard .nil, heard (.status okText), heard (.string ['5']),
      heard (.status okText), heard (.status []), heard (.status []), heard .nil,
      heard (.status okText), heard (.error []), heard (.string ['5']), done, done])

theorem contexts_clean_refused :
    ∃ h cfg, Run (meets unspoilt) (boot (agreeing [(['a'], ['k'])] 50)) h cfg ∧ h.length = 30 ∧
      cfg.state.redis.redispool = [0] ∧ cfg.state.redis.conn 0 = {} := by
  have ran : ((replay unspoilt refusedTwice [] (initial (boot (agreeing [(['a'], ['k'])] 50)))).any
      fun x => x.1.length == 30 && x.2.state.redis.redispool == [0]) = true := by decide +kernel
  obtain ⟨⟨h, cfg⟩, played, after⟩ := (Option.any_eq_true _ _).mp ran
  simp only [Bool.and_eq_true, beq_iff_eq] at after
  have run : Run (meets unspoilt) _ h cfg := replay_meets played
  refine ⟨h, cfg, run, after.1, after.2, ?_⟩
  apply (contexts_clean run).1
  rw [after.2]
  exact List.mem_singleton_self 0

/-- The connection breaks at the `LLEN` of the gate, and its context is given back. -/
theorem contexts_unclean :
    ∃ (h : History anyReplies) (cfg : Config anyReplies),
      Run (meets fun _ _ _ => true) (boot (agreeing [] 50)) h cfg ∧
      0 ∈ cfg.state.redis.redispool ∧ cfg.state.redis.conn 0 = { err := true } := by
  have ran : ((replay (fun _ _ _ => true) (hearing [done, done, done, done]) []
      (initial (M := anyReplies) (boot (agreeing [] 50)))).any fun x =>
        x.2.state.redis.redispool == [0] && x.2.state.redis.conn 0 == { err := true }) = true := by
    decide +kernel
  obtain ⟨⟨h, cfg⟩, played, after⟩ := (Option.any_eq_true _ _).mp ran
  simp only [Bool.and_eq_true, beq_iff_eq] at after
  refine ⟨h, cfg, replay_meets played, ?_, after.2⟩
  rw [after.1]
  exact List.mem_singleton_self 0

/-- Redis is busy with a script at `EXEC` and takes the rest for a part of the transaction; the
    context comes back with `MULTI` open. -/
example : ((replay (fun _ _ _ => true)
    (hearing ([done, done, heard (.integer 0), done, done, (.deliver 0 ['a'] ['k'], none)] ++
      List.replicate 4 done ++ [heard (.integer 1)] ++ List.replicate 5 done ++
      [heard (.string ['k']), heard .nil, heard (.status okText), heard (.string ['5']),
        heard (.status okText), heard (.status []), heard (.status []), heard (.error "BUSY".toList),
        heard (.status []), heard (.error []), heard (.status []), done, done]))
    [] (initial (M := anyReplies) (boot (agreeing [(['a'], ['k'])] 50)))).any fun x =>
      x.2.state.redis.redispool == [0] && (x.2.state.redis.conn 0).queue == some []) = true := by
  decide +kernel

end Runs

end Seckill

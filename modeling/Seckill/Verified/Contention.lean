import Seckill.Verified.OptimisticLocking

/-! # Whoever is refused was beaten

An `EXEC` of `seckillGoods` is refused only where somebody else wrote `total_count` after the
`WATCH` of this thread, with an `EXEC` or a refill.  So contention alone never stops the sale:
each refusal in a turn stands for a write of another thread in that turn.
-/

namespace Seckill

open CStr CallTree Threads

variable {ok : Condition server} {st : Stores} {h : History server} {cfg : Config server}
  {s x : RedisState} {c c' : ConnId} {l : Local} {ls : Nat → Local} {t t' : Nat} {cmd : RedisCmd}

/-! ## Refusals and rivals -/

/-- A call that writes `total_count`: an `EXEC` that goes through or a `SET`.  An `EXEC` whose reply
    is lost may have written it. -/
def mayWrite : (c : Call) → Fate → c.Reply → Bool
  | .redis (.command _ .exec), .ok, some (.array _) => true
  | .redis (.command _ .exec), .lostAfter, _ => true
  | .redis (.command _ (.set _)), .ok, some _ => true
  | .redis (.command _ (.set _)), .lostAfter, _ => true
  | _, _, _ => false

/-- An `EXEC` of thread `t` that is refused. -/
def refused (t : Nat) : Event server → Bool
  | .call t' (.redis (.command _ .exec)) _ r => t' == t && r == some .nil
  | _ => false

/-- A call of another thread than `t` that may write `total_count`. -/
def rival (t : Nat) : Event server → Bool
  | .call t' c f r => t' != t && mayWrite c f r
  | .start _ _ => false

/-- How many such events there are since thread `t` began its turn. -/
def inTurn (t : Nat) (event : Event server → Bool) : History server → Nat
  | [] => 0
  | .start t' _ :: h => if t' = t then 0 else inTurn t event h
  | ev :: h => (if event ev then 1 else 0) + inTurn t event h

/-- The watch of the thread's context was spoilt. -/
def Beaten (s : RedisState) (p : RedisLocal) : Prop :=
  ∃ c, p.ctx = some c ∧ (s.conn c).err = false ∧ (s.conn c).watched = some true

/-- Between transactions nothing is watched. -/
def Clear (x : Conn) (p : RedisPhase) : Prop := x.err = false → p = .free → x.watched = none

structure Contended (h : History server) (s : RedisState) (ls : Nat → Local) : Prop where
  bound : ∀ t, inTurn t (refused t) h ≤ inTurn t (rival t) h
  beaten : ∀ t, Beaten s (ls t).redis → inTurn t (refused t) h < inTurn t (rival t) h
  clear : ∀ t c, (ls t).redis.ctx = some c → Clear (s.conn c) (ls t).redis.phase
  idle : ∀ c ∈ s.redispool, Clear (s.conn c) .free

/-! ## One command -/

theorem touch_none {conn : ConnId → Conn} {touched : Bool} (unwatched : (conn c).watched = none) :
    (RedisState.touch conn touched c).watched = none := by
  cases touched with
  | false => exact unwatched
  | true => simp [RedisState.touch, Conn.touch, unwatched]

/-- A thread's own command spoils no watch of its context and ends its transaction without one. -/
theorem serve_own (fits : Fits (s.conn c) s.data.totalCount l.redis.phase)
    (allowed : l.AllowsCmd cmd) (clear : l.redis.phase = .free → (s.conn c).watched = none) :
    (((s.serve c cmd).2.conn c).watched = some true → (s.conn c).watched = some true) ∧
      ((l.noteCmd cmd (some (s.serve c cmd).1)).redis.phase = .free →
        ((s.serve c cmd).2.conn c).watched = none) := by
  have data (free : l.redis.phase = .free)
      (plain : cmd ≠ .watch ∧ cmd ≠ .unwatch ∧ cmd ≠ .multi ∧ cmd ≠ .exec) :
      ((s.serve c cmd).2.conn c).watched = none := by
    rw [free] at fits
    rw [serve_data fits plain]
    exact touch_none (clear free)
  have outside (free : l.redis.phase = .free)
      (plain : cmd ≠ .watch ∧ cmd ≠ .unwatch ∧ cmd ≠ .multi ∧ cmd ≠ .exec) :
      (((s.serve c cmd).2.conn c).watched = some true → (s.conn c).watched = some true) ∧
        ((l.noteCmd cmd (some (s.serve c cmd).1)).redis.phase = .free →
          ((s.serve c cmd).2.conn c).watched = none) := by
    rw [data free plain]
    exact ⟨fun eq => (by cases eq), fun _ => rfl⟩
  cases cmd with
  | set value => exact outside allowed.1 (by simp)
  | hget key field => exact outside allowed.1.1 (by simp)
  | lpush value | lpop | llen => exact outside allowed.1 (by simp)
  | watch =>
    rw [allowed.1] at fits
    have queue : (s.conn c).queue = none := fits
    have opened : isOK (some (.status okText)) = true := by decide
    simp only [RedisState.serve, queue, Local.noteCmd, opened, if_true]
    -- there was no watch before, so the new one has no mark
    refine ⟨?_, fun eq => (by cases eq)⟩
    simp [RedisState.setConn, clear allowed.1]
  | unwatch =>
    have queue : (s.conn c).queue = none := by
      obtain free | ⟨v, counted⟩ := allowed
      · rwa [free] at fits
      · rw [counted] at fits
        exact fits.1
    simp only [RedisState.serve, queue]
    simp [RedisState.setConn]
  | multi =>
    obtain ⟨v, counted, _⟩ := allowed
    rw [counted] at fits
    have opened : isOK (some (.status okText)) = true := by decide
    simp only [RedisState.serve, fits.1, Local.noteCmd, counted, opened, if_true]
    exact ⟨by simp [RedisState.setConn], fun eq => (by cases eq)⟩
  | exec =>
    obtain ⟨_, _, v, name, queued, _⟩ := allowed
    rw [queued] at fits
    obtain ⟨⟨key, queue⟩, _⟩ := fits
    -- nil or not, the watch is gone
    have dropped : ((s.serve c .exec).2.conn c).watched = none := by
      simp only [RedisState.serve, queue]
      split <;> simp [RedisState.setConn, Conn.forget]
    rw [dropped]
    exact ⟨fun eq => (by cases eq), fun _ => rfl⟩
  | get =>
    obtain refused | watched := allowed
    · -- a server that answers never refuses the `WATCH`
      rw [refused] at fits
      exact fits.elim
    · rw [watched] at fits
      have counted : (l.noteCmd .get (some (.string s.data.totalCount))).redis.phase =
          .counted s.data.totalCount := by
        simp only [Local.noteCmd, Local.noteGet, watched, Option.bind_some, RedisReply.str]
        split <;> rfl
      rw [serve_data fits.1 (by simp)]
      simp only [RedisData.run, counted, RedisState.touch]
      exact ⟨id, fun eq => (by cases eq)⟩
  | decr =>
    obtain ⟨v, opened⟩ := allowed
    rw [opened] at fits
    rw [serve_queued fits.1 (by simp)]
    simp only [Local.noteCmd, opened]
    exact ⟨by simp [RedisState.setConn], fun eq => (by cases eq)⟩
  | hmset key field value =>
    cases key with
    | usrInfo => exact allowed.elim
    | orderInfo =>
      obtain ⟨v, name, decred, _, _⟩ := allowed
      rw [decred] at fits
      rw [serve_queued fits.1 (by simp)]
      simp only [Local.noteCmd, decred]
      exact ⟨by simp [RedisState.setConn], fun eq => (by cases eq)⟩

/-- Whoever is refused was beaten. -/
theorem exec_beaten (refused : (s.serve c .exec).1 = .nil) : (s.conn c).watched = some true := by
  unfold RedisState.serve at refused
  split at refused
  · cases refused
  · simp only at refused
    split at refused
    next beaten => exact beaten
    next => cases refused

/-- A command that was answered, or left its context whole, was served. -/
theorem command_served {f : Fate} {r : Option RedisReply}
    (sent : s.redisCommand c cmd f = some (r, x))
    (whole : r.isSome = true ∨ (x.conn c).err = false) : f = .ok ∧ (s.conn c).err = false := by
  by_contra broken
  rw [Classical.not_and_iff_not_or_not, Bool.not_eq_false] at broken
  obtain ⟨unanswered, err⟩ := RedisState.redisCommand_broken sent broken
  simp [unanswered, err] at whole

/-- Only a command that may write the count spoils the watch of another connection. -/
theorem serve_spares_others (fits : Fits (s.conn c) s.data.totalCount l.redis.phase)
    (allowed : l.AllowsCmd cmd) (sets : ∀ value, cmd ≠ .set value)
    (executes : cmd = .exec → ∀ n, (s.serve c cmd).1 ≠ .array n) (other : c' ≠ c) :
    (s.serve c cmd).2.conn c' = s.conn c' := by
  cases cmd with
  | set value => exact absurd rfl (sets value)
  | watch | unwatch | multi =>
    unfold RedisState.serve
    split
    · exact Function.update_of_ne other _ _
    · first | rfl | exact Function.update_of_ne other _ _
  | get | hget key field | lpush value | llen =>
    unfold RedisState.serve
    split
    · rfl
    · exact Function.update_of_ne other _ _
  | lpop =>
    unfold RedisState.serve
    split
    · simp only [RedisData.run]
      split <;> rfl
    · exact Function.update_of_ne other _ _
  | exec =>
    obtain ⟨_, _, v, name, queued, _⟩ := allowed
    rw [queued] at fits
    obtain ⟨⟨key, queue⟩, _⟩ := fits
    have array := executes rfl
    simp only [RedisState.serve, queue] at array ⊢
    split
    next beaten => exact Function.update_of_ne other _ _
    next free =>
      -- an `EXEC` that goes through answers with an array
      rw [if_neg free] at array
      exact absurd rfl (array _)
  | decr =>
    obtain ⟨v, opened⟩ := allowed
    rw [opened] at fits
    rw [serve_queued fits.1 (by simp)]
    exact Function.update_of_ne other _ _
  | hmset key field value =>
    cases key with
    | usrInfo => exact allowed.elim
    | orderInfo =>
      obtain ⟨v, name, decred, _, _⟩ := allowed
      rw [decred] at fits
      rw [serve_queued fits.1 (by simp)]
      exact Function.update_of_ne other _ _

theorem command_spares_others {f : Fate} {r : Option RedisReply}
    (sent : s.redisCommand c cmd f = some (r, x))
    (fits : (s.conn c).err = false → Fits (s.conn c) s.data.totalCount l.redis.phase)
    (allowed : l.AllowsCmd cmd) (quiet : mayWrite (.redis (.command c cmd)) f r ≠ true)
    (other : c' ≠ c) : x.conn c' = s.conn c' := by
  unfold RedisState.redisCommand at sent
  (repeat' split at sent) <;> cases sent
  · rfl
  · next healthy =>
    refine serve_spares_others (fits (Bool.eq_false_iff.mpr healthy)) allowed ?_ ?_ other
    · rintro value rfl
      exact quiet rfl
    · rintro rfl n array
      exact quiet (by rw [array]; rfl)
  · exact Function.update_of_ne other _ _
  · next healthy =>
    have lose : ((s.serve c cmd).2.lose c).conn c' = (s.serve c cmd).2.conn c' :=
      Function.update_of_ne other _ _
    rw [lose]
    refine serve_spares_others (fits (Bool.eq_false_iff.mpr healthy)) allowed ?_ ?_ other
    · rintro value rfl
      exact quiet rfl
    · rintro rfl n array
      exact quiet rfl

/-! ## Every run -/

theorem Clear.touch {y : Conn} {p : RedisPhase} (clear : Clear y p) : Clear y.touch p := by
  intro healthy free
  have unwatched := clear healthy free
  simp [Conn.touch, unwatched]

/-- Of the thread's Redis side, of Redis and of the two counts nothing changes. -/
theorem Contended.keep {h' : History server} (inv : Contended h s ls)
    (redis : l.redis = (ls t).redis)
    (lost : ∀ t', inTurn t' (refused t') h' = inTurn t' (refused t') h)
    (won : ∀ t', inTurn t' (rival t') h' = inTurn t' (rival t') h) :
    Contended h' s (Function.update ls t l) where
  bound t' := by
    rw [lost, won]
    exact inv.bound t'
  beaten t' := by
    rw [lost, won, update_eq (fun l : Local => l.redis) redis]
    exact inv.beaten t'
  clear t' := by
    rw [update_eq (fun l : Local => l.redis) redis]
    exact inv.clear t'
  idle := inv.idle

theorem inTurn_call {event : Event server → Bool} {c : Call} {f : Fate} {r : c.Reply} :
    inTurn t' event (.call t c f r :: h) =
      (if event (.call t c f r) = true then 1 else 0) + inTurn t' event h := rfl

theorem refused_own {f : Fate} {r : Option RedisReply}
    (lost : refused t (.call t (.redis (.command c cmd)) f r) = true) :
    cmd = .exec ∧ r = some .nil := by
  cases cmd with
  | exec => simpa [refused] using lost
  | watch | unwatch | multi | get | set value | decr | hget key field | hmset key field value
  | lpush value | lpop | llen => cases lost

theorem refused_other {c : Call} {f : Fate} {r : c.Reply} (other : t' ≠ t) :
    refused t' (.call t c f r) = false := by
  have apart : (t == t') = false := beq_eq_false_iff_ne.mpr (Ne.symm other)
  unfold refused
  split
  next same =>
    cases same
    rw [apart, Bool.false_and]
  next => rfl

/-- One command of thread `t`. -/
theorem Contended.command {f : Fate} {r : Option RedisReply} (inv : Contended h s ls)
    (watches : Watches s ls) (holds : HoldsContexts s ls) (ctx : (ls t).redis.ctx = some c)
    (allowed : (ls t).AllowsCmd cmd) (sent : s.redisCommand c cmd f = some (r, x)) :
    Contended (.call t (.redis (.command c cmd)) f r :: h) x
      (Function.update ls t ((ls t).note (.redis (.command c cmd)) f r)) := by
  have pool := (RedisState.redisCommand_pool sent).pool
  have kept : ((ls t).note (.redis (.command c cmd)) f r).redis.ctx = some c := by
    rw [Local.note_command.1, ctx]
  -- the thread's own context, if it is still whole
  have own (healthy : (x.conn c).err = false) :
      ((x.conn c).watched = some true → (s.conn c).watched = some true) ∧
        (((ls t).note (.redis (.command c cmd)) f r).redis.phase = .free →
          (x.conn c).watched = none) := by
    obtain ⟨rfl, before⟩ := command_served sent (Or.inr healthy)
    obtain ⟨rfl, rfl⟩ := RedisState.redisCommand_ok sent before
    exact serve_own (watches.fits t c ctx before) allowed (inv.clear t c ctx before)
  have others {c' : ConnId} {p : RedisPhase} (other : c' ≠ c) (before : Clear (s.conn c') p) :
      Clear (x.conn c') p := by
    obtain ⟨conn, _⟩ | conn := RedisState.redisCommand_others sent other
    · rwa [conn]
    · rw [conn]
      exact before.touch
  have exec_free (executes : cmd = .exec) :
      ((ls t).note (.redis (.command c cmd)) f r).redis.phase = .free := by
    subst executes
    simp only [Local.note, Local.noteCmd]
    split <;> rfl
  constructor
  · intro t'
    have bound := inv.bound t'
    rw [inTurn_call, inTurn_call]
    by_cases lost : refused t' (.call t (.redis (.command c cmd)) f r) = true
    · -- an `EXEC` is refused only to who was beaten before
      have mine : t' = t := by
        by_contra other
        exact absurd ((refused_other other).symm.trans lost) Bool.false_ne_true
      subst mine
      obtain ⟨rfl, rfl⟩ := refused_own lost
      obtain ⟨rfl, before⟩ := command_served sent (Or.inl rfl)
      have nil := (RedisState.redisCommand_ok sent before).1
      have beaten := inv.beaten t' ⟨c, ctx, before, exec_beaten (Option.some.inj nil).symm⟩
      split_ifs <;> omega
    · rw [if_neg lost]
      omega
  · intro t' beaten
    rw [inTurn_call, inTurn_call]
    by_cases mine : t' = t
    · subst mine
      rw [Function.update_self] at beaten
      obtain ⟨c', held, healthy, watched⟩ := beaten
      obtain rfl := Option.some.inj (kept.symm.trans held)
      have served := command_served sent (Or.inr healthy)
      have before := inv.beaten t' ⟨c, ctx, served.2, (own healthy).1 watched⟩
      -- a refused `EXEC` has dropped the watch
      have going : ¬ refused t' (.call t' (.redis (.command c cmd)) f r) = true := by
        intro lost
        have unwatched := (own healthy).2 (exec_free (refused_own lost).1)
        cases watched.symm.trans unwatched
      rw [if_neg going]
      omega
    · -- another thread was beaten before, or by this very command
      have bound := inv.bound t'
      rw [Function.update_of_ne mine] at beaten
      rw [refused_other mine, if_neg Bool.false_ne_true]
      obtain ⟨c', held, healthy, watched⟩ := beaten
      have other : c' ≠ c := fun eq => mine (holds.once (eq ▸ held) ctx)
      by_cases writes : mayWrite (.redis (.command c cmd)) f r = true
      · have won : rival t' (.call t (.redis (.command c cmd)) f r) = true := by
          simp [rival, writes, Ne.symm mine]
        rw [if_pos won]
        omega
      · have same := command_spares_others sent (watches.fits t c ctx) allowed writes other
        rw [same] at healthy watched
        have before := inv.beaten t' ⟨c', held, healthy, watched⟩
        omega
  · intro t' c' held
    by_cases mine : t' = t
    · subst mine
      rw [Function.update_self] at held ⊢
      obtain rfl := Option.some.inj (kept.symm.trans held)
      exact fun healthy => (own healthy).2
    · rw [Function.update_of_ne mine] at held ⊢
      have other : c' ≠ c := fun eq => mine (holds.once (eq ▸ held) ctx)
      exact others other (inv.clear t' c' held)
  · intro c' free
    rw [pool] at free
    have other : c' ≠ c := fun eq => holds.apart ctx (eq ▸ free)
    exact others other (inv.idle c' free)

/-- Thread `t` gets a context, gives it back or begins its turn. -/
theorem Contended.change {h' : History server} (inv : Contended h s ls)
    (lost : ∀ t' ≠ t, inTurn t' (refused t') h' = inTurn t' (refused t') h)
    (won : ∀ t' ≠ t, inTurn t' (rival t') h' = inTurn t' (rival t') h)
    (bound : inTurn t (refused t) h' ≤ inTurn t (rival t) h')
    (others : ∀ t' ≠ t, ∀ c, (ls t').redis.ctx = some c → x.conn c = s.conn c)
    (own : ∀ c, l.redis.ctx = some c → (x.conn c).err = false → (x.conn c).watched = none)
    (idle : ∀ c ∈ x.redispool, Clear (x.conn c) .free) :
    Contended h' x (Function.update ls t l) := by
  constructor
  · intro t'
    by_cases mine : t' = t
    · subst mine
      exact bound
    · rw [lost t' mine, won t' mine]
      exact inv.bound t'
  · intro t' beaten
    by_cases mine : t' = t
    · subst mine
      rw [Function.update_self] at beaten
      obtain ⟨c, held, healthy, watched⟩ := beaten
      cases watched.symm.trans (own c held healthy)
    · rw [Function.update_of_ne mine] at beaten
      obtain ⟨c, held, healthy, watched⟩ := beaten
      rw [others t' mine c held] at healthy watched
      rw [lost t' mine, won t' mine]
      exact inv.beaten t' ⟨c, held, healthy, watched⟩
  · intro t' c held
    by_cases mine : t' = t
    · subst mine
      rw [Function.update_self] at held ⊢
      exact fun healthy _ => own c held healthy
    · rw [Function.update_of_ne mine] at held ⊢
      rw [others t' mine c held]
      exact inv.clear t' c held
  · exact idle

theorem Contended.getOneConnect {h' : History server} {connects : Bool} {r : Option ConnId}
    (inv : Contended h s ls) (holds : HoldsContexts s ls) (ctx : l.redis.ctx = r)
    (lost : ∀ t', inTurn t' (refused t') h' = inTurn t' (refused t') h)
    (won : ∀ t', inTurn t' (rival t') h' = inTurn t' (rival t') h)
    (got : s.getOneConnect connects = (r, x)) : Contended h' x (Function.update ls t l) := by
  have bound : inTurn t (refused t) h' ≤ inTurn t (rival t) h' := by
    rw [lost, won]
    exact inv.bound t
  subst ctx
  obtain ⟨c, rest, pool, taken⟩ | ⟨pool, _, made⟩ | none := s.getOneConnect_cases connects
  · -- a pooled context has no watch
    rw [taken] at got
    obtain ⟨ctx, rfl⟩ := Prod.mk.inj got
    refine inv.change (fun t' _ => lost t') (fun t' _ => won t') bound (fun _ _ _ _ => rfl) ?_ ?_
    · intro c' held healthy
      obtain rfl := Option.some.inj (ctx.trans held)
      exact inv.idle c (by simp [pool]) healthy rfl
    · exact fun c' free => inv.idle c' (by simp [pool, free])
  · -- nor has a new one, which nobody holds
    rw [made] at got
    obtain ⟨ctx, rfl⟩ := Prod.mk.inj got
    refine inv.change (fun t' _ => lost t') (fun t' _ => won t') bound ?_ ?_ ?_
    · intro t' _ c' held
      exact Function.update_of_ne (Nat.ne_of_lt (holds.held_made held)) _ _
    · intro c' held healthy
      obtain rfl := Option.some.inj (ctx.trans held)
      simp [RedisState.setConn]
    · intro c' free
      change c' ∈ s.redispool at free
      rw [pool] at free
      exact absurd free List.not_mem_nil
  · rw [none] at got
    obtain ⟨ctx, rfl⟩ := Prod.mk.inj got
    refine inv.change (fun t' _ => lost t') (fun t' _ => won t') bound (fun _ _ _ _ => rfl) ?_
      inv.idle
    intro c' held
    cases ctx.trans held

theorem inTurn_quiet {event : Event server → Bool} {c : Call} {f : Fate} {r : c.Reply}
    (quiet : event (.call t c f r) = false) :
    inTurn t' event (.call t c f r :: h) = inTurn t' event h := by
  rw [inTurn_call, quiet, if_neg Bool.false_ne_true, Nat.zero_add]

theorem rival_quiet {c : Call} {f : Fate} {r : c.Reply} (quiet : mayWrite c f r = false) :
    rival t' (.call t c f r) = false := by
  rw [rival, quiet, Bool.and_false]

theorem contended (run : Run ok (boot st) h cfg) :
    Contended h cfg.state.redis (locals watch h) := by
  refine server_invariant (fun h s ls => Contended h s.redis ls)
    ?initial ?redis ?mysql ?counter ?grpc ?start run
  case initial =>
    refine ⟨fun _ => Nat.le_refl 0, ?_, fun _ _ => nofun, fun _ _ _ _ => rfl⟩
    rintro t ⟨c, held, _⟩
    cases held
  case redis =>
    intro h cfg t c f r x run inv _ allowed exec
    have holds := contexts_exclusive run
    cases RedisState.exec_does exec with
    | getOneConnect got =>
      exact inv.getOneConnect holds rfl (fun _ => inTurn_quiet rfl)
        (fun _ => inTurn_quiet (rival_quiet rfl)) got
    | close c =>
      have bound := inv.bound t
      refine inv.change (fun _ _ => inTurn_quiet rfl)
        (fun _ _ => inTurn_quiet (rival_quiet rfl)) ?_ (fun _ _ _ _ => rfl) (fun _ => nofun) ?_
      · rw [inTurn_quiet rfl, inTurn_quiet (rival_quiet rfl)]
        exact bound
      · intro c' member
        obtain free | last := List.mem_append.mp member
        · exact inv.idle c' free
        · cases List.mem_singleton.mp last
          have given : (locals watch h t).redis = ⟨some c, .free⟩ := allowed
          have clear := inv.clear t c (by rw [given])
          rwa [given] at clear
    | command c cmd sent => exact inv.command (watches run) holds allowed.1 allowed.2 sent
  case mysql =>
    intro h cfg t c f r x _ inv _ _ _
    exact inv.keep (by simp) (fun _ => inTurn_quiet rfl) fun _ => inTurn_quiet (rival_quiet rfl)
  case counter =>
    intro h cfg t c f r x _ inv _ _ _
    exact inv.keep (by simp) (fun _ => inTurn_quiet rfl) fun _ => inTurn_quiet (rival_quiet rfl)
  case grpc =>
    intro h cfg t c f r x _ inv _ _ _
    exact inv.keep (by simp) (fun _ => inTurn_quiet rfl) fun _ => inTurn_quiet (rival_quiet rfl)
  case start =>
    intro h cfg t e _ inv _ settled
    refine inv.change (fun _ other => if_neg (Ne.symm other)) (fun _ other => if_neg (Ne.symm other))
      ?_ (fun _ _ _ _ => rfl) ?_ inv.idle
    · simp [inTurn]
    · cases e <;> exact fun _ => nofun

/-- Whatever fails, a thread is refused an `EXEC` in its turn at most as often as other threads wrote
    `total_count` meanwhile. -/
theorem refused_by_rivals (run : Run ok (boot st) h cfg) (t : Nat) :
    inTurn t (refused t) h ≤ inTurn t (rival t) h :=
  (contended run).bound t

/-- Both users read the count, and the second one to `EXEC` is refused. -/
theorem refused_by_rivals_one :
    ∃ h cfg, Run anything (boot (agreeing [(['a'], ['k']), (['b'], ['k'])] 5)) h cfg ∧
      inTurn 0 (refused 0) h = 1 ∧ inTurn 0 (rival 0) h = 1 ∧
      inTurn 0 (refused 0) h ≤ inTurn 0 (rival 0) h := by
  have ran : ((replay (fun _ _ _ => true) (queues 0 ⟨0, ['a'], ['k']⟩ ++
      queues 1 ⟨1, ['b'], ['k']⟩ ++ go 1 1 ++ go 0 1) []
        (initial (boot (agreeing [(['a'], ['k']), (['b'], ['k'])] 5)))).any fun x =>
          inTurn 0 (refused 0) x.1 == 1 && inTurn 0 (rival 0) x.1 == 1) = true := by
    decide +kernel
  obtain ⟨⟨h, cfg⟩, played, after⟩ := (Option.any_eq_true _ _).mp ran
  simp only [Bool.and_eq_true, beq_iff_eq] at after
  have run : Run anything _ h cfg := replay_meets played
  exact ⟨h, cfg, run, after.1, after.2, refused_by_rivals run 0⟩

end Seckill

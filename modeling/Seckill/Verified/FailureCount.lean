import Seckill.Verified.Rules
import Seckill.Verified.History

/-! # `*failedCount_` and its lock

One thread at most is inside its `rwlock_` section, and what it has read of
`*failedCount_` there stays true until it leaves.  So a refill puts back into Redis
exactly what the counter says, and no failure is counted while a refill is under way.
-/

namespace Seckill

open CStr CallTree Threads

variable {ok : Condition server} {st : Stores} {h : History server} {cfg : Config server}
  {s s' : Counters} {ls : Nat → Local} {l : Local} {t t' : Nat}

/-- What a thread in its section knows of the shared counters. -/
structure LockFits (s : Counters) (t : Nat) (l : Local) : Prop where
  holds : l.lock ≠ .free → s.rwlock = some t
  saw : ∀ first last, l.lock = .saw first last → first = s.failedCount ∧ last = s.failedCount
  refilled : ∀ n, l.lock = .refilled n → n = s.failedCount

theorem LockFits.of_free (free : l.lock = .free) : LockFits s t l where
  holds held := absurd free held
  saw _ _ saw := absurd (free.symm.trans saw) nofun
  refilled _ refilled := absurd (free.symm.trans refilled) nofun

theorem LockFits.of_held (held : l.lock = .held) (holds : s.rwlock = some t) : LockFits s t l where
  holds _ := holds
  saw _ _ saw := absurd (held.symm.trans saw) nofun
  refilled _ refilled := absurd (held.symm.trans refilled) nofun

theorem LockFits.same (fits : LockFits s t l) {l' : Local} (lock : l'.lock = l.lock)
    (rwlock : s'.rwlock = s.rwlock) (failedCount : s'.failedCount = s.failedCount) :
    LockFits s' t l' := by
  obtain ⟨holds, saw, refilled⟩ := fits
  constructor <;> rw [lock]
  · rwa [rwlock]
  · rwa [failedCount]
  · rwa [failedCount]

/-- While one thread is in its section no other is. -/
theorem LockFits.others (fits : ∀ t, LockFits s t (ls t)) (held : (ls t).lock ≠ .free)
    (other : t' ≠ t) : (ls t').lock = .free := by
  by_contra theirs
  have mine := (fits t).holds held
  rw [(fits t').holds theirs] at mine
  exact other (Option.some.inj mine)

/-- A call in the section of `t`, on the counters. -/
theorem LockFits.own (fits : ∀ t, LockFits s t (ls t)) (held : (ls t).lock ≠ .free)
    (own : LockFits s' t l) : ∀ t', LockFits s' t' (Function.update ls t l t') := by
  intro t'
  by_cases same : t' = t
  · subst same
    rwa [Function.update_self]
  · rw [Function.update_of_ne same]
    exact .of_free (LockFits.others fits held same)

/-- A call that leaves the counters and the lock alone. -/
theorem LockFits.keep (fits : ∀ t, LockFits s t (ls t)) (lock : l.lock = (ls t).lock)
    (rwlock : s'.rwlock = s.rwlock) (failedCount : s'.failedCount = s.failedCount) :
    ∀ t', LockFits s' t' (Function.update ls t l t') := by
  intro t'
  by_cases same : t' = t
  · subst same
    rw [Function.update_self]
    exact (fits t').same lock rwlock failedCount
  · rw [Function.update_of_ne same]
    exact (fits t').same rfl rwlock failedCount

theorem lock_counter {c : CounterCall} {f : Fate} {r : c.Reply}
    (fits : ∀ t, LockFits s t (ls t)) (allowed : (ls t).AllowsCounter c)
    (done : s.exec t c f = some (r, s')) :
    ∀ t', LockFits s' t' (Function.update ls t ((ls t).note (.counter c) f r) t') := by
  cases Counters.exec_does done with
  | wrlock nobody =>
    intro t'
    by_cases same : t' = t
    · subst same
      rw [Function.update_self]
      exact .of_held rfl rfl
    · -- the lock was nobody's, so no other thread is in its section
      rw [Function.update_of_ne same]
      refine .of_free ?_
      by_contra theirs
      exact absurd (nobody.symm.trans ((fits t').holds theirs)) nofun
  | unlock =>
    have held : (ls t).lock ≠ .free := by
      obtain held | ⟨_, _, saw⟩ := allowed
      · simp [held]
      · simp [saw]
    exact LockFits.own fits held (.of_free rfl)
  | failedCount =>
    obtain held | ⟨first, last, saw⟩ := allowed
    · -- the first look at `*failedCount_`, and below it the second
      have holds := (fits t).holds (by simp [held])
      refine LockFits.own fits (by simp [held]) ⟨fun _ => holds, ?_, ?_⟩
      · intro first last eq
        simp only [Local.note, Local.noteCounter, held] at eq
        cases eq
        exact ⟨rfl, rfl⟩
      · intro n eq
        simp only [Local.note, Local.noteCounter, held] at eq
        cases eq
    · -- nobody else is in the section, so it reads the same
      have holds := (fits t).holds (by simp [saw])
      have read := (fits t).saw first last saw
      refine LockFits.own fits (by simp [saw]) ⟨fun _ => holds, ?_, ?_⟩
      · intro first' last' eq
        simp only [Local.note, Local.noteCounter, saw] at eq
        cases eq
        exact ⟨read.1, rfl⟩
      · intro n eq
        simp only [Local.note, Local.noteCounter, saw] at eq
        cases eq
  | setFailedCount n =>
    obtain ⟨_, k, refilled⟩ := allowed
    have held : (ls t).lock ≠ .free := by simp [refilled]
    exact LockFits.own fits held (.of_held rfl ((fits t).holds held))
  | incFailedCount =>
    have held : (ls t).lock ≠ .free := by simp [allowed.1]
    exact LockFits.own fits held (.of_held allowed.1 ((fits t).holds held))
  | successNum =>
    refine LockFits.keep fits ?_ rfl rfl
    simp only [Local.note, Local.noteCounter]
    (repeat' split) <;> rfl
  | incSuccessNum => exact LockFits.keep fits rfl rfl rfl

/-- The lock does its work along every run. -/
theorem lock_fits (run : Run ok (boot st) h cfg) :
    ∀ t, LockFits cfg.state.counters t (locals watch h t) := by
  refine server_invariant (fun _ s ls => ∀ t, LockFits s.counters t (ls t))
    ?initial ?redis ?mysql ?counter ?grpc ?start run
  case initial => exact fun _ => .of_free rfl
  case redis =>
    intro h cfg t c f r x _ inv _ _ _
    obtain lock | ⟨first, last, saw, lock⟩ :=
      Local.note_redis_lock (l := locals watch h t) (f := f) (c := c) (r := r)
    · exact LockFits.keep inv lock rfl rfl
    · -- the refill writes what was read
      have held : (locals watch h t).lock ≠ .free := by simp [saw]
      refine LockFits.own inv held ⟨fun _ => (inv t).holds held, ?_, ?_⟩
      · exact fun _ _ eq => absurd (lock.symm.trans eq) nofun
      · intro n eq
        rw [lock] at eq
        cases eq
        exact ((inv t).saw first last saw).2
  case mysql =>
    intro h cfg t c f r x _ inv _ _ _
    exact LockFits.keep inv (by simp) rfl rfl
  case counter =>
    intro h cfg t c f r x _ inv _ allowed exec
    exact lock_counter inv allowed exec
  case grpc =>
    intro h cfg t c f r x _ inv _ _ _
    exact LockFits.keep inv (by simp) rfl rfl
  case start =>
    intro h cfg t e _ inv _ settled
    refine LockFits.keep inv ?_ rfl rfl
    rw [settled.lock]
    cases e <;> rfl

/-! ## Refills under way -/

/-- `refilling` is the thread that is in the middle of a refill, if there is one. -/
structure Refilling (h : History server) (ls : Nat → Local) : Prop where
  mem : ∀ t, t ∈ refilling h → ∃ n, (ls t).lock = .refilled n
  only : ∀ t n, (ls t).lock = .refilled n → refilling h = [t]

theorem Refilling.keep {h' : History server} (inv : Refilling h ls)
    (same : refilling h' = refilling h) (lock : ∀ n, l.lock = .refilled n ↔ (ls t).lock = .refilled n) :
    Refilling h' (Function.update ls t l) where
  mem t' member := by
    obtain ⟨n, refilled⟩ := inv.mem t' (same ▸ member)
    by_cases own : t' = t
    · subst own
      exact ⟨n, by rw [Function.update_self, lock, refilled]⟩
    · exact ⟨n, by rw [Function.update_of_ne own, refilled]⟩
  only t' n refilled := by
    rw [same]
    by_cases own : t' = t
    · subst own
      rw [Function.update_self, lock] at refilled
      exact inv.only t' n refilled
    · rw [Function.update_of_ne own] at refilled
      exact inv.only t' n refilled

/-- No refill is under way while a thread is elsewhere in its section. -/
theorem Refilling.none (inv : Refilling h ls) (fits : ∀ t, LockFits s t (ls t))
    (held : (ls t).lock ≠ .free) (other : ∀ n, (ls t).lock ≠ .refilled n) : refilling h = [] := by
  rw [List.eq_nil_iff_forall_not_mem]
  intro t' member
  obtain ⟨n, refilled⟩ := inv.mem t' member
  by_cases own : t' = t
  · exact other n (own ▸ refilled)
  · exact absurd ((LockFits.others fits held own).symm.trans refilled) nofun

theorem noteCmd_lock {l : Local} {cmd : RedisCmd} {r : Option RedisReply}
    (other : ∀ value, cmd ≠ .set value) : (l.noteCmd cmd r).lock = l.lock := by
  unfold Local.noteCmd Local.noteGet
  (repeat' split) <;> first | rfl | exact absurd rfl (other _)

theorem refilling_fits (run : Run ok (boot st) h cfg) : Refilling h (locals watch h) := by
  refine server_invariant (fun h _ ls => Refilling h ls)
    ?initial ?redis ?mysql ?counter ?grpc ?start run
  case initial => exact ⟨fun _ member => absurd member List.not_mem_nil, fun _ _ => (by simp)⟩
  case redis =>
    intro h cfg t c f r x run inv _ allowed _
    cases c with
    | getOneConnect | close c => exact inv.keep rfl fun _ => Iff.rfl
    | command c cmd =>
      by_cases set : ∃ value, cmd = .set value
      · obtain ⟨value, rfl⟩ := set
        obtain ⟨_, _, first, last, saw, _⟩ := allowed
        cases went : isOK r with
        | false =>
          refine inv.keep (by simp [refilling, went]) fun n => ?_
          simp [Local.note, Local.noteCmd, saw, went]
        | true =>
          -- the refill is under way, and no other can be: its thread has the lock
          have none := inv.none (lock_fits run) (t := t) (by simp [saw]) (by simp [saw])
          have mine : refilling (.call t (.redis (.command c (.set value))) f r :: h) = [t] := by
            simp [refilling, went, none]
          refine ⟨fun t' member => ?_, fun t' n refilled => ?_⟩
          · rw [mine] at member
            rw [List.mem_singleton.mp member, Function.update_self]
            exact ⟨last, by simp [Local.note, Local.noteCmd, saw, went]⟩
          · by_cases own : t' = t
            · rw [own, mine]
            · rw [Function.update_of_ne own] at refilled
              have free := LockFits.others (lock_fits run) (t := t) (by simp [saw]) own
              exact absurd (free.symm.trans refilled) (by simp)
      · have other (value : Str) : cmd ≠ .set value := fun eq => set ⟨value, eq⟩
        have same : refilling (.call t (.redis (.command c cmd)) f r :: h) = refilling h := by
          cases cmd <;> first | rfl | exact absurd rfl (other _)
        refine inv.keep same fun n => ?_
        simp only [Local.note, noteCmd_lock other]
  case mysql =>
    intro h cfg t c f r x _ inv _ _ _
    exact inv.keep (by cases c <;> rfl) (by simp)
  case counter =>
    intro h cfg t c f r x run inv _ allowed exec
    have fits := lock_fits run
    cases c with
    | setFailedCount n =>
      -- with `*failedCount_` cleared the refill is over
      obtain ⟨_, k, refilled⟩ := allowed
      have mine := inv.only t k refilled
      have none : refilling (.call t (.counter (.setFailedCount n)) f r :: h) = [] := by
        simp [refilling, mine]
      refine ⟨fun t' member => absurd (none ▸ member) List.not_mem_nil, fun t' n' refilled' => ?_⟩
      by_cases own : t' = t
      · subst own
        rw [Function.update_self] at refilled'
        cases refilled'
      · rw [Function.update_of_ne own] at refilled'
        have free := LockFits.others fits (t := t) (by simp [refilled]) own
        exact absurd (free.symm.trans refilled') (by simp)
    | wrlock =>
      refine inv.keep rfl fun n => ?_
      have free : (locals watch h t).lock = .free := allowed
      simp [Local.note, Local.noteCounter, free]
    | unlock =>
      refine inv.keep rfl fun n => ?_
      obtain held | ⟨_, _, saw⟩ := allowed
      · simp [Local.note, Local.noteCounter, held]
      · simp [Local.note, Local.noteCounter, saw]
    | failedCount =>
      refine inv.keep rfl fun n => ?_
      obtain held | ⟨_, _, saw⟩ := allowed
      · simp [Local.note, Local.noteCounter, held]
      · simp [Local.note, Local.noteCounter, saw]
    | successNum =>
      refine inv.keep rfl fun n => ?_
      simp only [Local.note, Local.noteCounter]
      (repeat' split) <;> rfl
    | incFailedCount | incSuccessNum => exact inv.keep rfl fun _ => Iff.rfl
  case grpc =>
    intro h cfg t c f r x _ inv _ _ _
    exact inv.keep rfl (by simp)
  case start =>
    intro h cfg t e _ inv _ settled
    refine inv.keep rfl fun n => ?_
    rw [settled.lock]
    cases e <;> simp [Local.begin]

end Seckill

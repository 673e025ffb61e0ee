import Seckill.Verified.Rules
import Seckill.Verified.Scenario

/-! # What becomes of a `NULL` connection

The three functions that check and sell test their context for `NULL`; the calls around
them do not.  `HandleRPCS` asks `llen`, and both branches of `Proceed` count the request
in `work_list`, over whatever `getOneConnect` gave them.  So the MySQL path of a request
is never entered, and a thread without a context ends in a crash.
-/

namespace Seckill

open CStr CallTree Threads

variable {ok : Condition server} {st : Stores} {h : History server} {cfg : Config server}
  {t : Nat}

/-- Threads run `HandleRPCS`, `RedisPool::getOneConnect` always gives a context, and `EXEC` is
    granted only to a request that has a MySQL handle. -/
def supplied (h : History server) (_ : Server) : Event server → Bool
  | .start _ e => e == .handleRPCS
  | .call _ (.redis .getOneConnect) _ r => r.isSome
  | .call t (.redis (.command _ .exec)) _ r => !granted r || (handle t h).isSome
  | _ => true

/-- The thread has a context where it needs one, and no unit to sell without a handle. -/
structure Supplied (l : Local) : Prop where
  context : l.noContext = false
  mode : l.fallback = false
  handle : l.noHandle = true → l.job.unit = false

/-- What the records say of `NULL` handles is what the pool gave. -/
theorem noHandle_eq (run : Run ok (boot st) h cfg) :
    ∀ t, (locals watch h t).noHandle = true → handle t h = none := by
  refine server_invariant (fun h _ ls => ∀ t, (ls t).noHandle = true → handle t h = none)
    ?initial ?redis ?mysql ?counter ?grpc ?start run
  case initial => exact fun _ => nofun
  case redis =>
    intro h cfg t c f r x _ inv _ _ _ t' none
    rw [update_eq Local.noHandle (by simp)] at none
    exact inv t' none
  case mysql =>
    intro h cfg t c f r x _ inv _ _ _ t' none
    by_cases get : c = .getOneConnect
    · subst get
      by_cases own : t' = t
      · subst own
        rw [Function.update_self] at none
        rw [handle, if_pos rfl]
        exact Option.isNone_iff_eq_none.mp none
      · rw [Function.update_of_ne own] at none
        rw [handle, if_neg (Ne.symm own)]
        exact inv t' none
    · have same : handle t' (.call t (.mysql c) f r :: h) = handle t' h := by
        cases c <;> first | rfl | exact absurd rfl get
      rw [update_eq Local.noHandle (Local.note_noHandle get)] at none
      exact same.trans (inv t' none)
  case counter =>
    intro h cfg t c f r x _ inv _ _ _ t' none
    rw [update_eq Local.noHandle (by simp)] at none
    exact inv t' none
  case grpc =>
    intro h cfg t c f r x _ inv _ _ _ t' none
    rw [update_eq Local.noHandle (by simp)] at none
    exact inv t' none
  case start =>
    intro h cfg t e _ inv _ _ t' none
    by_cases own : t' = t
    · subst own
      rw [Function.update_self] at none
      cases e <;> cases none
    · rw [Function.update_of_ne own] at none
      exact inv t' none

theorem all_supplied (run : Run (meets supplied) (boot st) h cfg) :
    ∀ t, Supplied (locals watch h t) := by
  refine server_invariant (fun _ _ ls => ∀ t, Supplied (ls t))
    ?initial ?redis ?mysql ?counter ?grpc ?start run
  case initial => exact fun _ => ⟨rfl, rfl, (by simp)⟩
  case redis =>
    intro h cfg t c f r x run inv met _ _
    obtain ⟨context, mode, handle⟩ := inv t
    refine forall_update inv ?_
    cases c with
    | getOneConnect =>
      have given : r.isSome = true := met
      exact ⟨by simp [Local.note, Option.isNone_eq_false_iff, given], mode, handle⟩
    | close c => exact ⟨context, mode, handle⟩
    | command c cmd =>
      refine ⟨Local.note_command.2.trans context, by simpa using mode, fun none => ?_⟩
      have lacks : (locals watch h t).noHandle = true := by simpa using none
      rw [← handle lacks]
      refine Local.noteCmd_unit fun exec => ?_
      -- without a handle the condition lets no `EXEC` through
      subst exec
      have condition : (!granted r || (Seckill.handle t h).isSome) = true := met
      rw [noHandle_eq run t lacks] at condition
      simpa using condition
  case mysql =>
    intro h cfg t c f r x run inv _ allowed _
    obtain ⟨context, mode, handle⟩ := inv t
    refine forall_update inv ⟨by simpa using context, by simpa using mode, fun none => ?_⟩
    have before : (locals watch h t).job.unit = false := by
      by_cases get : c = .getOneConnect
      · subst get
        exact allowed.2
      · rw [Local.note_noHandle get] at none
        exact handle none
    cases after : ((locals watch h t).note (.mysql c) f r).job.unit with
    | false => rfl
    | true => exact absurd (before.symm.trans (Local.note_mysql_unit after)) (by simp)
  case counter =>
    intro h cfg t c f r x _ inv _ _ _
    obtain ⟨context, mode, handle⟩ := inv t
    refine forall_update inv ⟨by simpa using context, by simpa using mode, fun none => ?_⟩
    cases after : ((locals watch h t).note (.counter c) f r).job.unit with
    | false => rfl
    | true =>
      rw [← Local.note_counter_unit after, ← handle (by simpa using none)]
  case grpc =>
    intro h cfg t c f r x _ inv _ _ _
    obtain ⟨context, mode, handle⟩ := inv t
    refine forall_update inv ⟨by simpa using context, by simpa using mode, fun none => ?_⟩
    cases after : ((locals watch h t).note (.grpc c) f r).job.unit with
    | false => rfl
    | true =>
      rw [← Local.note_grpc_unit after, ← handle (by simpa using none)]
  case start =>
    intro h cfg t e _ inv met _
    refine forall_update inv ?_
    cases e with
    | handleRPCS => exact ⟨rfl, rfl, (by rintro ⟨⟩)⟩
    | fallback => cases met

/-- While the pools supply what is needed, no call is made on a `NULL` connection. -/
theorem no_null_connection (run : Run (meets supplied) (boot st) h cfg) (t : Nat) :
    (∀ k, cfg.prog t ≠ .call (.crash .nullContext) k) ∧
      ∀ k, cfg.prog t ≠ .call (.crash .nullHandle) k := by
  have supplied := all_supplied run t
  refine ⟨fun k next => ?_, fun k next => ?_⟩
  · have crashes : (locals watch h t).noContext = true := run.allowed conforms next
    exact absurd (supplied.context.symm.trans crashes) nofun
  · obtain ⟨none, unit | mode⟩ := run.allowed conforms next
    · exact absurd ((supplied.handle none).symm.trans unit) nofun
    · exact absurd (supplied.mode.symm.trans mode) nofun

/-- A request is answered with contexts and handles supplied to two threads. -/
theorem no_null_connection_served :
    ∃ h cfg, Run (meets supplied) (boot (agreeing [(['a'], ['k'])] 1)) h cfg ∧
      (answers h).length = 1 ∧ ∀ k, cfg.prog 0 ≠ .call (.crash .nullContext) k := by
  have ran : ((replay supplied (serves 0 ⟨0, ['a'], ['k']⟩ .ok .ok) []
      (initial (boot (agreeing [(['a'], ['k'])] 1)))).any fun x =>
        (answers x.1).length == 1) = true := by decide +kernel
  obtain ⟨⟨h, cfg⟩, played, answered⟩ := (Option.any_eq_true _ _).mp ran
  rw [beq_iff_eq] at answered
  have run : Run (meets supplied) _ h cfg := replay_meets played
  exact ⟨h, cfg, run, answered, (no_null_connection run 0).1⟩

/-- Whether the next call of a program is a crash for this reason. -/
def crashes (why : Crash) : Code Unit → Bool
  | .call (.crash why') _ => why' == why
  | _ => false

/-- Redis cannot be reached when the request is taken: the thread has a usable MySQL handle, and
    its next call is `LPUSH` on the `NULL` context. -/
theorem null_context_crashes :
    ∃ h cfg, Run anything (boot (agreeing [(['a'], ['k'])] 1)) h cfg ∧
      serving 0 h = some ⟨0, ['a'], ['k']⟩ ∧ handle 0 h = some 0 ∧
      ∃ k, cfg.prog 0 = .call (.crash .nullContext) k := by
  have ran : ((replay (fun _ _ _ => true) (takes 0 ⟨0, ['a'], ['k']⟩ ++ .start 1 .handleRPCS ::
      go 1 2 ++ go 0 1 ++ [.go 0 .fail] ++ go 0 2) []
      (initial (boot (agreeing [(['a'], ['k'])] 1)))).any fun x =>
        serving 0 x.1 == some ⟨0, ['a'], ['k']⟩ && handle 0 x.1 == some 0 &&
          crashes .nullContext (x.2.prog 0)) = true := by decide +kernel
  obtain ⟨⟨h, cfg⟩, played, crash⟩ := (Option.any_eq_true _ _).mp ran
  simp only [Bool.and_eq_true, beq_iff_eq] at crash
  obtain ⟨⟨serves, handle⟩, crash⟩ := crash
  refine ⟨h, cfg, replay_meets played, serves, handle, ?_⟩
  unfold crashes at crash
  split at crash
  next why k next =>
    rw [beq_iff_eq] at crash
    subst crash
    exact ⟨k, next⟩
  next => cases crash

end Seckill

import Seckill.Verified.Books
import Seckill.Verified.Scenario

/-! # Conservation of stock

What the README says of failed orders, that they are recorded and put back into Redis, is
a law of conservation: what is in Redis, in the failure count and in flight adds up to
MySQL's stock.  The refill breaks it, for it writes the failure count over `total_count`
without looking at it again; where it finds the stock still sold out, the law holds.
-/

namespace Seckill

open CStr CallTree Threads

variable {st : Stores} {h : History server} {cfg : Config server}

/-- Threads run `HandleRPCS` and every call on a connection succeeds.  An `INSERT` may still be
    refused for its name, and `EXEC` for its watch. -/
def faultless : History server → Server → Event server → Bool
  | _, _, .start _ e => e == .handleRPCS
  | _, _, .call _ (.redis (.command _ _)) f _ => f.isOk
  | _, _, .call _ (.mysql .getOneConnect) _ _ => true
  | _, _, .call _ (.mysql _) f _ => f.isOk
  | _, _, _ => true

theorem faultless_may {s : Server} {ev : Event server} (works : faultless h s ev = true) :
    ordersMayFail h s ev = true := by
  cases ev with
  | start t e => exact works
  | call t c f r =>
    cases c with
    | mysql c =>
      cases c with
      | query m stmt => cases stmt <;> first | exact works | rfl
      | getOneConnect | close m | autocommit m mode | fetchRows m | rollback m | commit m =>
        exact works
    | redis c => cases c <;> exact works
    | counter c | grpc c => rfl
    | crash why => exact r.elim

/-- Every refill `SET` finds `total_count` at zero. -/
def refillsEmpty : History server → Server → Event server → Bool
  | _, s, .call _ (.redis (.command _ (.set _))) _ _ => s.redis.data.totalCount == decimal 0
  | _, _, _ => true

/-- What the law of conservation asks of each step. -/
def faultlessEmpty (h : History server) (s : Server) (ev : Event server) : Bool :=
  faultless h s ev && refillsEmpty h s ev

/-- Between refills, what is in Redis, what is counted as failed and what is in flight is
    MySQL's stock, as long as every refill finds Redis sold out. -/
theorem stock_conserved (N : UInt32) (redis : st.totalCount = decimal N.toNat)
    (mysql : st.gTotalcount = some N.toNat) (run : Run (meets faultlessEmpty) (boot st) h cfg)
    (between : refilling h = []) :
    ∃ R G : Nat, cfg.state.redis.data.totalCount = decimal R ∧
      cfg.state.mysql.gTotalcount = some G ∧
      (R : Int) + cfg.state.counters.failedCount + (inFlight h).length = G := by
  have books : Books True h cfg.state (locals watch h) := by
    refine books N.toNat_lt redis mysql (fun met => faultless_may (Bool.and_eq_true_iff.mp met).1)
      (fun _ {h s t c value f r} met => ?_) run
    have empty : (s.redis.data.totalCount == decimal 0) = true := (Bool.and_eq_true_iff.mp met).2
    exact beq_iff_eq.mp empty
  obtain ⟨R, G, lost, count, stock, sum, none, _⟩ := books.balance
  refine ⟨R, G, count, stock, ?_⟩
  rw [unbooked, if_pos between, none trivial] at sum
  simpa using sum

/-- Thread `t` takes a request and looks up its user, without a `WATCH` yet. -/
def looks (t : Nat) (q : Request) : List (Move server) := takes t q ++ go t 12

/-- Three requests of one user get the three units there are, and two of other users find Redis
    sold out.  One order is written, one is refused, and its failure is put back. -/
def soldOutOnce : List (Move server) :=
  looks 0 ⟨0, ['u'], ['k']⟩ ++ looks 1 ⟨1, ['u'], ['k']⟩ ++ looks 2 ⟨2, ['u'], ['k']⟩ ++
    go 0 6 ++ go 1 6 ++ go 2 6 ++
    looks 3 ⟨3, ['v'], ['k']⟩ ++ go 3 2 ++ looks 4 ⟨4, ['w'], ['k']⟩ ++ go 4 2 ++
    go 0 6 ++ go 1 9 ++ go 3 7

def threeUsers : List (Str × Str) := [(['u'], ['k']), (['v'], ['k']), (['w'], ['k'])]

theorem stock_conserved_three :
    ∃ h cfg, Run (meets faultlessEmpty) (boot (agreeing threeUsers 3)) h cfg ∧
      cfg.state.mysql.gTotalcount = some 2 ∧ (inFlight h).length = 1 ∧
      ∃ R : Nat, cfg.state.redis.data.totalCount = decimal R ∧
        (R : Int) + cfg.state.counters.failedCount + 1 = 2 := by
  have ran : ((replay faultlessEmpty soldOutOnce [] (initial (boot (agreeing threeUsers 3)))).any
      fun x => x.2.state.mysql.gTotalcount == some 2 && (inFlight x.1).length == 1 &&
        refilling x.1 == []) = true := by decide +kernel
  obtain ⟨⟨h, cfg⟩, played, after⟩ := (Option.any_eq_true _ _).mp ran
  simp only [Bool.and_eq_true, beq_iff_eq] at after
  obtain ⟨⟨left, flight⟩, between⟩ := after
  have run : Run (meets faultlessEmpty) _ h cfg := replay_meets played
  obtain ⟨R, G, count, stock, sum⟩ := stock_conserved 3 rfl rfl run between
  obtain rfl : 2 = G := Option.some.inj (left.symm.trans stock)
  refine ⟨h, cfg, run, left, flight, R, count, ?_⟩
  rw [flight] at sum
  exact sum

/-- The third request of the user fails too.  The second one that found Redis sold out puts this
    failure over the unit that was put back before: one unit is lost. -/
theorem refill_loses_stock :
    ∃ h cfg, Run (meets faultless) (boot (agreeing threeUsers 3)) h cfg ∧ refilling h = [] ∧
      cfg.state.redis.data.totalCount = decimal 1 ∧ cfg.state.counters.failedCount = 0 ∧
      inFlight h = [] ∧ cfg.state.mysql.gTotalcount = some 2 := by
  have ran : ((replay faultless (soldOutOnce ++ go 2 9 ++ go 4 7) []
      (initial (boot (agreeing threeUsers 3)))).any fun x =>
        refilling x.1 == [] && x.2.state.redis.data.totalCount == decimal 1 &&
          x.2.state.counters.failedCount == 0 && inFlight x.1 == [] &&
          x.2.state.mysql.gTotalcount == some 2) = true := by decide +kernel
  obtain ⟨⟨h, cfg⟩, played, after⟩ := (Option.any_eq_true _ _).mp ran
  simp only [Bool.and_eq_true, beq_iff_eq] at after
  obtain ⟨⟨⟨⟨between, count⟩, failed⟩, flight⟩, left⟩ := after
  exact ⟨h, cfg, replay_meets played, between, count, failed, flight, left⟩

end Seckill

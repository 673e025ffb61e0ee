import Seckill.Verified.Commits
import Seckill.Verified.TextRuns

/-! # The answers are true

What a request is told, what `*successNum_` counts and what is committed in MySQL are set in three
places.  They agree as long as `mysql_commit` succeeds, for its result is not looked at, and as
long as a transaction is one: `mysql_autocommit(OFF)` takes effect, and `mysql_rollback` does
where something is to be undone.
-/

namespace Seckill

open CStr CallTree Threads Leases

variable {ok : Condition server} {st : Stores} {h h' : History server} {cfg : Config server}
  {ls : Nat → Local} {l : Local} {t N : Nat} {s s' : Counters}

/-- `mysql_commit` succeeds, and nothing that fails leaves a statement committed on its own:
    `mysql_autocommit(OFF)` and `mysql_rollback` may fail where they have nothing to change. -/
def undivided : History server → Server → Event server → Bool
  | _, _, .call _ (.mysql (.commit _)) f _ => f.isOk
  | _, s, .call _ (.mysql (.autocommit m false)) f _ => f.isOk || !(s.mysql.session m).autocommit
  | _, s, .call _ (.mysql (.rollback m)) f _ =>
    f.isOk || (s.mysql.session m).written.isNone && (s.mysql.ownRows m).isEmpty
  | _, _, _ => true

theorem undivided_commits {s : Server} {ev : Event server} (works : undivided h s ev = true) :
    commitsWork h s ev = true := by
  unfold commitsWork
  split
  · exact works
  · rfl

theorem undivided_sound (run : Run (meets undivided) (boot st) h cfg) {ev : Event server}
    (works : undivided h cfg.state ev = true) : SoundMysql h cfg.state ev := by
  unfold SoundMysql
  split
  · simpa [undivided, Fate.isOk] using works
  · exact never_tried undivided_commits run _
  · simpa [undivided, Fate.isOk, Quiet] using works
  · trivial

/-- The same run, under the conditions that the ledger and the orders are proved for. -/
theorem undivided_run (run : Run (meets undivided) (boot st) h cfg) :
    Run (fun h s ev => commitsWork h s ev = true ∧ SoundMysql h s ev) (boot st) h cfg :=
  run.mono fun run works => ⟨undivided_commits works, undivided_sound run works⟩

/-! ## Counting the orders -/

/-- The threads whose `mysql_commit` succeeded and that have not raised `*successNum_` since. -/
def owing : History server → List Nat
  | [] => []
  | .call t (.mysql (.commit _)) _ error :: h => if error then owing h else t :: owing h
  | .call t (.counter .incSuccessNum) _ _ :: h => (owing h).erase t
  | _ :: h => owing h

structure Counted (h : History server) (s : Counters) (ls : Nat → Local) : Prop where
  mem : ∀ t, t ∈ owing h ↔ (ls t).job.owes = true
  nodup : (owing h).Nodup
  own : ∀ t, (ls t).job.owes = true → serving t h ≠ none ∧ (ls t).job.paid = true
  count : s.successNum + (owing h).length = (orders h).length

/-- A call that counts nothing. -/
theorem Counted.keep (counted : Counted h s ls) (sameOwing : owing h' = owing h)
    (sameOrders : orders h' = orders h) (sameServing : ∀ t', t' ≠ t → serving t' h' = serving t' h)
    (successNum : s'.successNum = s.successNum) (owes : l.job.owes = (ls t).job.owes)
    (own : l.job.owes = true → serving t h' ≠ none ∧ l.job.paid = true) :
    Counted h' s' (Function.update ls t l) where
  mem t' := by
    rw [sameOwing, update_eq (fun l : Local => l.job.owes) owes]
    exact counted.mem t'
  nodup := sameOwing ▸ counted.nodup
  own t' := by
    by_cases same : t' = t
    · subst same
      rw [Function.update_self]
      exact own
    · rw [Function.update_of_ne same, sameServing t' same]
      exact counted.own t'
  count := by
    rw [sameOwing, sameOrders, successNum]
    exact counted.count

/-- The thread that has committed is one more that owes. -/
theorem Counted.commit {m : SessId} {f : Fate} {q : Request} (counted : Counted h s ls)
    (serves : serving t h = some q) (unpaid : (ls t).job.paid = false)
    (paid : l.job.paid = true) (owes : l.job.owes = true) :
    Counted (.call t (.mysql (.commit m)) f false :: h) s (Function.update ls t l) := by
  have before : t ∉ owing h := by
    intro member
    have paid := (counted.own t ((counted.mem t).mp member)).2
    exact absurd (unpaid.symm.trans paid) Bool.false_ne_true
  have now : owing (.call t (.mysql (.commit m)) f false :: h) = t :: owing h := rfl
  have all : orders (.call t (.mysql (.commit m)) f false :: h) = q :: orders h := by
    simp [orders, serves]
  constructor
  · rw [now]
    exact mem_cons_update (fun l : Local => l.job.owes) counted.mem owes
  · rw [now]
    exact List.nodup_cons.mpr ⟨before, counted.nodup⟩
  · intro t' owes'
    by_cases same : t' = t
    · subst same
      rw [Function.update_self]
      exact ⟨ne_of_eq_of_ne serves (Option.some_ne_none q), paid⟩
    · rw [Function.update_of_ne same] at owes' ⊢
      exact counted.own t' owes'
  · have count := counted.count
    rw [now, all, List.length_cons, List.length_cons]
    omega

theorem Counted.raise {f : Fate} {r : Unit} (counted : Counted h s ls)
    (owed : (ls t).job.owes = true) (owes : l.job.owes = false)
    (raised : s'.successNum = s.successNum + 1) :
    Counted (.call t (.counter .incSuccessNum) f r :: h) s' (Function.update ls t l) := by
  have member : t ∈ owing h := (counted.mem t).mpr owed
  have now : owing (.call t (.counter .incSuccessNum) f r :: h) = (owing h).erase t := rfl
  constructor
  · rw [now]
    exact mem_erase_update (fun l : Local => l.job.owes) counted.mem counted.nodup owes
  · rw [now]
    exact counted.nodup.erase t
  · intro t' owes'
    by_cases same : t' = t
    · subst same
      rw [Function.update_self, owes] at owes'
      cases owes'
    · rw [Function.update_of_ne same] at owes' ⊢
      exact counted.own t' owes'
  · have count := counted.count
    have few : 0 < (owing h).length := List.length_pos_of_mem member
    have same : orders (.call t (.counter .incSuccessNum) f r :: h) = orders h := rfl
    rw [now, same, List.length_erase_of_mem member, raised]
    omega

/-- gRPC's calls raise no counter, and the thread that answers owes nothing. -/
theorem Counted.grpc {c : GrpcCall} {f : Fate} {r : c.Reply} (counted : Counted h s (locals watch h))
    (allowed : (locals watch h t).AllowsGrpc c) :
    Counted (.call t (.grpc c) f r :: h) s
      (Function.update (locals watch h) t ((locals watch h t).note (.grpc c) f r)) := by
  have others (t' : Nat) (other : t' ≠ t) :
      serving t' (.call t (.grpc c) f r :: h) = serving t' h := serving_other other
  have before := counted.own t
  cases c with
  | next =>
    have clear : (locals watch h t).job.owes = false := by rw [allowed.1]
    have after : ((locals watch h t).note (.grpc .next) f r).job.owes = false := by
      simp only [Local.note]
      unfold Local.noteGrpc
      split <;> first | rfl | contradiction
    refine counted.keep rfl rfl others rfl (after.trans clear.symm) fun owes => ?_
    exact absurd (after.symm.trans owes) Bool.false_ne_true
  | finish w result =>
    have clear : (locals watch h t).job.owes = false := allowed.2.2.2.2.2.1
    refine counted.keep rfl rfl others rfl rfl fun owes => ?_
    exact absurd (clear.symm.trans owes) Bool.false_ne_true
  | setStatus w st | requestseckill w =>
    obtain ⟨_, _, paid, owes⟩ := Local.noteGrpc_job (l := locals watch h t) (f := f) (r := r) (by simp)
    refine counted.keep rfl rfl others rfl owes fun owed => ?_
    rw [owes] at owed
    rw [paid]
    exact before owed
  | alloc | status w | usrname w | usrkey w | setResult w result | result w | delete w =>
    exact counted.keep rfl rfl others rfl rfl before

theorem counted (commits : ∀ {h s ev}, ok h s ev → commitsWork h s ev = true)
    (run : Run ok (boot st) h cfg) : Counted h cfg.state.counters (locals watch h) := by
  refine server_invariant (fun h s ls => Counted h s.counters ls)
    ?initial ?redis ?mysql ?counter ?grpc ?start run
  case initial => exact ⟨fun t => by simp [owing], List.nodup_nil, fun t => by simp, rfl⟩
  case redis =>
    intro h cfg t c f r x _ inv _ _ _
    have same := (locals watch h t).note_redis (c := c) (f := f) (r := r)
    refine inv.keep rfl ?_ (fun _ _ => rfl) rfl same.2.2.2.1 fun owes => ?_
    · cases c <;> rfl
    · rw [same.2.2.2.1] at owes
      rw [same.2.2.1]
      exact inv.own t owes
  case mysql =>
    intro h cfg t c f r x run inv met allowed exec
    by_cases commit : ∃ m, c = .commit m
    · obtain ⟨m, rfl⟩ := commit
      -- it works, and from here on the thread owes the counter one
      obtain ⟨rfl, _⟩ := commit_reply (commits met) exec
      obtain ⟨q, serves, _⟩ := serving_atWork run allowed.2.2.1
      exact inv.commit serves allowed.2.2.2 rfl rfl
    · have other (m : SessId) : c ≠ .commit m := fun eq => commit ⟨m, eq⟩
      obtain ⟨paid, _, owes⟩ := Local.note_mysql_paid (l := locals watch h t) (f := f) (r := r) other
      refine inv.keep ?_ ?_ (fun _ _ => rfl) rfl owes fun owed => ?_
      · cases c <;> first | rfl | exact absurd rfl (other _)
      · cases c <;> first | rfl | exact absurd rfl (other _)
      · rw [owes] at owed
        rw [paid]
        exact inv.own t owed
  case counter =>
    intro h cfg t c f r x _ inv _ allowed exec
    by_cases raise : c = .incSuccessNum
    · subst raise
      cases f <;> cases exec
      exact inv.raise allowed.1 rfl rfl
    · have same := Local.note_counter_owes (l := locals watch h t) (f := f) (r := r) raise
      refine inv.keep ?_ rfl (fun _ _ => rfl) (Counters.exec_successNum raise exec) same fun owes => ?_
      · cases c <;> first | rfl | exact absurd rfl raise
      · rw [same] at owes
        rw [Local.note_counter.2.2.2.2.2.2.2.2.1]
        exact inv.own t owes
  case grpc =>
    intro h cfg t c f r x _ inv _ allowed _
    exact inv.grpc allowed
  case start =>
    intro h cfg t e _ inv _ settled
    refine inv.keep rfl rfl (fun _ _ => rfl) rfl ?_ ?_
    · rw [settled.owes]
      cases e <;> rfl
    · cases e <;> rintro ⟨⟩

/-! ## Answers and orders -/

/-- The answers "1". -/
def ones (h : History server) : List Answer := (answers h).filter fun a => a.result == one

/-- The answers, the rows of `order_info`, the counter and the stock agree. -/
structure Truthful (N : Nat) (h : History server) (s : Server) : Prop where
  answered : ∀ a ∈ answers h, a.result = one ↔ a.request ∈ orders h
  rows : s.mysql.orderInfo.map OrderRow.usrName = ((orders h).map fun q => cStr q.usrname).reverse
  once : ∀ a ∈ ones h, ∀ b ∈ ones h,
    s.mysql.sameName (cStr a.request.usrname) (cStr b.request.usrname) = true → a = b
  counted : AtRest h → s.counters.successNum = s.mysql.orderInfo.length ∧
    s.counters.successNum = (ones h).length
  stock : AtRest h → ∃ g : Nat, s.mysql.gTotalcount = some g ∧ (ones h).length + g = N

theorem mem_ones {a : Answer} : a ∈ ones h ↔ a ∈ answers h ∧ a.result = one := by
  simp [ones]

/-- Only one answer is given to a request. -/
theorem answer_once (run : Run ok (boot st) h cfg) {a b : Answer} (left : a ∈ answers h)
    (right : b ∈ answers h) (same : a.request = b.request) : a = b :=
  List.inj_on_of_nodup_map (requests run).nodup left right same

/-- Who is told "1" has paid, and the others have not. -/
theorem answer_paid (run : Run ok (boot st) h cfg) {a : Answer} (member : a ∈ answers h) :
    a.result = one ↔ a.record.job.paid = true := by
  obtain ⟨result, paid⟩ | ⟨result, unpaid, _⟩ := (given run a member).answers
  · exact iff_of_true result paid
  · rw [result, unpaid]
    decide

theorem answer_ordered (commits : ∀ {h s ev}, ok h s ev → commitsWork h s ev = true)
    (run : Run ok (boot st) h cfg) {a : Answer} (member : a ∈ answers h) :
    a.result = one ↔ a.request ∈ orders h := by
  rw [answer_paid run member, (orders_marked commits run).mem]
  constructor
  · intro paid
    exact Or.inr ⟨a, member, rfl, paid⟩
  · rintro (⟨t, serves, _⟩ | ⟨b, other, same, paid⟩)
    · exact absurd serves ((requests run).spent a member t)
    · rwa [answer_once run other member same] at paid

/-- At rest every order has its answer. -/
theorem ones_orders (commits : ∀ {h s ev}, ok h s ev → commitsWork h s ev = true)
    (run : Run ok (boot st) h cfg) (rest : AtRest h) :
    ((ones h).map Answer.request).Perm (orders h) := by
  have marked := orders_marked commits run
  have nodup : ((ones h).map Answer.request).Nodup :=
    (requests run).nodup.sublist (List.filter_sublist.map Answer.request)
  rw [List.perm_ext_iff_of_nodup nodup marked.nodup]
  intro q
  rw [List.mem_map, marked.mem]
  constructor
  · rintro ⟨a, member, rfl⟩
    obtain ⟨member, result⟩ := mem_ones.mp member
    exact Or.inr ⟨a, member, rfl, (answer_paid run member).mp result⟩
  · rintro (⟨t, serves, _⟩ | ⟨a, member, same, paid⟩)
    · exact absurd ((rest t).symm.trans serves) nofun
    · exact ⟨a, mem_ones.mpr ⟨member, (answer_paid run member).mpr paid⟩, same⟩

/-- No two orders are of one name. -/
theorem orders_distinct {d : MysqlState} (ledger : Ledger N st d ls) (empty : st.orderInfo = [])
    (rows : d.orderInfo.map OrderRow.usrName = ((orders h).map fun q => cStr q.usrname).reverse)
    {q q' : Request} (ordered : q ∈ orders h) (ordered' : q' ∈ orders h) (other : q ≠ q') :
    d.sameName (cStr q.usrname) (cStr q'.usrname) = false := by
  have unique : UniqueNames st := by simp [UniqueNames, empty]
  have names : (d.orderInfo.map OrderRow.usrName).Pairwise fun a b => d.sameName a b = false :=
    List.pairwise_map.mpr (List.pairwise_append.mp (ledger.distinct unique)).1
  rw [rows, List.pairwise_reverse, List.pairwise_map] at names
  have symmetric : Std.Symm fun q q' : Request =>
      d.sameName (cStr q'.usrname) (cStr q.usrname) = false := ⟨fun _ _ => sameName_symm⟩
  exact sameName_symm (names.forall ordered ordered' other)

/-- At rest no order is left uncounted. -/
theorem counted_rest (counted : Counted h s ls) (rest : AtRest h) :
    s.successNum = (orders h).length := by
  have none : owing h = [] := by
    apply List.eq_nil_iff_forall_not_mem.mpr
    intro t member
    exact (counted.own t ((counted.mem t).mp member)).1 (rest t)
  have count := counted.count
  rw [none, List.length_nil] at count
  omega

/-- On statements. -/
theorem told_true (N : UInt32) (stock : st.gTotalcount = some N.toNat) (empty : st.orderInfo = [])
    (run : Run (meets undivided) (boot st) h cfg) : Truthful N.toNat h cfg.state := by
  have honest := undivided_run run
  have commits {h : History server} {s : Server} {ev : Event server}
      (met : commitsWork h s ev = true ∧ SoundMysql h s ev) : commitsWork h s ev = true := met.1
  have sound {h : History server} {s : Server} {ev : Event server}
      (met : commitsWork h s ev = true ∧ SoundMysql h s ev) : SoundMysql h s ev := met.2
  have ledger := ledger N.toNat_lt stock sound honest
  have rows : MysqlOrders st h cfg.state.mysql :=
    mysql_orders N.toNat_lt stock sound commits honest
  rw [MysqlOrders, empty, List.map_nil, List.nil_append] at rows
  have length : cfg.state.mysql.orderInfo.length = (orders h).length := by
    have lengths := congrArg List.length rows
    simpa using lengths
  have answered {a : Answer} (member : a ∈ answers h) : a.result = one ↔ a.request ∈ orders h :=
    answer_ordered commits honest member
  refine ⟨fun a => answered, rows, ?_, fun rest => ?_, fun rest => ?_⟩
  · intro a left b right same
    obtain ⟨left, ordered⟩ := mem_ones.mp left
    obtain ⟨right, ordered'⟩ := mem_ones.mp right
    by_contra other
    -- two orders of one name would be two rows of it
    have requests : a.request ≠ b.request := fun eq => other (answer_once honest left right eq)
    have distinct := orders_distinct ledger empty rows ((answered left).mp ordered)
      ((answered right).mp ordered') requests
    rw [same] at distinct
    cases distinct
  · have count := counted_rest (counted commits honest) rest
    have perm := (ones_orders commits honest rest).length_eq
    rw [List.length_map] at perm
    omega
  · obtain ⟨g, sold, left, orders, sum⟩ := ledger.stock
    have perm := (ones_orders commits honest rest).length_eq
    rw [List.length_map] at perm
    rw [empty, List.length_nil] at orders
    exact ⟨g, left, by omega⟩

/-- The answers are true in every state of every run on verbatim requests in which `mysql_commit`
    succeeds and every transaction of `seckillGoods_mysql` is one. -/
theorem answers_true {other : Dialect} {cfg : Config (textServer other)} (N : UInt32)
    (stock : st.gTotalcount = some N.toNat) (empty : st.orderInfo = [])
    (run : Run (M := textServer other) (meets undivided) (boot st) h cfg)
    (verbatim : ∀ q ∈ delivered h, q.Verbatim) : Truthful N.toNat h cfg.state :=
  told_true N stock empty (run_server run verbatim)

def twoUsers : Stores := agreeing [(['a'], ['k']), (['b'], ['k'])] 50

/-- One user gets a unit, the other is told "0" because the `UPDATE` failed. -/
theorem answers_true_two : ∃ (h : History server) (cfg : Config (textServer allKeys)),
    Run (M := textServer allKeys) (meets undivided) (boot twoUsers) h cfg ∧ (answers h).length = 2 ∧
      (ones h).length = 1 ∧ Truthful 50 h cfg.state := by
  have ran : ((replay (M := textServer allKeys) undivided (serves 0 ⟨0, ['a'], ['k']⟩ .ok .ok ++
      serves 1 ⟨1, ['b'], ['k']⟩ .fail .ok ++ go 1 2) [] (initial (boot twoUsers))).any fun x =>
        (answers x.1).length == 2 && (ones x.1).length == 1 &&
          (delivered x.1).all fun q => decide q.Verbatim) = true := by
    decide +kernel
  obtain ⟨⟨h, cfg⟩, played, given⟩ := (Option.any_eq_true _ _).mp ran
  simp only [Bool.and_eq_true, beq_iff_eq, List.all_eq_true, decide_eq_true_eq] at given
  obtain ⟨⟨answered, told⟩, verbatim⟩ := given
  have run : Run (M := textServer allKeys) (meets undivided) _ h cfg := replay_meets played
  exact ⟨h, cfg, run, answered, told, answers_true 50 rfl rfl run verbatim⟩

/-- `mysql_commit` fails and is rolled back, and the user is told "1". -/
theorem untrue_answer : ∃ (h : History server) (cfg : Config (textServer allKeys)),
    Run (M := textServer allKeys) anything (boot twoUsers) h cfg ∧ (ones h).length = 1 ∧
      cfg.state.counters.successNum = 1 ∧ cfg.state.mysql.orderInfo = [] ∧
      ¬ Truthful 50 h cfg.state := by
  have ran : ((replay (M := textServer allKeys) (fun _ _ _ => true)
      (serves 0 ⟨0, ['a'], ['k']⟩ .ok .failRollback) [] (initial (boot twoUsers))).any fun x =>
        (ones x.1).length == 1 && (orders x.1).isEmpty &&
        x.2.state.counters.successNum == 1 && x.2.state.mysql.orderInfo == []) = true := by
    decide +kernel
  obtain ⟨⟨h, cfg⟩, played, after⟩ := (Option.any_eq_true _ _).mp ran
  simp only [Bool.and_eq_true, beq_iff_eq, List.isEmpty_iff] at after
  obtain ⟨⟨⟨told, none⟩, counted⟩, rows⟩ := after
  refine ⟨h, cfg, replay_meets played, told, counted, rows, fun truthful => ?_⟩
  obtain ⟨a, only⟩ := List.length_eq_one_iff.mp told
  have member : a ∈ ones h := only ▸ List.mem_singleton_self a
  obtain ⟨member, result⟩ := mem_ones.mp member
  have ordered := (truthful.answered a member).mp result
  rw [none] at ordered
  cases ordered

end Seckill

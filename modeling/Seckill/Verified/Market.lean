import Mathlib.Data.Set.Insert
import Seckill.Lib.Refinement
import Seckill.Verified.Authorization

/-! # The server is a market

What the server is for: customers come, some of them buy one of the units on sale, and each
leaves with an answer that says whether it did.  A unit is only sold to a registered
customer who is still there, and never two to one name.

`refines_market` says that this is all that can be seen of the server, whatever the threads
do in between: a sale is seen when `mysql_commit` succeeds.
-/

namespace Seckill

open CStr CallTree Threads

/-! ## The market -/

section Market

/-- The units left, who has come so far, who of them is still there, and who has bought; the
    lists are newest first. -/
structure Market (Q : Type) where
  stock : Nat
  came : List Q
  waiting : Set Q
  sold : List Q

inductive Deal (Q : Type) where
  | comes (q : Q)
  | buys (q : Q)
  | leaves (q : Q) (served : Bool)

variable {Q : Type} {registered : Q → Prop} {same : Q → Q → Prop} {N : Nat} {s s' : Market Q}
  {deals : List (Deal Q)} {d : Deal Q} {q : Q}

inductive Market.Step (registered : Q → Prop) (same : Q → Q → Prop) (s : Market Q) :
    Deal Q → Market Q → Prop
  | comes {q : Q} (new : q ∉ s.came) :
      Step registered same s (.comes q) { s with came := q :: s.came, waiting := insert q s.waiting }
  | buys {q : Q} {left : Nat} (there : q ∈ s.waiting) (known : registered q)
      (first : ∀ q' ∈ s.sold, ¬ same q' q) (stock : s.stock = left + 1) :
      Step registered same s (.buys q) { s with stock := left, sold := q :: s.sold }
  | leaves {q : Q} {served : Bool} (there : q ∈ s.waiting) (truth : served = true ↔ q ∈ s.sold) :
      Step registered same s (.leaves q served) { s with waiting := s.waiting \ {q} }

abbrev trading (registered : Q → Prop) (same : Q → Q → Prop) : Spec (Deal Q) where
  State := Market Q
  Step := Market.Step registered same

/-- The market before the first customer. -/
def Market.opening (N : Nat) : Market Q := ⟨N, [], ∅, []⟩

/-- What the books of the market say of all deals so far. -/
structure Market.Sound (registered : Q → Prop) (same : Q → Q → Prop) (N : Nat) (deals : List (Deal Q))
    (s : Market Q) : Prop where
  stock : s.stock + s.sold.length = N
  known : ∀ q ∈ s.sold, registered q
  apart : s.sold.Pairwise fun q q' => ¬ same q' q
  came : ∀ q, q ∈ s.came ↔ .comes q ∈ deals
  sold : ∀ q, q ∈ s.sold ↔ .buys q ∈ deals
  waiting : ∀ q, q ∈ s.waiting ↔ .comes q ∈ deals ∧ ∀ served, .leaves q served ∉ deals
  served : ∀ q served, .leaves q served ∈ deals →
    .comes q ∈ deals ∧ (served = true ↔ .buys q ∈ deals)
  nodup : deals.Nodup

theorem Market.Sound.step (sound : s.Sound registered same N deals) (reflexive : ∀ q, same q q)
    (step : Market.Step registered same s d s') : s'.Sound registered same N (d :: deals) := by
  obtain ⟨stock, known, apart, came, sold, waiting, served, nodup⟩ := sound
  cases step with
  | @comes q new =>
    have unseen : Deal.comes q ∉ deals := fun seen => new ((came q).mpr seen)
    refine ⟨stock, known, apart, fun q' => ?_, fun q' => ?_, fun q' => ?_, fun q' b left => ?_,
      List.nodup_cons.mpr ⟨unseen, nodup⟩⟩
    · simp [came]
    · simp [sold]
    · simp only [Set.mem_insert_iff, waiting, List.mem_cons, Deal.comes.injEq, reduceCtorEq, false_or]
      constructor
      · rintro (rfl | ⟨here, still⟩)
        · exact ⟨Or.inl rfl, fun b left => unseen (served q' b left).1⟩
        · exact ⟨Or.inr here, still⟩
      · rintro ⟨rfl | here, still⟩
        · exact Or.inl rfl
        · exact Or.inr ⟨here, still⟩
    · simp only [List.mem_cons, reduceCtorEq, false_or] at left ⊢
      exact ⟨Or.inr (served q' b left).1, (served q' b left).2⟩
  | @buys q left there here first some =>
    have unsold : q ∉ s.sold := fun member => first q member (reflexive q)
    have unseen : Deal.buys q ∉ deals := fun seen => unsold ((sold q).mpr seen)
    refine ⟨?_, ?_, List.pairwise_cons.mpr ⟨first, apart⟩, fun q' => ?_, fun q' => ?_, fun q' => ?_,
      fun q' b gone => ?_, List.nodup_cons.mpr ⟨unseen, nodup⟩⟩
    · simp only [List.length_cons]
      omega
    · simpa using ⟨here, known⟩
    · simp [came]
    · simp [sold]
    · simp [waiting]
    · simp only [List.mem_cons, reduceCtorEq, false_or, Deal.buys.injEq] at gone ⊢
      -- who has left does not buy any more
      have other : q' ≠ q := by
        rintro rfl
        exact ((waiting q').mp there).2 b gone
      rw [or_iff_right other]
      exact served q' b gone
  | @leaves q b there truth =>
    have unseen : Deal.leaves q b ∉ deals := ((waiting q).mp there).2 b
    refine ⟨stock, known, apart, fun q' => ?_, fun q' => ?_, fun q' => ?_, fun q' b' gone => ?_,
      List.nodup_cons.mpr ⟨unseen, nodup⟩⟩
    · simp [came]
    · simp [sold]
    · simp only [Set.mem_sdiff, waiting, Set.mem_singleton_iff, List.mem_cons, reduceCtorEq, false_or,
        Deal.leaves.injEq, not_or, not_and, and_assoc, and_congr_right_iff]
      intro _
      constructor
      · rintro ⟨still, other⟩ b'
        exact ⟨fun eq => absurd eq other, still b'⟩
      · intro still
        refine ⟨fun b' => (still b').2, ?_⟩
        rintro rfl
        exact (still b).1 rfl rfl
    · simp only [List.mem_cons, reduceCtorEq, false_or, Deal.leaves.injEq] at gone ⊢
      obtain ⟨rfl, rfl⟩ | before := gone
      · exact ⟨((waiting q').mp there).1, truth.trans (sold q')⟩
      · exact served q' b' before

theorem trading_sound (reflexive : ∀ q, same q q)
    (shows : (trading registered same).Shows (Market.opening N) deals s) :
    s.Sound registered same N deals := by
  refine shows.invariant (P := fun deals s => Market.Sound registered same N deals s) ?_
    fun sound step => sound.step reflexive step
  constructor <;> simp [Market.opening]

/-- The deals of one customer: it comes once, buys at most once while it is there, and leaves at most
    once, with the answer that is true. -/
structure InOrder (deals : List (Deal Q)) : Prop where
  once : deals.Nodup
  buys : ∀ later q earlier, deals = later ++ .buys q :: earlier →
    .comes q ∈ earlier ∧ ∀ served, .leaves q served ∉ earlier
  leaves : ∀ later q served earlier, deals = later ++ .leaves q served :: earlier →
    .comes q ∈ earlier ∧ (served = true ↔ .buys q ∈ deals) ∧
      ∀ served', .leaves q served' ∉ later ++ earlier

theorem trading_inOrder (reflexive : ∀ q, same q q)
    (shows : (trading registered same).Shows (Market.opening N) deals s) : InOrder deals := by
  have sound := trading_sound reflexive shows
  -- at each deal the books so far say who is there
  have there {later earlier : List (Deal Q)} {q : Q} {d : Deal Q} (split : deals = later ++ d :: earlier)
      (here : ∀ s s', Market.Step registered same s d s' → q ∈ s.waiting) :
      .comes q ∈ earlier ∧ ∀ served, .leaves q served ∉ earlier := by
    obtain ⟨b, before⟩ := Spec.Shows.before (split ▸ shows)
    cases before with
    | @step _ a _ _ before step => exact ((trading_sound reflexive before).waiting q).mp (here a b step)
  refine ⟨sound.nodup, fun later q earlier split => ?_, fun later q served earlier split => ?_⟩
  · refine there split fun s s' step => ?_
    cases step with
    | buys there known first stock => exact there
  · have member : Deal.leaves q served ∈ deals := by simp [split]
    have before := there split fun s s' step => by
      cases step with
      | leaves there truth => exact there
    refine ⟨before.1, (sound.served q served member).2, fun served' left => ?_⟩
    obtain after | gone := List.mem_append.mp left
    · -- whoever leaves again was still there after it had left
      obtain ⟨last, rest, again⟩ := List.append_of_mem after
      have split' : deals = last ++ .leaves q served' :: (rest ++ .leaves q served :: earlier) := by
        rw [split, again, List.append_assoc, List.cons_append]
      have still := there split' fun s s' step => by
        cases step with
        | leaves there truth => exact there
      exact still.2 served (by simp)
    · exact before.2 served' gone

end Market

/-! ## What is seen of the server -/

variable {ok : Condition server} {st : Stores} {h : History server} {cfg cfg' : Config server}
  {N : Nat} {t : Nat} {q : Request} {registered : Request → Prop} {same : Request → Request → Prop}

/-- A delivery, a sale that is committed, and an answer. -/
def deal : View server (Deal Request)
  | _, .call _ (.grpc .next) f _ => f.request.map .comes
  | h, .call t (.mysql (.commit _)) _ error => if error then none else (serving t h).map .buys
  | h, .call t (.grpc (.finish _ result)) _ _ => (serving t h).map fun q => .leaves q (result == one)
  | _, _ => none

/-- The market that the server keeps. -/
def market (h : History server) (s : Server) : Market Request where
  stock := s.mysql.gTotalcount.getD 0
  came := delivered h
  waiting := {q | ∃ t, serving t h = some q}
  sold := orders h

/-- The names of two requests are one name for MySQL. -/
def SameCustomer (st : Stores) (q q' : Request) : Prop :=
  collate st.weight (cStr q.usrname) = collate st.weight (cStr q'.usrname)

/-- A call that is not seen. -/
theorem market_blind {h' : History server} {s s' : Server} (stock : s'.mysql.gTotalcount = s.mysql.gTotalcount)
    (came : delivered h' = delivered h) (serves : ∀ t, serving t h' = serving t h)
    (sold : orders h' = orders h) : market h' s' = market h s := by
  simp only [market, stock, came, serves, sold]

theorem market_comes {usrname usrkey : Str} {r : (Call.grpc .next).Reply} {w : WorkerId}
    {s s' : Server} (stock : s'.mysql.gTotalcount = s.mysql.gTotalcount) (idle : serving t h = none)
    (new : ⟨w, usrname, usrkey⟩ ∉ delivered h) :
    Market.Step registered same (market h s) (.comes ⟨w, usrname, usrkey⟩)
      (market (.call t (.grpc .next) (.deliver w usrname usrkey) r :: h) s') := by
  have waiting : {q | ∃ t', serving t' (.call t (.grpc .next) (.deliver w usrname usrkey) r :: h) = some q} =
      insert ⟨w, usrname, usrkey⟩ {q | ∃ t', serving t' h = some q} := by
    ext q
    constructor
    · rintro ⟨t', serves⟩
      by_cases own : t' = t
      · subst own
        exact Or.inl (Option.some.inj (serves.symm.trans (if_pos rfl)))
      · exact Or.inr ⟨t', (serving_other own).symm.trans serves⟩
    · rintro (rfl | ⟨t', serves⟩)
      · exact ⟨t, if_pos rfl⟩
      · refine ⟨t', (serving_other ?_).trans serves⟩
        rintro rfl
        exact absurd (idle.symm.trans serves) nofun
  have after : market (.call t (.grpc .next) (.deliver w usrname usrkey) r :: h) s' =
      { market h s with
        came := ⟨w, usrname, usrkey⟩ :: (market h s).came
        waiting := insert ⟨w, usrname, usrkey⟩ (market h s).waiting } := by
    simp only [market, waiting, stock]
    rfl
  exact after ▸ .comes new

theorem market_leaves {result : Str} {w : WorkerId} {f : Fate} {r : (Call.grpc (.finish w result)).Reply}
    {s s' : Server} (stock : s'.mysql.gTotalcount = s.mysql.gTotalcount) (serves : serving t h = some q)
    (once : ∀ t', serving t' h = some q → t' = t) (truth : result = one ↔ q ∈ orders h) :
    Market.Step registered same (market h s) (.leaves q (result == one))
      (market (.call t (.grpc (.finish w result)) f r :: h) s') := by
  have waiting : {q' | ∃ t', serving t' (.call t (.grpc (.finish w result)) f r :: h) = some q'} =
      {q' | ∃ t', serving t' h = some q'} \ {q} := by
    ext q'
    constructor
    · rintro ⟨t', still⟩
      have other : t' ≠ t := by
        rintro rfl
        exact absurd ((if_pos rfl).symm.trans still) nofun
      have before : serving t' h = some q' := (serving_other other).symm.trans still
      refine ⟨⟨t', before⟩, ?_⟩
      rintro rfl
      exact other (once t' before)
    · rintro ⟨⟨t', before⟩, different⟩
      refine ⟨t', (serving_other ?_).trans before⟩
      rintro rfl
      exact different (Option.some.inj (before.symm.trans serves))
  have after : market (.call t (.grpc (.finish w result)) f r :: h) s' =
      { market h s with waiting := (market h s).waiting \ {q} } := by
    simp only [market, waiting, stock]
    rfl
  exact after ▸ .leaves ⟨t, serves⟩ (beq_iff_eq.trans truth)

/-- Every order is of a registered user. -/
theorem orders_authorized (commits : ∀ {h s ev}, ok h s ev → commitsWork h s ev = true)
    (run : Run ok (boot st) h cfg) : ∀ q ∈ orders h, st.Registers q := by
  intro q ordered
  obtain ⟨t, serves, paid⟩ | ⟨a, member, rfl, paid⟩ := ((orders_marked commits run).mem q).mp ordered
  · exact paid_authorized run t q serves paid
  · obtain ⟨⟨_, past⟩, serves, _, _⟩ := given run a member
    exact paid_authorized past a.thread a.request serves paid

/-! ## The refinement -/

/-- The runs that refine the market: `mysql_commit` succeeds and every transaction is one. -/
abbrev honest : Condition server := fun h s ev => commitsWork h s ev = true ∧ SoundMysql h s ev

section Refinement

variable (range : N < 4294967296) (stock : st.gTotalcount = some N) (empty : st.orderInfo = [])

include range stock empty

/-- A commit is a sale to whom the thread serves. -/
theorem market_buys {m : SessId} {f : Fate} {r : Bool} {x : MysqlState}
    (run : Run honest (boot st) h cfg) (met : honest h cfg.state (.call t (.mysql (.commit m)) f r))
    (later : Run honest (boot st) (.call t (.mysql (.commit m)) f r :: h) cfg')
    (state : cfg'.state = { cfg.state with mysql := x }) (allowed : (locals watch h t).AllowsMysql (.commit m))
    (exec : cfg.state.mysql.exec (.commit m) f = some (r, x)) :
    (trading st.Registers (SameCustomer st)).Follows (market h cfg.state)
      (deal h (.call t (.mysql (.commit m)) f r))
      (market (.call t (.mysql (.commit m)) f r :: h) cfg'.state) := by
  have ledger := ledger range stock And.right run
  obtain ⟨rfl, k, q, key, serves, before, after, _⟩ := commit_sells run ledger met.1 allowed exec
  have all : orders (.call t (.mysql (.commit m)) f false :: h) = q :: orders h := by
    simp [orders, serves]
  have nodup := (orders_marked And.left later).nodup
  rw [all] at nodup
  have new := (List.nodup_cons.mp nodup).1
  have rows : MysqlOrders st _ cfg'.state.mysql := mysql_orders range stock And.right And.left later
  rw [MysqlOrders, empty, List.map_nil, List.nil_append] at rows
  have distinct {q' : Request} (member : q' ∈ orders h) : ¬ SameCustomer st q' q := by
    have other : q' ≠ q := fun eq => new (eq ▸ member)
    have apart := orders_distinct (Seckill.ledger range stock And.right later) empty rows
      (all ▸ List.mem_cons_of_mem q member) (all ▸ List.mem_cons_self) other
    rw [MysqlState.sameName, same_weight later] at apart
    simpa [SameCustomer] using apart
  have seen : deal h (.call t (.mysql (.commit m)) f false) = some (.buys q) := by
    simp [deal, serves]
  have sold : market (.call t (.mysql (.commit m)) f false :: h) cfg'.state =
      { market h cfg.state with stock := k, sold := q :: (market h cfg.state).sold } := by
    simp only [market, state, after, all]
    rfl
  rw [seen, sold]
  refine Market.Step.buys ⟨t, serves⟩ ?_ (fun q' => distinct) ?_
  · exact orders_authorized And.left later q (all ▸ List.mem_cons_self)
  · simp [market, before]

/-- Every step of the server is a deal of the market, or nothing that it sees. -/
theorem market_follows {ev : Event server} (run : Run honest (boot st) h cfg)
    (met : honest h cfg.state ev) (step : Step cfg ev cfg') :
    (trading st.Registers (SameCustomer st)).Follows (market h cfg.state) (deal h ev)
      (market (ev :: h) cfg'.state) := by
  have later := Run.step run met step
  cases step with
  | start done => exact market_blind rfl rfl (fun _ => rfl) rfl
  | @call t c k f r s next exec =>
    have allowed := run.allowed conforms next
    cases c with
    | crash why => exact r.elim
    | redis c | counter c =>
      obtain ⟨⟨r', x⟩, own, eq⟩ := Option.map_eq_some_iff.mp exec
      cases eq
      exact market_blind rfl rfl (fun _ => rfl) rfl
    | mysql c =>
      obtain ⟨⟨r', x⟩, own, eq⟩ := Option.map_eq_some_iff.mp exec
      cases eq
      -- a deal is closed by the commit, and every other call of MySQL is not seen
      by_cases commit : ∃ m, c = .commit m
      · obtain ⟨m, rfl⟩ := commit
        exact market_buys range stock empty run met later rfl allowed own
      · have other (m : SessId) : c ≠ .commit m := fun eq => commit ⟨m, eq⟩
        have same := mysql_committed (ledger range stock And.right run) allowed other
          (never_tried And.left run t) own
        have unseen : deal h (.call t (.mysql c) f r') = none := by
          cases c <;> first | rfl | exact absurd rfl (other _)
        rw [unseen]
        refine market_blind same.count rfl (fun _ => rfl) ?_
        cases c <;> first | rfl | exact absurd rfl (other _)
    | grpc c =>
      obtain ⟨⟨r', x⟩, own, eq⟩ := Option.map_eq_some_iff.mp exec
      cases eq
      cases GrpcState.exec_does own with
      | alloc | status w found | setStatus w status found | requestseckill w found | usrname w found
      | usrkey w found | setResult w result found | result w found | delete w found =>
        exact market_blind rfl rfl (fun _ => rfl) rfl
      | finished w finishing =>
        refine market_blind rfl rfl (fun t' => ?_) rfl
        by_cases own : t' = t
        · subst own
          exact (if_pos rfl).trans (serving_next run allowed).symm
        · exact serving_other own
      | deliver w usrname usrkey waits found =>
        -- a `Worker` that waits in the queue has had no request
        have new : ⟨w, usrname, usrkey⟩ ∉ delivered h := fun before => (requests run).gone _ before waits
        exact market_comes rfl (serving_next run allowed) new
      | finish w result found =>
        obtain ⟨q, serves, _⟩ := serving_finish run allowed
        have told : result = one ↔ q ∈ orders h :=
          answer_ordered And.left later (a := ⟨q, result, t, h⟩) (by simp [answers, serves])
        have seen : deal h (.call t (.grpc (.finish w result)) .ok ()) =
            some (.leaves q (result == one)) := by simp [deal, serves]
        rw [seen]
        exact market_leaves rfl serves (fun t' still => serving_once run still serves) told

end Refinement

theorem market_boot (stock : st.gTotalcount = some N) : market [] (boot st) = Market.opening N := by
  have left : (boot st).mysql.gTotalcount = some N := stock
  simp only [market, left]
  simp [Market.opening, delivered, orders, serving]

/-- What is seen of a run is what the market shows. -/
theorem market_shows (range : N < 4294967296) (stock : st.gTotalcount = some N) (empty : st.orderInfo = [])
    (run : Run honest (boot st) h cfg) :
    (trading st.Registers (SameCustomer st)).Shows (Market.opening N) (deal.seen h) (market h cfg.state) := by
  have shows := run.shows (A := trading st.Registers (SameCustomer st)) deal market
    (fun run met step => market_follows range stock empty run met step)
  rwa [market_boot stock] at shows

/-- The tables of MySQL say of the market what it is. -/
structure Stocked (s : Server) (m : Market Request) : Prop where
  stock : s.mysql.gTotalcount = some m.stock
  rows : s.mysql.orderInfo.map OrderRow.usrName = (m.sold.map fun q => cStr q.usrname).reverse

/-- In every run in which `mysql_commit` succeeds and every transaction of `seckillGoods_mysql` is one,
    what is seen of the server is what the market shows, and its books are the tables of MySQL. -/
theorem refines_market (N : UInt32) (stock : st.gTotalcount = some N.toNat) (empty : st.orderInfo = [])
    (run : Run (meets undivided) (boot st) h cfg) (verbatim : ∀ q ∈ delivered h, q.Verbatim) :
    Understood h ∧ Stocked cfg.state (market h cfg.state) ∧
      (trading st.Registers (SameCustomer st)).Shows (Market.opening N.toNat)
        (deal.seen h) (market h cfg.state) := by
  have range := N.toNat_lt
  have honest := undivided_run run
  have rows : MysqlOrders st h cfg.state.mysql := mysql_orders range stock And.right And.left honest
  rw [MysqlOrders, empty, List.map_nil, List.nil_append] at rows
  obtain ⟨g, _, left, _⟩ := (ledger range stock And.right honest).stock
  refine ⟨run_understood run verbatim, ⟨?_, rows⟩, market_shows range stock empty honest⟩
  simp [market, left]

/-- One user buys, the other leaves with "0". -/
theorem refines_market_two :
    ∃ h cfg, Run (meets undivided) (boot twoUsers) h cfg ∧ (deal.seen h).length = 5 ∧
      Stocked cfg.state (market h cfg.state) ∧
        (trading twoUsers.Registers (SameCustomer twoUsers)).Shows (Market.opening 50)
          (deal.seen h) (market h cfg.state) := by
  have ran : ((replay undivided (serves 0 ⟨0, ['a'], ['k']⟩ .ok .ok ++
      serves 1 ⟨1, ['b'], ['k']⟩ .fail .ok ++ go 1 2) [] (initial (boot twoUsers))).any fun x =>
        (deal.seen x.1).length == 5 && (delivered x.1).all fun q => decide q.Verbatim) = true := by
    decide +kernel
  obtain ⟨⟨h, cfg⟩, played, given⟩ := (Option.any_eq_true _ _).mp ran
  simp only [Bool.and_eq_true, beq_iff_eq, List.all_eq_true, decide_eq_true_eq] at given
  have run : Run (meets undivided) _ h cfg := replay_meets played
  exact ⟨h, cfg, run, given.1, (refines_market 50 rfl rfl run given.2).2⟩

/-- In the order of time each request is delivered once, is sold a unit at most once after that, and
    is answered at most once after that, with "1" exactly if it was sold one. -/
theorem deals_inOrder (N : UInt32) (stock : st.gTotalcount = some N.toNat) (empty : st.orderInfo = [])
    (run : Run (meets undivided) (boot st) h cfg) (verbatim : ∀ q ∈ delivered h, q.Verbatim) :
    Understood h ∧ InOrder (deal.seen h) := by
  have shows := market_shows N.toNat_lt stock empty (undivided_run run)
  exact ⟨run_understood run verbatim, trading_inOrder (fun q => (rfl : SameCustomer st q q)) shows⟩

/-- A user asks twice, and leaves with "0" the second time. -/
theorem deals_inOrder_again :
    ∃ h cfg, Run (meets undivided) (boot twoUsers) h cfg ∧ (deal.seen h).length = 5 ∧
      InOrder (deal.seen h) := by
  have ran : ((replay undivided (serves 0 ⟨0, ['a'], ['k']⟩ .ok .ok ++
      takes 1 ⟨1, ['a'], ['k']⟩ ++ go 1 17) [] (initial (boot twoUsers))).any fun x =>
        (deal.seen x.1).length == 5 && (delivered x.1).all fun q => decide q.Verbatim) = true := by
    decide +kernel
  obtain ⟨⟨h, cfg⟩, played, given⟩ := (Option.any_eq_true _ _).mp ran
  simp only [Bool.and_eq_true, beq_iff_eq, List.all_eq_true, decide_eq_true_eq] at given
  have run : Run (meets undivided) _ h cfg := replay_meets played
  exact ⟨h, cfg, run, given.1, (deals_inOrder 50 rfl rfl run given.2).2⟩

end Seckill

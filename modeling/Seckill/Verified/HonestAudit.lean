import Seckill.Verified.Audit
import Seckill.Verified.OrderBooks
import Seckill.Verified.Truth

/-! # An honest run passes the audit

The test client numbers its users and counts the answers "1".  When every request of an honest
run is answered, what `checkSeckillInfo` reads of the database are the books of `books_closed`:
as many orders as answers "1", no two of one user, and the rest of the fifty units.  Of all
counts the audit then accepts the number of the answers "1" and no other, as long as it can read
the names that `executeSql` gave it.
-/

namespace Seckill

open CStr CallTree Threads

variable {ok : Condition server} {st : Stores} {h : History server} {cfg : Config server}
  {s : Server} {N : Nat}

/-! ## Users by number -/

/-- A request as `onSeckill` makes it: the name is the text of an `int`. -/
def Request.Numbered (q : Request) : Prop := ∃ i : Int32, q.usrname = decimal i.toInt

theorem atoi_int32 (i : Int32) : atoi (decimal i.toInt) = i.toInt := by
  have low : -2 ^ 31 ≤ i.toInt := i.le_toInt
  have high : i.toInt < 2 ^ 31 := i.toInt_lt
  simp only [atoi, toInt32, strtol, readInt_decimal, longMin, longMax]
  omega

/-- `atoi` tells the names of numbered users apart. -/
theorem atoi_inj {a b : Request} (left : a.Numbered) (right : b.Numbered)
    (same : atoi (cStr a.usrname) = atoi (cStr b.usrname)) :
    cStr a.usrname = cStr b.usrname := by
  obtain ⟨i, name⟩ := left
  obtain ⟨j, name'⟩ := right
  rw [name, name', cStr_decimal, cStr_decimal, atoi_int32, atoi_int32] at same
  rw [name, name', same]

/-! ## The books at the end -/

/-- What the audit reads of the server's database. -/
def finalDatabase (s : Server) : FinalDatabase where
  gTotalcount := UInt32.ofNat (s.mysql.gTotalcount.getD 0)
  orders := s.mysql.orderInfo.map OrderRow.usrName

/-- The books when all requests are answered: `N` units were for sale. -/
structure Closed (N : Nat) (h : History server) (s : Server) : Prop where
  stock : ∃ g : Nat, s.mysql.gTotalcount = some g ∧ (ones h).length + g = N
  count : (finalDatabase s).orders.length = (ones h).length
  buyers : ∀ name ∈ (finalDatabase s).orders, ∃ q ∈ delivered h, cStr q.usrname = name
  distinct : (finalDatabase s).orders.Nodup

theorem books_closed (range : N < 4294967296) (stock : st.gTotalcount = some N)
    (empty : st.orderInfo = []) (commits : ∀ {h s ev}, ok h s ev → commitsWork h s ev = true)
    (sound : ∀ {h s ev}, ok h s ev → SoundMysql h s ev) (run : Run ok (boot st) h cfg)
    (rest : AtRest h) : Closed N h cfg.state := by
  have rows : MysqlOrders st h cfg.state.mysql := mysql_orders range stock sound commits run
  rw [MysqlOrders, empty, List.map_nil, List.nil_append] at rows
  have ledger := ledger range stock sound run
  have perm := ones_orders commits run rest
  have count : (cfg.state.mysql.orderInfo.map OrderRow.usrName).length = (ones h).length := by
    rw [rows, List.length_reverse, List.length_map, ← perm.length_eq, List.length_map]
  refine ⟨?_, count, fun name member => ?_, ?_⟩
  · -- every unit sold has its row
    obtain ⟨g, sold, left, orders, sum⟩ := ledger.stock
    rw [empty, List.length_nil] at orders
    rw [List.length_map] at count
    exact ⟨g, left, by omega⟩
  · rw [finalDatabase, rows, List.mem_reverse, List.mem_map] at member
    obtain ⟨q, ordered, same⟩ := member
    obtain ⟨a, told, rfl⟩ := List.mem_map.mp (perm.mem_iff.mpr ordered)
    exact ⟨a.request, (requests run).answered a (mem_ones.mp told).1, same⟩
  · have unique : UniqueNames st := by simp [UniqueNames, empty]
    have apart : (cfg.state.mysql.orderInfo.map OrderRow.usrName).Pairwise fun a b =>
        cfg.state.mysql.sameName a b = false :=
      List.pairwise_map.mpr (List.pairwise_append.mp (ledger.distinct unique)).1
    apply apart.imp
    rintro a _ apart rfl
    simp [MysqlState.sameName] at apart

/-! ## The verdict on them -/

/-- No two numbers in the orders of numbered users are equal. -/
theorem Closed.atoi_nodup (closed : Closed N h s) (numbered : ∀ q ∈ delivered h, q.Numbered) :
    ((finalDatabase s).orders.map atoi).Nodup := by
  apply List.Nodup.map_on _ closed.distinct
  intro a left b right same
  obtain ⟨p, asked, rfl⟩ := closed.buyers a left
  obtain ⟨q, asked', rfl⟩ := closed.buyers b right
  exact atoi_inj (numbered p asked) (numbered q asked') same

theorem Closed.left (closed : Closed N h s) (range : N < 4294967296) :
    (finalDatabase s).gTotalcount.toNat + (ones h).length = N := by
  obtain ⟨g, left, sum⟩ := closed.stock
  have small : g < 4294967296 := by omega
  have exact : (UInt32.ofNat g).toNat = g := UInt32.toNat_ofNat_of_lt' small
  rw [finalDatabase, left, Option.getD_some, exact]
  omega

/-- The heap still has the names of all orders. -/
def Readable (heap : Heap) (s : Server) : Prop :=
  ∀ name ∈ (finalDatabase s).orders, heap name = some name

/-- The audit of fifty units accepts the number of the answers "1" and no other. -/
theorem Closed.verdict {heap : Heap} (closed : Closed 50 h s)
    (numbered : ∀ q ∈ delivered h, q.Numbered) (readable : Readable heap s) (successCount : Int32) :
    (checkSeckillInfoIn heap successCount).Ends (finalDatabase s).exec none fun verdict _ =>
      verdict = true ↔ successCount.toInt = (ones h).length := by
  have left := closed.left (by decide)
  apply (verdict_in readable).mono
  intro verdict _ answer
  rw [answer]
  constructor
  · -- what is left fixes what was sold
    intro accepted
    have count := accepted.1.2
    omega
  · intro count
    exact ⟨⟨by omega, by omega⟩, fun _ =>
      ⟨by rw [closed.count, count], closed.atoi_nodup numbered⟩⟩

/-- However the threads interleave and whatever else fails, the audit of an honest run on verbatim
    requests accepts the number of answers "1" and no other. -/
theorem audit_accepts_ones {other : Dialect} {cfg : Config (textServer other)} {heap : Heap}
    (stock : st.gTotalcount = some 50) (empty : st.orderInfo = [])
    (run : Run (M := textServer other) (meets undivided) (boot st) h cfg)
    (verbatim : ∀ q ∈ delivered h, q.Verbatim) (rest : AtRest h)
    (numbered : ∀ q ∈ delivered h, q.Numbered) (readable : Readable heap cfg.state)
    (successCount : Int32) :
    (checkSeckillInfoIn heap successCount).Ends (finalDatabase cfg.state).exec none
      fun verdict _ => verdict = true ↔ successCount.toInt = (ones h).length := by
  have closed : Closed 50 h cfg.state := books_closed (by decide) stock empty And.left And.right
    (undivided_run (run_server run verbatim)) rest
  exact closed.verdict numbered readable successCount

def numberedUsers : Stores := agreeing [(['7'], ['k']), (['8'], ['k'])] 50

/-- User 7 gets a unit, user 8 does not because the `UPDATE` failed, and the audit accepts 1. -/
theorem audit_accepts_ones_two : ∃ (h : History server) (cfg : Config (textServer allKeys)),
    Run (M := textServer allKeys) (meets undivided) (boot numberedUsers) h cfg ∧
      (delivered h).length = 2 ∧ (ones h).length = 1 ∧
      (checkSeckillInfoIn some 1).Ends (finalDatabase cfg.state).exec none fun verdict _ =>
        verdict = true ↔ (1 : Int32).toInt = (ones h).length := by
  have ran : ((replay (M := textServer allKeys) undivided (serves 0 ⟨0, ['7'], ['k']⟩ .ok .ok ++
      serves 1 ⟨1, ['8'], ['k']⟩ .fail .ok ++ go 1 2) [] (initial (boot numberedUsers))).any
        fun x => allAnswered x.1 && delivered x.1 == [⟨1, ['8'], ['k']⟩, ⟨0, ['7'], ['k']⟩] &&
          (ones x.1).length == 1) = true := by decide +kernel
  obtain ⟨⟨h, cfg⟩, played, after⟩ := (Option.any_eq_true _ _).mp ran
  simp only [Bool.and_eq_true, beq_iff_eq] at after
  obtain ⟨⟨answered, asked⟩, told⟩ := after
  have run : Run (M := textServer allKeys) (meets undivided) _ h cfg := replay_meets played
  have verbatim : ∀ q ∈ delivered h, q.Verbatim := by
    rw [asked]
    decide
  have numbered : ∀ q ∈ delivered h, q.Numbered := by
    rw [asked]
    intro q member
    obtain rfl | rfl := List.mem_pair.mp member
    · exact ⟨8, rfl⟩
    · exact ⟨7, rfl⟩
  have count : (delivered h).length = 2 := by
    rw [asked]
    rfl
  exact ⟨h, cfg, run, count, told, audit_accepts_ones rfl rfl run verbatim
    (allAnswered_rest (run_server run verbatim) answered) numbered (fun _ _ => rfl) 1⟩

end Seckill

import Seckill.Verified.Ledger
import Seckill.Verified.TextRuns

/-! # No overselling

The ledger on texts.  An `INSERT` adds one row as long as its name and its key stay between their
quotes; a key that ends its literal can go on with a second row, and then there are more orders than
units were taken.
-/

namespace Seckill

open CStr CallTree SqlText Threads

variable {st : Stores} {h : History server} {other : Dialect} {cfg : Config (textServer other)}

/-- `mysql_autocommit` and `mysql_rollback` succeed; statements and commits may fail, and Redis
    may do as it likes. -/
def switchesWork : History server → Server → Event server → Bool
  | _, _, .call _ (.mysql (.autocommit _ _)) f _ => f.isOk
  | _, _, .call _ (.mysql (.rollback _)) f _ => f.isOk
  | _, _, _ => true

theorem switchesWork_sound {s : Server} {ev : Event server} (works : switchesWork h s ev = true) :
    SoundMysql h s ev := by
  unfold SoundMysql
  split
  · cases works
  · cases works
  · cases works
  · trivial

/-- The count of goods and the orders add up to the stock at the start, and no two orders are of one
    name. -/
structure Tallies (N : Nat) (s : MysqlState) : Prop where
  sum : ∃ g : Nat, s.gTotalcount = some g ∧ g + s.orderInfo.length = N
  apart : s.orderInfo.Pairwise fun a b => s.sameName a.usrName b.usrName = false
  nodup : (s.orderInfo.map OrderRow.usrName).Nodup

/-- Whatever the threads do and whatever fails, the committed state tallies with the stock at the
    start, as long as the requests are verbatim. -/
theorem never_oversells (N : UInt32) (stock : st.gTotalcount = some N.toNat)
    (empty : st.orderInfo = [])
    (run : Run (M := textServer other) (meets switchesWork) (boot st) h cfg)
    (verbatim : ∀ q ∈ delivered h, q.Verbatim) : Tallies N.toNat cfg.state.mysql := by
  have ledger := ledger N.toNat_lt stock switchesWork_sound (run_server run verbatim)
  have unique : UniqueNames st := by simp [UniqueNames, empty]
  have distinct := (List.pairwise_append.mp (ledger.distinct unique)).1
  obtain ⟨g, sold, count, orders, sum⟩ := ledger.stock
  rw [empty, List.length_nil, Nat.zero_add] at orders
  refine ⟨⟨g, count, orders ▸ sum⟩, distinct, ?_⟩
  rw [List.Nodup, List.pairwise_map]
  refine distinct.imp fun {a b} other same => ?_
  rw [same] at other
  simp [MysqlState.sameName] at other

/-! ## A key with a second row in it -/

/-- An `INSERT` of two rows. -/
def insertTwoFormat : Str :=
  "INSERT INTO order_info(usr_name,usr_key,goods_id) VALUES ('%s','%s','%s'),('%s','%s','%s')".toList

/-- MySQL takes such a statement for what it is, and refuses any other. -/
def insertsTwo : Dialect := fun tokens m s =>
  match literals tokens with
  | [name, key, goodsId, name', key', goodsId'] =>
    if meant insertTwoFormat [name, key, goodsId, name', key', goodsId'] ≠ some tokens ∨
        s.sameName name name' ∨ (s.orderInfo ++ s.ownRows m).any fun o =>
          s.sameName o.usrName name || s.sameName o.usrName name' then (true, s)
    else
      let s := s.addInsert m ⟨name, key, goodsId⟩
      (false, (s.addInsert m ⟨name', key', goodsId'⟩).stmtDone m)
  | _ => (true, s)

/-- Of fifty units one is sold, while another sale fails in mid-transaction. -/
theorem never_oversells_fifty : ∃ (h : History server) (cfg : Config (textServer insertsTwo)),
    Run (M := textServer insertsTwo) (meets switchesWork)
        (boot (agreeing [(['a'], ['k']), (['b'], ['k'])] 50)) h cfg ∧
      cfg.state.mysql.orderInfo.length = 1 ∧ Tallies 50 cfg.state.mysql := by
  have ran : ((replay (M := textServer insertsTwo) switchesWork (queues 0 ⟨0, ['a'], ['k']⟩ ++ go 0 4 ++
      [.go 0 .failRollback] ++ serves 1 ⟨1, ['b'], ['k']⟩ .ok .ok ++ go 0 11) []
      (initial (boot (agreeing [(['a'], ['k']), (['b'], ['k'])] 50)))).any fun x =>
        x.2.state.mysql.orderInfo.length == 1 && (delivered x.1).all fun q => decide q.Verbatim) =
          true := by
    decide +kernel
  obtain ⟨⟨h, cfg⟩, played, given⟩ := (Option.any_eq_true _ _).mp ran
  simp only [Bool.and_eq_true, beq_iff_eq, List.all_eq_true, decide_eq_true_eq] at given
  have run : Run (M := textServer insertsTwo) (meets switchesWork) _ h cfg := replay_meets played
  exact ⟨h, cfg, run, given.1, never_oversells 50 rfl rfl run given.2⟩

/-- A key that ends its literal and begins another row. -/
def twoRows : Str := "k','10'),('b','k".toList

/-- `a` buys one unit with that key, and two orders are committed. -/
theorem oversells : ∃ (h : History server) (cfg : Config (textServer insertsTwo)),
    Run (M := textServer insertsTwo) (meets switchesWork) (boot (agreeing [(['a'], twoRows)] 50)) h cfg ∧
      cfg.state.mysql.gTotalcount = some 49 ∧
      cfg.state.mysql.orderInfo.map OrderRow.usrName = [['a'], ['b']] ∧
      ¬ Tallies 50 cfg.state.mysql := by
  have ran : ((replay (M := textServer insertsTwo) switchesWork (serves 0 ⟨0, ['a'], twoRows⟩ .ok .ok) []
      (initial (boot (agreeing [(['a'], twoRows)] 50)))).any fun x =>
        x.2.state.mysql.gTotalcount == some 49 &&
          x.2.state.mysql.orderInfo.map OrderRow.usrName == [['a'], ['b']]) = true := by
    decide +kernel
  obtain ⟨⟨h, cfg⟩, played, left⟩ := (Option.any_eq_true _ _).mp ran
  simp only [Bool.and_eq_true, beq_iff_eq] at left
  obtain ⟨count, names⟩ := left
  refine ⟨h, cfg, replay_meets played, count, names, fun stock => ?_⟩
  obtain ⟨g, same, sum⟩ := stock.sum
  obtain rfl : 49 = g := Option.some.inj (count.symm.trans same)
  have two : cfg.state.mysql.orderInfo.length = 2 := by
    rw [← List.length_map, names]
    rfl
  omega

end Seckill

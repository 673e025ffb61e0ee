import Mathlib.Data.List.Nodup
import Seckill.Verified.Transposition

/-! # The verdict of the audit

What `checkSeckillInfo` answers on the final content of the database, against what it is meant to
find out: that the orders, the stock and the answers of the server tell the same story.
`verdict_ends` computes the answer, and `audit_exact_iff` says when it is the right one.
-/

namespace Seckill

open CStr CallTree OrdMap

/-! ## Neighbours in a sorted list -/

section Neighbours

variable {nums : List Int} {fuel i : Nat}

/-- Equal neighbours from place `i` on. -/
def Repeats (nums : List Int) (i : Nat) : Prop :=
  ∃ j, i ≤ j ∧ ∃ inside : j + 1 < nums.length, nums[j] = nums[j + 1]

/-- The loop reads no further than the last place and finds equal neighbours if there are any. -/
theorem duplicateFrom_repeats (enough : nums.length ≤ fuel + i) (start : i < nums.length) :
    ∃ duplicate, duplicateFrom nums (fuel + 1) i = some duplicate ∧
      (duplicate = true ↔ Repeats nums i) := by
  have nonempty : nums.length ≠ 0 := by omega
  induction fuel generalizing i with
  | zero => omega
  | succ fuel ih =>
    unfold duplicateFrom
    rw [lastIndex, if_neg nonempty]
    by_cases more : i + 1 < nums.length
    · rw [if_pos (by omega), List.getElem?_eq_getElem start, List.getElem?_eq_getElem more]
      -- found at i, or from i + 1 on by the induction
      by_cases same : nums[i] = nums[i + 1]
      · exact ⟨true, if_pos same, iff_of_true rfl ⟨i, Nat.le_refl i, more, same⟩⟩
      · obtain ⟨duplicate, found, repeats⟩ := ih (by omega) more
        refine ⟨duplicate, (if_neg same).trans found, repeats.trans ?_⟩
        constructor
        · intro later
          obtain ⟨j, after, equal⟩ := later
          exact ⟨j, by omega, equal⟩
        · intro now
          obtain ⟨j, after, inside, equal⟩ := now
          have other : j ≠ i := by
            rintro rfl
            exact same equal
          exact ⟨j, by omega, inside, equal⟩
    · rw [if_neg (by omega)]
      refine ⟨false, rfl, iff_of_false (by simp) ?_⟩
      intro repeats
      obtain ⟨j, after, inside, _⟩ := repeats
      omega

/-- Among sorted numbers equal ones are neighbours. -/
theorem repeats_sorted (sorted : nums.Pairwise (· ≤ ·)) : Repeats nums 0 ↔ ¬ nums.Nodup := by
  constructor
  · intro repeats nodup
    obtain ⟨j, _, inside, equal⟩ := repeats
    have place : j = j + 1 := (List.Nodup.getElem_inj_iff nodup).mp equal
    omega
  · intro repeated
    by_contra unrepeated
    apply repeated
    have chain : nums.IsChain (· < ·) := by
      rw [List.isChain_iff_getElem]
      intro j inside
      have le : nums[j] ≤ nums[j + 1] :=
        List.pairwise_iff_getElem.mp sorted j (j + 1) _ inside (Nat.lt_succ_self j)
      have ne : nums[j] ≠ nums[j + 1] := fun equal => unrepeated ⟨j, Nat.zero_le j, inside, equal⟩
      omega
    exact chain.pairwise.imp Int.ne_of_lt

theorem containsDuplicate_nodup (nonempty : nums ≠ []) :
    ∃ duplicate, containsDuplicate nums = some duplicate ∧ (duplicate = true ↔ ¬ nums.Nodup) := by
  have perm : (nums.insertionSort (· ≤ ·)).Perm nums := List.perm_insertionSort _ nums
  have length : (nums.insertionSort (· ≤ ·)).length = nums.length := perm.length_eq
  have enough : (nums.insertionSort (· ≤ ·)).length ≤ nums.length + 0 := length.le
  have start : 0 < (nums.insertionSort (· ≤ ·)).length := length ▸ List.length_pos_iff.mpr nonempty
  obtain ⟨duplicate, found, repeats⟩ := duplicateFrom_repeats enough start
  refine ⟨duplicate, found, repeats.trans ?_⟩
  rw [repeats_sorted (List.pairwise_insertionSort _ nums), perm.nodup_iff]

end Neighbours

/-! ## The database at the end -/

/-- What the audit reads: the count of goods `'10'` and the names in `order_info`. -/
structure FinalDatabase where
  gTotalcount : UInt32
  orders : List Str

namespace FinalDatabase

def goods (db : FinalDatabase) : ResultSet :=
  ⟨["g_totalcount".toList], [#v[some (decimal db.gTotalcount.toNat)]]⟩

def names (db : FinalDatabase) : ResultSet := ⟨[usrNameField], db.orders.map fun name => #v[some name]⟩

/-- Every call succeeds; the state is the result that waits to be read. -/
def exec (db : FinalDatabase) : (c : AuditCall) → Option ResultSet → Option (c.Reply × Option ResultSet)
  | .getOneConnect, result => some (some 0, result)
  | .close _, result => some ((), result)
  | .query _ sql, _ =>
    if sql = goodsSql then some (false, some db.goods)
    else if sql = ordersSql then some (false, some db.names)
    else some (true, none)
  | .useResult _, some result => some (result.rows.map Vector.toList, none)
  | .useResult _, none => none
  | .storeResult _, result => some (result, result)
  | .undefined, _ => none

/-- The answers, the stock and the orders tell the same story. -/
structure Consistent (db : FinalDatabase) (successCount : Int32) : Prop where
  limit : successCount.toInt ≤ 50
  stock : (db.gTotalcount.toNat : Int) = 50 - successCount.toInt
  orders : (db.orders.length : Int) = successCount.toInt
  distinct : db.orders.Nodup

/-- Orders that the audit takes for others: none at all, which it does not count, or names of
    different users that `atoi` reads as one number. -/
structure Mistaken (db : FinalDatabase) (successCount : Int32) : Prop where
  limit : successCount.toInt ≤ 50
  stock : (db.gTotalcount.toNat : Int) = 50 - successCount.toInt
  orders : db.orders = [] ∧ successCount ≠ 0 ∨
    (db.orders.length : Int) = successCount.toInt ∧ db.orders.Nodup ∧ ¬ (db.orders.map atoi).Nodup

end FinalDatabase

/-! ## The verdict -/

variable {db : FinalDatabase} {successCount : Int32} {result : Option ResultSet}

theorem goods_checked (limit : successCount.toInt ≤ 50) :
    toInt32 (50 - atoi (decimal db.gTotalcount.toNat)) = successCount.toInt ↔
      (db.gTotalcount.toNat : Int) = 50 - successCount.toInt := by
  have range : db.gTotalcount.toNat < 4294967296 := db.gTotalcount.toNat_lt
  have low : -2 ^ 31 ≤ successCount.toInt := successCount.le_toInt
  simp only [atoi, toInt32, strtol, readInt_decimal, longMin, longMax]
  omega

theorem names_read {orders : List Str} :
    (readNames (orders.map some)).alone db.exec result = some (orders.map atoi, result) := by
  induction orders with
  | nil => rfl
  | cons name orders ih => simp [readNames, atoiCell, ih]

theorem names_yielded : Yields db.exec ordersSql db.names result (some db.names) := by
  have other : ordersSql ≠ goodsSql := by decide
  exact ⟨0, result, some db.names, some db.names, rfl, by simp [FinalDatabase.exec, other], rfl, rfl⟩

theorem names_collected : (collect db.names).find usrNameField = some (db.orders.map some) := by
  have place : rank usrNameField [usrNameField] = 0 := by decide
  have distinct : db.names.fields.Nodup := List.nodup_singleton usrNameField
  have found := find_collect distinct (List.mem_singleton_self usrNameField)
  rw [found, List.map_eq_flatMap]
  simp only [FinalDatabase.names, place, List.flatMap_map]
  rfl

theorem orders_checked {isnormol : Bool} :
    (checkOrders successCount isnormol (db.orders.map some)).Ends db.exec result fun verdict _ =>
      verdict = true ↔ isnormol = true ∧ (db.orders ≠ [] →
        (db.orders.length : Int) = successCount.toInt ∧ (db.orders.map atoi).Nodup) := by
  unfold checkOrders
  rw [List.length_map]
  by_cases empty : db.orders = []
  · rw [if_neg (by simp [empty])]
    exact Prog.Ends.ret (by simp [empty])
  · have nonempty : db.orders.map atoi ≠ [] := by simpa using empty
    obtain ⟨duplicate, found, repeated⟩ := containsDuplicate_nodup nonempty
    have read : (readNames (db.orders.map some)).Ends db.exec result
        fun namesI result' => namesI = db.orders.map atoi ∧ result' = result :=
      ⟨_, _, names_read, rfl, rfl⟩
    rw [if_pos (List.length_pos_iff.mpr empty)]
    apply read.bind
    intro namesI result' same
    obtain ⟨rfl, rfl⟩ := same
    rw [found]
    apply Prog.Ends.ret
    rw [Bool.and_eq_true, Bool.and_eq_true, beq_iff_eq, Bool.not_eq_true',
      and_assoc, ← Bool.not_eq_true, repeated, not_not]
    simp [empty]

/-- What the audit answers, if it can still read the names. -/
theorem verdict_in {heap : Heap} (readable : ∀ name ∈ db.orders, heap name = some name) :
    (checkSeckillInfoIn heap successCount).Ends db.exec result fun verdict _ =>
      verdict = true ↔ (successCount.toInt ≤ 50 ∧
        (db.gTotalcount.toNat : Int) = 50 - successCount.toInt) ∧
          (db.orders ≠ [] →
            (db.orders.length : Int) = successCount.toInt ∧ (db.orders.map atoi).Nodup) := by
  have counted : (do
      if ← audit (.query 0 goodsSql) then
        pure 0
      else
        fetchCount (← audit (.useResult 0)) 0 : AuditCode Int).Ends db.exec result
          fun totalCount _ => totalCount = atoi (decimal db.gTotalcount.toNat) :=
    ⟨_, none, rfl, rfl⟩
  have named (result : Option ResultSet) : (executeSql ordersSql).Ends db.exec result
      fun results _ => results.find usrNameField = some (db.orders.map some) :=
    ⟨_, _, executeSql_collects names_yielded, names_collected⟩
  apply Prog.Ends.call (show db.exec .getOneConnect result = some (some 0, result) from rfl)
  apply counted.bind
  intro totalCount result' eq
  apply (named result').bind
  intro resulMap result'' found
  -- what is read of the released texts is what was in the rows
  have kept : (db.orders.map some).map (fun name => name.bind heap) = db.orders.map some := by
    rw [List.map_map]
    exact List.map_congr_left fun name member => readable name member
  rw [found]
  show (checkOrders _ _ ((db.orders.map some).map fun name => name.bind heap)).Ends _ _ _
  rw [kept]
  apply orders_checked.mono
  intro verdict _ answer
  rw [answer, eq, Bool.and_eq_true, beq_iff_eq, Bool.not_eq_true', decide_eq_false_iff_not, not_lt]
  apply and_congr_left
  intro _
  apply and_congr_right
  exact goods_checked

/-- What the audit answers. -/
theorem verdict_ends :
    (checkSeckillInfo successCount).Ends db.exec result fun verdict _ =>
      verdict = true ↔ (successCount.toInt ≤ 50 ∧
        (db.gTotalcount.toNat : Int) = 50 - successCount.toInt) ∧
          (db.orders ≠ [] →
            (db.orders.length : Int) = successCount.toInt ∧ (db.orders.map atoi).Nodup) :=
  verdict_in fun _ _ => rfl

/-- The audit is right exactly where nothing it takes for something else is in the database. -/
theorem audit_exact_iff (db : FinalDatabase) (successCount : Int32) :
    ((checkSeckillInfo successCount).Ends db.exec none fun verdict _ =>
        verdict = true ↔ db.Consistent successCount) ↔ ¬ db.Mistaken successCount := by
  obtain ⟨verdict, result, done, answer⟩ := @verdict_ends db successCount none
  have exact : ((checkSeckillInfo successCount).Ends db.exec none fun verdict _ =>
      verdict = true ↔ db.Consistent successCount) ↔ (verdict = true ↔ db.Consistent successCount) := by
    constructor
    · intro ends
      obtain ⟨verdict', result', done', right⟩ := ends
      rw [done] at done'
      cases done'
      exact right
    · intro right
      exact ⟨verdict, result, done, right⟩
  rw [exact, answer]
  constructor
  · intro right mistaken
    obtain ⟨limit, stock, ⟨empty, some⟩ | ⟨count, nodup, alike⟩⟩ := mistaken
    · -- without orders their number is not compared, and the audit accepts
      have consistent := right.mp ⟨⟨limit, stock⟩, fun nonempty => absurd empty nonempty⟩
      have none : successCount.toInt = 0 := by simpa [empty] using consistent.orders.symm
      exact some (Int32.toInt_inj.mp none)
    · -- names that `atoi` reads alike count as one
      have nonempty : db.orders ≠ [] := fun empty => alike (by simp [empty])
      exact alike ((right.mpr ⟨limit, stock, count, nodup⟩).2 nonempty).2
  · intro unmistaken
    constructor
    · intro accepted
      obtain ⟨⟨limit, stock⟩, checked⟩ := accepted
      by_cases empty : db.orders = []
      · have none : successCount = 0 := by
          by_contra some
          exact unmistaken ⟨limit, stock, Or.inl ⟨empty, some⟩⟩
        exact ⟨limit, stock, by simp [empty, none], by simp [empty]⟩
      · obtain ⟨count, distinct⟩ := checked empty
        exact ⟨limit, stock, count, distinct.of_map atoi⟩
    · intro consistent
      obtain ⟨limit, stock, count, nodup⟩ := consistent
      refine ⟨⟨limit, stock⟩, fun _ => ⟨count, ?_⟩⟩
      by_contra alike
      exact unmistaken ⟨limit, stock, Or.inr ⟨count, nodup, alike⟩⟩

/-- Five units are sold and no order was written. -/
theorem audit_blind :
    ∃ (db : FinalDatabase) (successCount : Int32), ¬ db.Consistent successCount ∧
      (checkSeckillInfo successCount).Ends db.exec none fun verdict _ => verdict = true := by
  refine ⟨⟨45, []⟩, 5, fun consistent => absurd consistent.orders (by decide), ?_⟩
  apply verdict_ends.mono
  intro verdict _ answer
  exact answer.mpr ⟨⟨by decide, by decide⟩, fun nonempty => absurd rfl nonempty⟩

end Seckill

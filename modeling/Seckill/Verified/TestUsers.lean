import Seckill.Verified.Authorization
import Seckill.Verified.Client
import Seckill.Verified.Truth

/-! # Who can buy in a test

The kinds of `prepareTestData` against the 400 users that `prepareForSeckill` means to store.
`Random(400) + 400` begins with a registered user, so in the tests of unregistered users one
user can buy, number 400.
-/

namespace Seckill

open CStr CallTree Threads

variable {ok : Condition server} {st : Stores} {h : History server} {cfg : Config server}
  {generateMD5 : Str → Fin 16 → UInt8} {rand : Nat → Nat} {testType : Int}

/-- `usr_info` of MySQL holds the users 1 to 400 with their keys, that of Redis no others, and
    MySQL tells digits apart. -/
structure Peopled (generateMD5 : Str → Fin 16 → UInt8) (st : Stores) : Prop where
  rows : ∀ row, row ∈ st.usrInfo ↔
    ∃ i : Nat, 1 ≤ i ∧ i ≤ 400 ∧ row = (decimal i, Prepare.md5Str generateMD5 i)
  loaded : ∀ name key, st.redisUsers.lookup name = some key → (name, key) ∈ st.usrInfo
  digits : ∀ a b : Char, a.isDigit = true → b.isDigit = true → st.weight a = st.weight b →
    a = b

theorem collate_digits {weight : Char → Nat} {name : Str} (digits : ∀ c ∈ name, c.isDigit = true) :
    collate weight name = name.map weight := by
  have kept : name.rdropWhile (· == ' ') = name := by
    apply List.rdropWhile_eq_self_iff.mpr
    intro nonempty blank
    have digit := digits _ (List.getLast_mem nonempty)
    rw [beq_iff_eq.mp blank] at digit
    exact absurd digit (by decide)
  rw [collate, kept]

/-- Where digits have different weights so have numbers. -/
theorem collate_decimal_inj {weight : Char → Nat}
    (digits : ∀ a b : Char, a.isDigit = true → b.isDigit = true → weight a = weight b → a = b)
    {i j : Nat} (same : collate weight (decimal i) = collate weight (decimal j)) : i = j := by
  have digit (k : Nat) : ∀ c ∈ decimal k, c.isDigit = true := fun c member =>
    Nat.isDigit_of_mem_toDigits (by decide) (by decide) member
  rw [collate_digits (digit i), collate_digits (digit j)] at same
  have length : (decimal i).length = (decimal j).length := by
    simpa using congrArg List.length same
  have equal : decimal i = decimal j := by
    apply List.ext_getElem length
    intro k left right
    have weights : weight (decimal i)[k] = weight (decimal j)[k] := by
      have at_k := congrArg (fun l => l[k]?) same
      simpa [left, right] using at_k
    exact digits _ _ (digit i _ (List.getElem_mem left)) (digit j _ (List.getElem_mem right)) weights
  exact Int.ofNat_inj.mp (decimal_injective equal)

/-- Only the numbers 1 to 400 are known. -/
theorem Peopled.knows (peopled : Peopled generateMD5 st) {i : Nat} {key : Str}
    (known : st.Knows (decimal i) key) : 1 ≤ i ∧ i ≤ 400 := by
  rw [Stores.Knows, cStr_decimal] at known
  obtain ⟨str, found, _⟩ | ⟨u, listed, same, _⟩ := known
  · -- Redis compares the names byte by byte, MySQL by their weights
    obtain ⟨j, low, high, row⟩ := (peopled.rows _).mp (peopled.loaded _ _ found)
    have equal : i = j := Int.ofNat_inj.mp (decimal_injective (congrArg Prod.fst row))
    exact equal ▸ ⟨low, high⟩
  · obtain ⟨j, low, high, rfl⟩ := (peopled.rows u).mp listed
    exact collate_decimal_inj peopled.digits same ▸ ⟨low, high⟩

theorem prepareTestData_nonneg (testType : Int) (rand : Nat → Nat) (j : Nat) :
    0 ≤ prepareTestData testType rand j := by
  unfold prepareTestData
  split_ifs <;> omega

/-- Tests 2 and 4 draw no user below 400. -/
theorem prepareTestData_unregistered {testType : Int} (kind : testType = 2 ∨ testType = 4)
    (rand : Nat → Nat) (j : Nat) : 400 ≤ prepareTestData testType rand j := by
  obtain rfl | rfl := kind
  · show (400 : Int) ≤ rand j % 400 + 400
    omega
  · show (400 : Int) ≤ rand j % 5 + 400
    omega

/-- Whatever fails, a test sells to users 1 to 400 only, and a test of unregistered users to
    user 400 only. -/
theorem test_sells_registered (peopled : Peopled generateMD5 st) (run : Run ok (boot st) h cfg)
    (asked : ∀ q ∈ delivered h, ∃ j, q.usrname = decimal (prepareTestData testType rand j)) :
    ∀ a ∈ answers h, a.result = one → ∃ i : Nat, a.request.usrname = decimal i ∧
      (1 ≤ i ∧ i ≤ 400) ∧ (testType = 2 ∨ testType = 4 → i = 400) := by
  intro a member told
  obtain ⟨⟨_, past⟩, serves, _, _⟩ := given run a member
  have registered : st.Registers a.request :=
    paid_authorized past a.thread a.request serves ((answer_paid run member).mp told)
  obtain ⟨j, name⟩ := asked a.request ((requests run).answered a member)
  obtain ⟨i, drawn⟩ := Int.eq_ofNat_of_zero_le (prepareTestData_nonneg testType rand j)
  rw [drawn] at name
  have within : 1 ≤ i ∧ i ≤ 400 := by
    rw [Stores.Registers, name] at registered
    exact peopled.knows registered
  refine ⟨i, name, within, fun kind => ?_⟩
  have above := prepareTestData_unregistered kind rand j
  omega

def testUsers : List (Str × Str) :=
  (List.range' 1 400).map fun i : Nat => (decimal i, Prepare.md5Str Client.digest i)

/-- The 400 users in MySQL, and the last of them in Redis. -/
def lastUser : Stores := { agreeing testUsers 50 with
  redisUsers := AList.insert (decimal 400) (Prepare.md5Str Client.digest 400) ∅ }

theorem lastUser_peopled : Peopled Client.digest lastUser where
  rows row := by
    show row ∈ testUsers ↔ _
    rw [testUsers, List.mem_map]
    constructor
    · rintro ⟨i, member, rfl⟩
      rw [List.mem_range'_1] at member
      exact ⟨i, by omega, by omega, rfl⟩
    · rintro ⟨i, low, high, rfl⟩
      exact ⟨i, List.mem_range'_1.mpr (by omega), rfl⟩
  loaded name key found := by
    have found : (AList.insert (decimal 400) (Prepare.md5Str Client.digest 400)
      (∅ : Hash)).lookup name = some key := found
    by_cases last : name = decimal 400
    · subst last
      rw [AList.lookup_insert] at found
      cases found
      exact List.mem_map.mpr ⟨400, List.mem_range'_1.mpr (by omega), rfl⟩
    · rw [AList.lookup_insert_ne last] at found
      cases found
  digits _ _ _ _ same := Char.ext (UInt32.toNat_inj.mp same)

/-- In a test of unregistered users, user 400 is drawn and gets a unit. -/
theorem test_sells_registered_400 :
    ∃ h cfg, Run anything (boot lastUser) h cfg ∧ (ones h).length = 1 ∧
      ∀ a ∈ answers h, a.result = one → ∃ i : Nat, a.request.usrname = decimal i ∧
        (1 ≤ i ∧ i ≤ 400) ∧ ((2 : Int) = 2 ∨ (2 : Int) = 4 → i = 400) := by
  have ran : ((replay (fun _ _ _ => true)
      (serves 0 ⟨0, decimal 400, clientKey Client.digest 400⟩ .ok .ok) []
        (initial (boot lastUser))).any fun x =>
          (ones x.1).length == 1 &&
            (delivered x.1).map Request.usrname == [decimal 400]) = true := by decide +kernel
  obtain ⟨⟨h, cfg⟩, played, after⟩ := (Option.any_eq_true _ _).mp ran
  simp only [Bool.and_eq_true, beq_iff_eq] at after
  have run : Run anything _ h cfg := replay_meets played
  have asked : ∀ q ∈ delivered h, ∃ j, q.usrname = decimal (prepareTestData 2 (fun _ => 0) j) := by
    intro q member
    have named : q.usrname ∈ [decimal 400] := after.2 ▸ List.mem_map_of_mem member
    exact ⟨0, List.mem_singleton.mp named⟩
  exact ⟨h, cfg, run, after.1, test_sells_registered lastUser_peopled run asked⟩

end Seckill

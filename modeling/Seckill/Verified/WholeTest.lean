import Seckill.Verified.BufferSizes
import Seckill.Verified.Client
import Seckill.Verified.HonestAudit
import Seckill.Verified.Preparation

/-! # The whole test

The client and the server together: the requests are for the users that `prepareTestData` draws,
with the keys that `onSeckill` makes, the replies are the server's answers, and the audit runs on the
database that the server leaves.  Decimal names and hexadecimal keys are verbatim, so after an honest
run whatever thread comes to audit has a count that the audit accepts, if it can read the names.
-/

namespace Seckill

open CStr CallTree Threads

variable {st : Stores} {h : History server} {cfg : Config server} {rand : Nat → Nat}
  {testType : Int} {generateMD5 : Str → Fin 16 → UInt8} {total : Nat}
  {hc : History (testClient generateMD5 total)} {client : Config (testClient generateMD5 total)}

/-! ## The requests of the client -/

theorem hexDigit_single (n : Nat) (digit : n < 16) :
    (Nat.digitChar n).utf8Size = 1 ∧ Nat.digitChar n ≠ nul := by
  have all : ∀ n : Fin 16, (Nat.digitChar n).utf8Size = 1 ∧ Nat.digitChar n ≠ nul := by decide
  exact all ⟨n, digit⟩

theorem hex_single (byte : UInt8) : ∀ c ∈ Prepare.hex byte, c.utf8Size = 1 ∧ c ≠ nul := by
  have small : byte.toNat < 256 := byte.toNat_lt
  intro c member
  simp only [Prepare.hex, List.mem_cons, List.not_mem_nil, or_false] at member
  obtain rfl | rfl := member
  · exact hexDigit_single _ (by omega)
  · exact hexDigit_single _ (by omega)

theorem bytes_flatMap_hex (l : List UInt8) : bytes (l.flatMap Prepare.hex) = 2 * l.length := by
  induction l with
  | nil => rfl
  | cons byte l ih =>
    have two : bytes (Prepare.hex byte) = 2 := by
      have single := fun c member => (hex_single byte c member).1
      rw [bytes, List.map_congr_left single]
      rfl
    rw [List.flatMap_cons, bytes_append, ih, two, List.length_cons]
    omega

/-- What the client sends for a user that it has drawn reaches MySQL as it is. -/
theorem client_verbatim {i : Int} (drawn : 0 ≤ i ∧ i < 800) (w : WorkerId) :
    Request.Verbatim ⟨w, decimal i, clientKey generateMD5 i⟩ := by
  obtain ⟨n, rfl⟩ := Int.eq_ofNat_of_zero_le drawn.1
  have name : bytes (decimal n) ≤ 11 := bytes_decimal drawn.1 (drawn.2.le.trans (by decide))
  have key : bytes (clientKey generateMD5 n) = 32 := by
    rw [clientKey, Prepare.toString, bytes_flatMap_hex, List.length_ofFn]
  have whole : cStr (clientKey generateMD5 n) = clientKey generateMD5 n := by
    apply List.takeWhile_eq_self_iff.mpr
    intro c member
    obtain ⟨byte, _, member⟩ := List.mem_flatMap.mp member
    simpa using (hex_single byte c member).2
  refine ⟨⟨cStr_decimal n, decimal_plain n⟩, ⟨whole, md5Str_plain n⟩, ?_⟩
  show bytes (decimal n) + bytes (clientKey generateMD5 n) ≤ 130
  omega

theorem prepareTestData_range (testType : Int) (rand : Nat → Nat) (j : Nat) :
    0 ≤ prepareTestData testType rand j ∧ prepareTestData testType rand j < 800 := by
  constructor <;> (unfold prepareTestData; split_ifs <;> omega)

/-- Every number that is drawn is an `int`. -/
theorem prepareTestData_int (testType : Int) (rand : Nat → Nat) (j : Nat) :
    ∃ i : Int32, prepareTestData testType rand j = i.toInt := by
  obtain ⟨low, high⟩ := prepareTestData_range testType rand j
  refine ⟨Int32.ofInt (prepareTestData testType rand j), ?_⟩
  rw [Int32.toInt_ofInt_of_le (by omega) (by omega)]

/-- The requests are those of threads of the client. -/
def FromTest (generateMD5 : Str → Fin 16 → UInt8) (testType : Int) (rand : Nat → Nat) (total : Nat)
    (h : History server) : Prop :=
  ∀ q ∈ delivered h, ∃ t < total, q.usrname = decimal (prepareTestData testType rand t) ∧
    q.usrkey = clientKey generateMD5 (prepareTestData testType rand t)

theorem FromTest.verbatim (asked : FromTest generateMD5 testType rand total h) :
    ∀ q ∈ delivered h, q.Verbatim := by
  intro q member
  obtain ⟨t, _, name, key⟩ := asked q member
  obtain ⟨w, usrname, usrkey⟩ := q
  cases name
  cases key
  exact client_verbatim (prepareTestData_range testType rand t) w

theorem FromTest.numbered (asked : FromTest generateMD5 testType rand total h) :
    ∀ q ∈ delivered h, q.Numbered := by
  intro q member
  obtain ⟨t, _, name, _⟩ := asked q member
  obtain ⟨i, int⟩ := prepareTestData_int testType rand t
  exact ⟨i, by rw [name, int]⟩

/-! ## Both together -/

/-- The replies "1" to the client are the answers "1" of the server. -/
theorem successes_ones (run : Run (meets undivided) (boot st) h cfg)
    (told : ((List.range total).map fun t => Client.replyOf t hc).Perm
      ((answers h).map fun a => some a.result)) :
    Client.successes total hc = (ones h).length := by
  let hit : Option Str → Bool := fun reply => reply.any fun reply => atoi reply == 1
  have counted : Client.successes total hc =
      ((List.range total).map fun t => Client.replyOf t hc).countP hit := by
    rw [List.countP_map]
    exact Client.tally_countP
  rw [counted, told.countP_eq, List.countP_map, ones, ← List.countP_eq_length_filter]
  apply List.countP_congr
  -- the server answers "1" or "0", and `atoi` tells these apart
  intro a member
  obtain ⟨result, _⟩ | ⟨result, _⟩ := (given run a member).answers
  · rw [Function.comp_apply, result]
    decide
  · rw [Function.comp_apply, result]
    decide

/-- Whatever numbers are drawn, an honest run from fifty units passes the test: when every request
    is answered, the audit accepts each count that the client audits, and one is audited before the
    last thread returns. -/
theorem whole_test_passes {other : Dialect} {cfg : Config (textServer other)} {heap : Heap}
    (stock : st.gTotalcount = some 50) (empty : st.orderInfo = [])
    (run : Run (M := textServer other) (meets undivided) (boot st) h cfg) (rest : AtRest h)
    (small : total < 2147483648)
    (ran : Run (meets (Client.once total (prepareTestData testType rand))) {} hc client)
    (asked : FromTest generateMD5 testType rand total h)
    (told : ((List.range total).map fun t => Client.replyOf t hc).Perm
      ((answers h).map fun a => some a.result))
    (readable : Readable heap cfg.state) :
    (∀ n ∈ Client.audits hc, (checkSeckillInfoIn heap n).Ends (finalDatabase cfg.state).exec none
      fun verdict _ => verdict = true) ∧
      (0 < total → Client.AllReturned total hc client → Client.audits hc ≠ []) := by
  have honest := run_server run asked.verbatim
  have closed : Closed 50 h cfg.state :=
    books_closed (by decide) stock empty And.left And.right (undivided_run honest) rest
  refine ⟨fun n member => ?_, Client.last_audits small ran⟩
  have count := (Client.audited small ran n member).2
  apply (closed.verdict asked.numbered readable n).mono
  intro verdict _ answer
  rw [answer, count, successes_ones honest told]

/-- Users 7 and 8, with the keys that the client makes. -/
def drawnUsers : Stores :=
  agreeing [(decimal 7, clientKey Client.digest 7), (decimal 8, clientKey Client.digest 8)] 50

/-- Users 7 and 8 are drawn; one of them gets a unit, and the `UPDATE` for the other fails. -/
theorem whole_test_passes_two :
    ∃ (h : History server) (cfg : Config (textServer allKeys))
      (hc : History (testClient Client.digest 2)) (client : Config (testClient Client.digest 2)),
      Run (M := textServer allKeys) (meets undivided) (boot drawnUsers) h cfg ∧
      Run (meets (Client.once 2 (prepareTestData 5 fun j => j + 7))) {} hc client ∧
      (ones h).length = 1 ∧ Client.audits hc = [1, 1] ∧
      (∀ n ∈ Client.audits hc, (checkSeckillInfoIn some n).Ends (finalDatabase cfg.state).exec none
        fun verdict _ => verdict = true) ∧
        (0 < 2 → Client.AllReturned 2 hc client → Client.audits hc ≠ []) := by
  have served : ((replay (M := textServer allKeys) undivided
      (serves 0 ⟨0, decimal 7, clientKey Client.digest 7⟩ .ok .ok ++
        serves 1 ⟨1, decimal 8, clientKey Client.digest 8⟩ .fail .ok ++ go 1 2) []
      (initial (boot drawnUsers))).any fun x => allAnswered x.1 &&
        delivered x.1 == [⟨1, decimal 8, clientKey Client.digest 8⟩,
          ⟨0, decimal 7, clientKey Client.digest 7⟩] &&
        (answers x.1).map Answer.result == [zero, one] && (ones x.1).length == 1) = true := by
    decide +kernel
  have tested : ((replay (Client.once 2 (prepareTestData 5 fun j => j + 7))
      (Client.asks 0 7 one 6 ++ Client.asks 1 8 zero 4 ++
        [.go 0 .ok, .go 0 .ok, .go 1 .ok, .go 1 .ok, .go 0 (.verdict true), .go 1 (.verdict true)])
      [] (initial {})).any fun x => Client.audits x.1 == [1, 1] &&
        (List.range 2).map (fun t => Client.replyOf t x.1) == [some one, some zero]) = true := by
    decide +kernel
  obtain ⟨⟨h, cfg⟩, played, after⟩ := (Option.any_eq_true _ _).mp served
  obtain ⟨⟨hc, client⟩, played', after'⟩ := (Option.any_eq_true _ _).mp tested
  simp only [Bool.and_eq_true, beq_iff_eq] at after after'
  obtain ⟨⟨⟨answered, drawn⟩, results⟩, units⟩ := after
  obtain ⟨audits, replies⟩ := after'
  have run : Run (M := textServer allKeys) (meets undivided) _ h cfg := replay_meets played
  have ran : Run (meets (Client.once 2 (prepareTestData 5 fun j => j + 7))) {} hc client :=
    replay_meets played'
  have asked : FromTest Client.digest 5 (fun j => j + 7) 2 h := by
    have seven : prepareTestData 5 (fun j => j + 7) 0 = 7 := by decide
    have eight : prepareTestData 5 (fun j => j + 7) 1 = 8 := by decide
    unfold FromTest
    rw [drawn]
    intro q member
    obtain rfl | rfl := List.mem_pair.mp member
    · refine ⟨1, by decide, ?_⟩
      rw [eight]
      exact ⟨rfl, rfl⟩
    · refine ⟨0, by decide, ?_⟩
      rw [seven]
      exact ⟨rfl, rfl⟩
  have told : ((List.range 2).map fun t => Client.replyOf t hc).Perm
      ((answers h).map fun a => some a.result) := by
    have each : ((answers h).map fun a => some a.result) = [some zero, some one] :=
      List.map_map.symm.trans (congrArg (List.map some) results)
    rw [replies, each]
    exact List.Perm.swap _ _ _
  have rest : AtRest h := allAnswered_rest (run_server run asked.verbatim) answered
  exact ⟨h, cfg, hc, client, run, ran, units, audits,
    whole_test_passes rfl rfl run rest (by decide) ran asked told fun _ _ => rfl⟩

end Seckill

import Seckill.Verified.OneAnswer
import Seckill.Verified.Parts
import Seckill.Verified.Texts

/-! # What is formatted into 200 bytes

Which texts fit, statement by statement, and then which of them a request reaches: on the Redis
path an `INSERT` with a name and key that `usr_info` has, on the other path also the two `SELECT`s,
the first with any name at all.  `statements_fit_iff` puts the two together.
-/

namespace Seckill

open CStr CallTree CallTree.Prog

/-! ## The texts -/

variable {name key : Str} {n : Int}

theorem cStr_cStr (s : Str) : cStr (cStr s) = cStr s := by
  simp only [cStr, List.takeWhile_takeWhile, and_self, Bool.decide_eq_true]

theorem selectUsrKey_fits_iff :
    (Stmt.selectUsrKey name).Fits ↔ bytes (cStr name) ≤ 152 := by
  have text : spliced selUsrKeyFormat [name] =
      selUsrKeyFormat.take 46 ++ (cStr name ++ selUsrKeyFormat.drop 48) := rfl
  have size : bytes (selUsrKeyFormat.take 46) = 46 ∧ bytes (selUsrKeyFormat.drop 48) = 1 := by decide
  simp only [Stmt.Fits, Stmt.formatted, Option.some.injEq, forall_eq', text, bytes_append, size,
    bufferSize]
  omega

theorem selectOrder_fits_iff : (Stmt.selectOrder name).Fits ↔ bytes (cStr name) ≤ 145 := by
  have text : spliced selOrderFormat [name] =
      selOrderFormat.take 42 ++ (cStr name ++ selOrderFormat.drop 44) := rfl
  have size : bytes (selOrderFormat.take 42) = 42 ∧ bytes (selOrderFormat.drop 44) = 12 := by decide
  simp only [Stmt.Fits, Stmt.formatted, Option.some.injEq, forall_eq', text, bytes_append, size,
    bufferSize]
  omega

theorem insertOrder_fits_iff :
    (Stmt.insertOrder name key).Fits ↔ bytes (cStr name) + bytes (cStr key) ≤ 130 := by
  have text : spliced insertOrderFormat [name, key] =
      insertOrderFormat.take 59 ++ (cStr name ++ (insertOrderFormat.extract 61 64 ++
        (cStr key ++ insertOrderFormat.drop 66))) := rfl
  have size : bytes (insertOrderFormat.take 59) = 59 ∧ bytes (insertOrderFormat.extract 61 64) = 3 ∧
      bytes (insertOrderFormat.drop 66) = 7 := by decide
  simp only [Stmt.Fits, Stmt.formatted, Option.some.injEq, forall_eq', text, bytes_append, size,
    bufferSize]
  omega

theorem bytes_toDigits {k : Nat} : bytes (Nat.toDigits 10 k) = (Nat.toDigits 10 k).length := by
  have single : ∀ c ∈ Nat.toDigits 10 k, c.utf8Size = 1 := by
    intro c member
    have digit : c.isDigit = true := Nat.isDigit_of_mem_toDigits (by decide) (by decide) member
    simp only [Char.isDigit, Bool.and_eq_true, decide_eq_true_eq, ge_iff_le,
      UInt32.le_iff_toNat_le] at digit
    apply Char.utf8Size_eq_one_iff.mpr
    rw [UInt32.le_iff_toNat_le]
    exact digit.2.trans (by decide)
  have sizes : (Nat.toDigits 10 k).map Char.utf8Size =
      List.replicate (Nat.toDigits 10 k).length 1 := by
    rw [List.map_congr_left single, List.map_const']
  rw [bytes, sizes]
  exact List.sum_replicate_nat.trans (Nat.mul_one _)

/-- The decimal text of an `int` has at most eleven characters. -/
theorem bytes_decimal (low : 0 ≤ n) (high : n ≤ intMax) : bytes (decimal n) ≤ 11 := by
  have short {k : Nat} (small : k < 10 ^ 10) : bytes (Nat.toDigits 10 k) ≤ 10 := by
    rw [bytes_toDigits]
    exact (Nat.length_toDigits_le_iff (by decide) (by decide)).mpr small
  cases n with
  | ofNat k =>
    have small : k < 10 ^ 10 := by
      change (k : Int) ≤ 2147483647 at high
      omega
    exact (short small).trans (by decide)
  | negSucc k =>
    have small : k + 1 < 10 ^ 10 := by omega
    have sign : bytes ['-'] = 1 := by decide
    have text : decimal (.negSucc k) = ['-'] ++ Nat.toDigits 10 (k + 1) := rfl
    rw [text, bytes_append, sign]
    have digits := short small
    omega

theorem bytes_updateGoodsText : bytes (updateGoodsText n) = 37 + bytes (decimal n) + 19 := by
  have before : bytes "UPDATE goods_info SET g_totalcount = ".toList = 37 := by decide +kernel
  have after : bytes " WHERE g_id = '10' ".toList = 19 := by decide +kernel
  have parts {s t u : Str} : bytes (s ++ t ++ u) = bytes s + bytes t + bytes u := by
    rw [bytes_append, bytes_append]
  exact parts.trans (by rw [before, after])

theorem updateText_fits (low : 0 ≤ n) (high : n ≤ intMax) :
    (Stmt.updateGoods n).Fits := by
  have number := bytes_decimal low high
  intro text formatted
  rw [← Option.some.inj formatted, bytes_updateGoodsText, bufferSize]
  omega

/-! ## The stores -/

variable {weight : Char → Nat} {usrInfo : List (Str × Str)} {env : Replier} {this : WorkerId}
  {redisconn : Option ConnId} {m : SessId}

/-- Redis has of `usr_info` what was loaded into it, and MySQL selects its rows by the collation.
    What MySQL makes of a name that is not verbatim, which may be no text of this statement, is
    left open. -/
structure Lists (weight : Char → Nat) (usrInfo : List (Str × Str)) (env : Replier) : Prop where
  hget : ∀ past c field v, env past (.redis (.command c (.hget .usrInfo field))) = some (some (.string v)) →
    ∃ u ∈ usrInfo, cStr u.1 = field ∧ cStr u.2 = v
  select : ∀ past m name rows, Verbatim name →
    env (⟨.mysql (.query m (.selectUsrKey name)), false⟩ :: past) (.mysql (.fetchRows m)) = some rows →
    ∀ row ∈ rows, ∃ u ∈ usrInfo, collate weight u.1 = collate weight name ∧ row = [u.2]

/-- `usr_info` has this name with this key, as Redis compares names. -/
def InRedis (usrInfo : List (Str × Str)) (usrName usrKey : Str) : Prop :=
  ∃ u ∈ usrInfo, cStr u.1 = cStr usrName ∧ cStr u.2 = usrKey

/-- `usr_info` has this name with this key, as MySQL compares names; with a name that is not verbatim
    any key may be selected. -/
def InMysql (weight : Char → Nat) (usrInfo : List (Str × Str)) (usrName usrKey : Str) : Prop :=
  if Verbatim (cStr usrName) then
    ∃ u ∈ usrInfo, collate weight u.1 = collate weight (cStr usrName) ∧ cStr u.2 = usrKey
  else cStr usrKey = usrKey

/-- If the call formats a statement, the text fits the buffer. -/
def Call.Formats : Call → Prop
  | .mysql (.query _ stmt) => stmt.Fits
  | _ => True

/-- Whatever is formatted for the request fits. -/
def StatementsFit (weight : Char → Nat) (usrInfo : List (Str × Str)) (this : WorkerId)
    (usrName usrKey : Str) (redisconn : Option ConnId) : Prop :=
  ∀ m env, Lists weight usrInfo env →
    ∀ x ∈ ((serveRequest this usrName usrKey redisconn (some m)).drive env []).1, x.1.Formats

/-- Who passes the check is in `usr_info`, as far as the path can tell. -/
def Passes (weight : Char → Nat) (usrInfo : List (Str × Str)) (usrName usrKey : Str) :
    Option ConnId → Prop
  | some _ => InRedis usrInfo usrName usrKey
  | none => InMysql weight usrInfo usrName usrKey

/-- The name and the key are as short as the path needs them: two `SELECT`s only without Redis, the
    `INSERT` on both paths, and all but the first only for who passes the check. -/
structure ShortEnough (weight : Char → Nat) (usrInfo : List (Str × Str)) (usrName usrKey : Str)
    (redisconn : Option ConnId) : Prop where
  check : redisconn = none → bytes (cStr usrName) ≤ 152
  order : Passes weight usrInfo usrName usrKey redisconn → redisconn = none →
    bytes (cStr usrName) ≤ 145
  insert : Passes weight usrInfo usrName usrKey redisconn →
    bytes (cStr usrName) + bytes (cStr usrKey) ≤ 130

/-! ## Short texts fit -/

theorem Call.NoMysql.formats : ∀ c : Call, c.NoMysql → c.Formats
  | .mysql _, asked => absurd asked id
  | .redis _, _ | .counter _, _ | .grpc _, _ | .crash _, _ => trivial

theorem Call.Asks.formats (c : Call) (asks : c.Asks) : c.Formats :=
  Call.NoMysql.formats c (Call.Quiet.noMysql c (Call.Asks.quiet c asks))

theorem Call.Books.formats (c : Call) (books : c.Books) : c.Formats :=
  Call.NoMysql.formats c (Call.Books.noMysql c books)

theorem answer_formats {result : Str} : (setResult this result).Only Call.Formats :=
  ⟨trivial, fun _ => trivial⟩

theorem seckillGoodsMysql_formats (short : bytes (cStr name) + bytes (cStr key) ≤ 130) :
    (seckillGoodsMysql this name key (some m)).Only Call.Formats := by
  apply seckillGoodsMysql_only
  · intro c _ other
    rcases c with c | c | c | c | why
    · trivial
    · cases c with
      | query m stmt => exact absurd rfl (other m stmt)
      | _ => trivial
    · trivial
    · trivial
    · trivial
  · intro m text formatted
    cases formatted
  · intro m n low high
    exact updateText_fits low high
  · intro m
    rw [← cStr_cStr name, ← cStr_cStr key] at short
    exact insertOrder_fits_iff.mpr short

theorem seckillGoods_formats (short : bytes (cStr name) + bytes (cStr key) ≤ 130) :
    (seckillGoods this name key redisconn (some m) 0).Only Call.Formats := by
  cases redisconn with
  | none => exact seckillGoodsMysql_formats short
  | some c =>
    exact seckillGoodsFrom_only Call.Asks.formats Call.Books.formats (seckillGoodsMysql_formats short)
      answer_formats

/-! ## Who passes the check -/

theorem checkUserInfo_redis (lists : Lists weight usrInfo env) {c : ConnId}
    {past : List (Exchange Call Call.Reply)} :
    (checkUserInfo name key (some c) (some m)).Says env past fun o _ =>
      o = .returned true → InRedis usrInfo name key := by
  apply Says.call
  · intro confirmReply answered
    rcases confirmReply with _ | (_ | _ | _ | str | _ | _)
    case some.string =>
      apply Says.ret
      intro passed
      obtain ⟨u, member, sameName, sameKey⟩ := lists.hget _ _ _ _ answered
      have same : key = cStr str := by simpa using passed
      exact ⟨u, member, sameName, by rw [same, ← sameKey, cStr_cStr]⟩
    all_goals
      apply Says.ret
      simp
  · intro _
    simp

theorem checkUserInfo_mysql (lists : Lists weight usrInfo env)
    {past : List (Exchange Call Call.Reply)} :
    (checkUserInfo name key none (some m)).Says env past fun o _ =>
      o = .returned true → InMysql weight usrInfo name key := by
  apply Says.call
  · intro selError _
    cases selError with
    | true =>
      apply Says.ret
      simp
    | false =>
      -- passed by some row that was selected, whose key is the request's
      apply Says.call
      · intro rows answered
        apply Says.ret
        intro passed
        have found : (rows.any fun row => row.head?.map cStr == some key) = true := by
          injection passed
        obtain ⟨row, member, selected⟩ := List.any_eq_true.mp found
        rw [InMysql]
        split
        next verbatim =>
          obtain ⟨u, registered, same, rfl⟩ := lists.select _ _ _ _ verbatim answered row member
          exact ⟨u, registered, same, by simpa using selected⟩
        · -- any row may have been selected, but the key is a text without NUL
          cases row with
          | nil => simp at selected
          | cons v _ =>
            have same : cStr v = key := by simpa using selected
            rw [← same, cStr_cStr]
      · simp
  · simp

theorem checkUserInfo_formats (short : redisconn = none → bytes (cStr name) ≤ 152) :
    (checkUserInfo name key redisconn (some m)).Only Call.Formats := by
  cases redisconn with
  | some c => exact checkUserInfo_asks.mono Call.Asks.formats
  | none =>
    refine ⟨?_, fun selError => ?_⟩
    · apply selectUsrKey_fits_iff.mpr
      rw [cStr_cStr]
      exact short rfl
    · cases selError with
      | true => exact trivial
      | false => exact ⟨trivial, fun _ => trivial⟩

theorem checkUserHasGot_formats (short : redisconn = none → bytes (cStr name) ≤ 145) :
    (checkUserHasGot name redisconn (some m)).Only Call.Formats := by
  cases redisconn with
  | some c => exact checkUserHasGot_asks.mono Call.Asks.formats
  | none =>
    have after (hasgot : Bool) :
        (do let _ ← mysqlAutocommit (some m) true; pure hasgot : Code Bool).Only Call.Formats :=
      ⟨trivial, fun _ => trivial⟩
    refine ⟨trivial, fun _ => ⟨?_, fun error => ?_⟩⟩
    · apply selectOrder_fits_iff.mpr
      rw [cStr_cStr]
      exact short rfl
    · cases error with
      | true => exact after false
      | false => exact ⟨trivial, fun rows => after _⟩

theorem checkUserInfo_passes (lists : Lists weight usrInfo env)
    {past : List (Exchange Call Call.Reply)} :
    (checkUserInfo name key redisconn (some m)).Says env past fun o _ =>
      o = .returned true → Passes weight usrInfo name key redisconn := by
  cases redisconn with
  | some c => exact checkUserInfo_redis lists
  | none => exact checkUserInfo_mysql lists

/-! ## The request -/

theorem serveRequest_formats (lists : Lists weight usrInfo env)
    (short : ShortEnough weight usrInfo name key redisconn) :
    (serveRequest this name key redisconn (some m)).Says env [] fun _ said =>
      ∀ x ∈ said, x.1.Formats := by
  apply ((checkUserInfo_formats short.check).said.and (checkUserInfo_passes lists)).bind
  · intro registered said checked
    have served {p : Code Unit} (only : p.Only Call.Formats) :
        p.Says env (said ++ []) fun _ said' => ∀ x ∈ said' ++ said, x.1.Formats := by
      apply only.said.mono
      intro o said' after
      exact List.forall_mem_append.mpr ⟨after.1, checked.1.1⟩
    cases registered with
    | false => exact served answer_formats
    | true =>
      -- only who passed comes to the other statements
      have passes := checked.2 rfl
      apply served
      apply (checkUserHasGot_formats (short.order passes)).bind
      intro hasgot
      cases hasgot with
      | true => exact answer_formats
      | false => exact seckillGoods_formats (short.insert passes)
  · intro c said stopped
    exact stopped.1.1

/-! ## A sale -/

/-- Stores with this `usr_info` that let the request through, where they can. -/
def selling (weight : Char → Nat) (usrInfo : List (Str × Str)) (usrKey : Str) : Replier
  | _, .redis (.command _ (.hget .usrInfo field)) =>
    some (some (if ∃ u ∈ usrInfo, cStr u.1 = field ∧ cStr u.2 = usrKey then .string usrKey else .nil))
  | ⟨.mysql (.query _ (.selectUsrKey name)), _⟩ :: _, .mysql (.fetchRows _) =>
    some (if Verbatim name then
      (usrInfo.filter fun u => collate weight u.1 = collate weight name).map fun u => [u.2]
    else [[usrKey]])
  | ⟨.mysql (.query _ (.selectOrder _)), _⟩ :: _, .mysql (.fetchRows _) => some []
  | past, c => polite past c

theorem selling_lists : Lists weight usrInfo (selling weight usrInfo key) where
  hget := by
    intro past c field v answered
    have reply : (if ∃ u ∈ usrInfo, cStr u.1 = field ∧ cStr u.2 = key then RedisReply.string key
        else .nil) = .string v := Option.some.inj (Option.some.inj answered)
    split at reply
    next found =>
      cases reply
      exact found
    · cases reply
  select := by
    intro past m name rows verbatim answered row member
    have same : (if Verbatim name then
        (usrInfo.filter fun u => collate weight u.1 = collate weight name).map fun u => [u.2]
      else [[key]]) = rows := Option.some.inj answered
    rw [if_pos verbatim] at same
    rw [← same] at member
    obtain ⟨u, matched, rfl⟩ := List.mem_map.mp member
    obtain ⟨registered, collated⟩ := List.mem_filter.mp matched
    exact ⟨u, registered, by simpa using collated, rfl⟩

variable {past : List (Exchange Call Call.Reply)}

theorem selling_registered (passes : Passes weight usrInfo name key redisconn) :
    ((checkUserInfo name key redisconn (some m)).drive (selling weight usrInfo key) past).2 =
      .returned true := by
  cases redisconn with
  | some c =>
    have known : ∃ u ∈ usrInfo, cStr u.1 = cStr name ∧ cStr u.2 = key := passes
    have whole : key = cStr key := by
      obtain ⟨u, _, _, rfl⟩ := known
      exact (cStr_cStr u.2).symm
    have answered : selling weight usrInfo key past
        (.redis (.command c (.hget .usrInfo (cStr name)))) = some (some (.string key)) := by
      show some (some (if _ then RedisReply.string key else .nil)) = _
      rw [if_pos known]
    refine (congrArg Prod.snd (drive_answered answered)).trans ?_
    show Outcome.returned (key == cStr key) = _
    rw [← whole, beq_self_eq_true]
  | none =>
    show Outcome.returned (List.any (if Verbatim (cStr name) then _ else _) _) = _
    congr 1
    have known : InMysql weight usrInfo name key := passes
    rw [InMysql] at known
    split at known
    next verbatim =>
      obtain ⟨u, member, same, rfl⟩ := known
      rw [if_pos verbatim]
      apply List.any_eq_true.mpr
      refine ⟨[u.2], List.mem_map_of_mem ?_, by simp⟩
      exact List.mem_filter.mpr ⟨member, by simpa using same⟩
    next quoted => simp [quoted, known]

theorem selling_order :
    ((checkUserHasGot name redisconn (some m)).drive (selling weight usrInfo key) past).2 =
      .returned false := by
  cases redisconn <;> rfl

theorem selling_select : ⟨.mysql (.query m (.selectOrder (cStr name))), false⟩ ∈
    ((checkUserHasGot name none (some m)).drive (selling weight usrInfo key) past).1 :=
  .tail _ (.tail _ (.head _))

theorem selling_insert : ⟨.mysql (.query m (.insertOrder (cStr name) (cStr key))), false⟩ ∈
    ((seckillGoods this name key redisconn (some m) 0).drive (selling weight usrInfo key) past).1 := by
  cases redisconn <;> exact .tail _ (.tail _ (.tail _ (.tail _ (.head _))))

theorem selling_insert_sent (passes : Passes weight usrInfo name key redisconn) :
    ⟨.mysql (.query m (.insertOrder (cStr name) (cStr key))), false⟩ ∈
      ((serveRequest this name key redisconn (some m)).drive (selling weight usrInfo key) past).1 := by
  rw [serveRequest, drive_returned (selling_registered passes), if_pos rfl,
    drive_returned selling_order, if_neg Bool.false_ne_true]
  exact selling_insert

theorem selling_select_sent (passes : Passes weight usrInfo name key none) :
    ⟨.mysql (.query m (.selectOrder (cStr name))), false⟩ ∈
      ((serveRequest this name key none (some m)).drive (selling weight usrInfo key) past).1 := by
  rw [serveRequest, drive_returned (selling_registered passes), if_pos rfl]
  exact mem_drive_bind selling_select

theorem selling_check_sent :
    ⟨.mysql (.query m (.selectUsrKey (cStr name))), false⟩ ∈
      ((serveRequest this name key none (some m)).drive (selling weight usrInfo key) past).1 :=
  mem_drive_bind (.tail _ (.head _))

/-- In a sale that the stores allow, everything is formatted that the path can format. -/
theorem StatementsFit.short (fit : StatementsFit weight usrInfo this name key redisconn) :
    ShortEnough weight usrInfo name key redisconn where
  check := by
    rintro rfl
    have fits : (Stmt.selectUsrKey (cStr name)).Fits :=
      fit 0 _ selling_lists _ selling_check_sent
    rw [selectUsrKey_fits_iff, cStr_cStr] at fits
    exact fits
  order := by
    rintro passes rfl
    have fits : (Stmt.selectOrder (cStr name)).Fits :=
      fit 0 _ selling_lists _ (selling_select_sent passes)
    rw [selectOrder_fits_iff, cStr_cStr] at fits
    exact fits
  insert := by
    intro passes
    have fits : (Stmt.insertOrder (cStr name) (cStr key)).Fits :=
      fit 0 _ selling_lists _ (selling_insert_sent passes)
    rw [insertOrder_fits_iff, cStr_cStr, cStr_cStr] at fits
    exact fits

/-- Every statement formatted for a request fits its buffer, whatever the stores hold besides this
    `usr_info` and however they answer, exactly if the name and the key are short enough. -/
theorem statements_fit_iff (weight : Char → Nat) (usrInfo : List (Str × Str)) (this : WorkerId)
    (usrName usrKey : Str) (redisconn : Option ConnId) :
    StatementsFit weight usrInfo this usrName usrKey redisconn ↔
      ShortEnough weight usrInfo usrName usrKey redisconn := by
  constructor
  · exact StatementsFit.short
  · intro short m env lists x member
    have covered : (serveRequest this usrName usrKey redisconn (some m)).Says env [] _ :=
      serveRequest_formats lists short
    obtain ⟨said, all, fits⟩ := covered
    rw [all, List.append_nil] at member
    exact fits x member

/-- A name and a key that fill their columns are too long for the `INSERT`, and without Redis an
    unknown name may be too long for the first `SELECT`. -/
theorem statements_overflow :
    (Admits [(List.replicate 100 'n', List.replicate 100 'k')] ∧
        requestSize (List.replicate 100 'n') (List.replicate 100 'k') ≤ MAX_RECEIVE_SIZE ∧
        ¬ StatementsFit Char.toNat [(List.replicate 100 'n', List.replicate 100 'k')] 0
          (List.replicate 100 'n') (List.replicate 100 'k') (some 0)) ∧
      Admits [] ∧ requestSize (List.replicate 153 'n') ['k'] ≤ MAX_RECEIVE_SIZE ∧
        ¬ StatementsFit Char.toNat [] 0 (List.replicate 153 'n') ['k'] none := by
  refine ⟨⟨?_, by decide +kernel, ?_⟩, ?_, by decide +kernel, ?_⟩
  · simp [Admits]
  · intro fit
    exact absurd (fit.short.insert ⟨_, List.mem_singleton_self _, rfl, rfl⟩) (by decide +kernel)
  · simp [Admits]
  · intro fit
    exact absurd (fit.short.check rfl) (by decide +kernel)

end Seckill

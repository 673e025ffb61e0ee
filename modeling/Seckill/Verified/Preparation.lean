import Seckill.Model.Prepare

/-! # What `prepareForSeckill` leaves behind

The function on any stores, with every well-formed command succeeding.  The generated
`INSERT` is not well formed (`insertSql_malformed`), and no key of Redis is cleared but
`order_info`: the stores are as the server has to find them (`Established`) just where they
were `Preparable` before.
-/

namespace Seckill

open CStr CallTree CallTree.Prog SqlText Prepare

/-! ## The generated `INSERT` -/

section Insert

variable {generateMD5 : Str → Fin 16 → UInt8} {name key s : Str} {tokens : List Token} {i : Nat}

/-- The text of one row. -/
def rowText (name key : Str) : Str := "('".toList ++ name ++ "','".toList ++ key ++ "')".toList

/-- The tokens of one row. -/
def rowTokens (name key : Str) : List Token :=
  [.char '(', .literal name, .char ',', .literal key, .char ')']

/-- A text is read as these tokens, with nothing lost. -/
def ReadsAs (s : Str) (tokens : List Token) : Prop :=
  lexFrom none s = some tokens ∧ width tokens = s.length

theorem ReadsAs.char {c : Char} (other : c ≠ quote) (reads : ReadsAs s tokens) :
    ReadsAs (c :: s) (.char c :: tokens) := by
  constructor
  · rw [lexFrom, if_neg other, reads.1]
    rfl
  · rw [width_char, reads.2, List.length_cons, Nat.add_comm]

theorem head_ne_quote {c : Char} (other : c ≠ quote) : (c :: s).head? ≠ some quote :=
  fun same => other (Option.some.inj same)

theorem ReadsAs.literal (isPlain : plain name = true) (after : s.head? ≠ some quote)
    (reads : ReadsAs s tokens) :
    ReadsAs (quote :: (name ++ quote :: s)) (.literal name :: tokens) := by
  constructor
  · rw [lexFrom, if_pos rfl]
    exact (lexFrom_value after reads.2 [] name).mpr ⟨isPlain, reads.1⟩
  · rw [width_literal, reads.2]
    simp only [List.length_cons, List.length_append]
    omega

/-- A row of plain values is read as it is meant. -/
theorem ReadsAs.row (plainName : plain name = true) (plainKey : plain key = true)
    (reads : ReadsAs s tokens) : ReadsAs (rowText name key ++ s) (rowTokens name key ++ tokens) := by
  have shape : rowText name key ++ s =
      '(' :: quote :: (name ++ quote :: (',' :: quote :: (key ++ quote :: (')' :: s)))) := by
    simp only [rowText, List.append_assoc]
    rfl
  rw [shape]
  apply ReadsAs.char (by decide)
  apply ReadsAs.literal plainName (head_ne_quote (by decide))
  apply ReadsAs.char (by decide)
  apply ReadsAs.literal plainKey (head_ne_quote (by decide))
  exact ReadsAs.char (by decide) reads

theorem hexDigit_plain (n : Nat) (digit : n < 16) : Ordinary (Nat.digitChar n) := by
  have all : ∀ n : Fin 16, Ordinary (Nat.digitChar n) := by decide
  exact all ⟨n, digit⟩

theorem plain_of_ordinary {s : Str} (ordinary : ∀ c ∈ s, Ordinary c) : plain s = true := by
  induction s using plain.induct with
  | case1 => rfl
  | case2 c => simpa [plain] using ordinary c List.mem_cons_self
  | case3 d s => exact absurd rfl (ordinary backslash List.mem_cons_self).2
  | case4 c d s other ih =>
    have first := (ordinary c List.mem_cons_self).1
    have rest := ih fun e member => ordinary e (List.mem_cons_of_mem c member)
    simpa [plain, other, first] using rest

theorem decimal_plain (i : Nat) : plain (decimal i) = true := by
  apply plain_of_ordinary
  intro c member
  have digit : c.isDigit = true := Nat.isDigit_of_mem_toDigits (by decide) (by decide) member
  constructor
  · rintro rfl
    exact absurd digit (by decide)
  · rintro rfl
    exact absurd digit (by decide)

theorem md5Str_plain (i : Nat) : plain (md5Str generateMD5 i) = true := by
  apply plain_of_ordinary
  intro c member
  obtain ⟨byte, _, member⟩ := List.mem_flatMap.mp member
  have small : byte.toNat < 256 := byte.toNat_lt
  simp only [hex, List.mem_cons, List.not_mem_nil, or_false] at member
  rcases member with rfl | rfl
  · apply hexDigit_plain
    omega
  · apply hexDigit_plain
    omega

/-- What follows the row of user `i`. -/
def separator (i : Nat) : Str := if i = 300 then [] else [',']

theorem insertPart_eq :
    insertPart generateMD5 i = rowText (decimal i) (md5Str generateMD5 i) ++ separator i := by
  unfold insertPart separator rowText
  split
  · rw [List.append_nil]
  · simp only [List.append_assoc]
    rfl

def partTokens (generateMD5 : Str → Fin 16 → UInt8) (i : Nat) : List Token :=
  rowTokens (decimal i) (md5Str generateMD5 i) ++ (separator i).map .char

theorem parts_read (users : List Nat) :
    ReadsAs (users.flatMap (insertPart generateMD5)) (users.flatMap (partTokens generateMD5)) := by
  induction users with
  | nil => exact ⟨rfl, rfl⟩
  | cons i users ih =>
    rw [List.flatMap_cons, List.flatMap_cons, insertPart_eq, partTokens, List.append_assoc,
      List.append_assoc]
    apply ReadsAs.row (decimal_plain i) (md5Str_plain i)
    unfold separator
    split
    · exact ih
    · exact ReadsAs.char (by decide) ih

theorem insertSql_eq : insertSql generateMD5 =
    insertHeader ++ (List.range' 1 400).flatMap (insertPart generateMD5) := by
  have loop : ∀ (users : List Nat) (sql : Str),
      users.foldl (fun insertSql i => insertSql ++ insertPart generateMD5 i) sql =
        sql ++ users.flatMap (insertPart generateMD5) := by
    intro users
    induction users with
    | nil => simp
    | cons i users ih =>
      intro sql
      rw [List.foldl_cons, ih, List.flatMap_cons, List.append_assoc]
  exact loop _ _

/-- Rows with a comma each are passed over. -/
theorem valueRows_commas {users : List Nat} (commas : ∀ i ∈ users, i ≠ 300)
    (none_left : valueRows tokens = none) :
    valueRows (users.flatMap (partTokens generateMD5) ++ tokens) = none := by
  induction users with
  | nil => exact none_left
  | cons i users ih =>
    have comma : separator i = [','] := if_neg (commas i List.mem_cons_self)
    have rest := ih fun j member => commas j (List.mem_cons_of_mem i member)
    rw [List.flatMap_cons, partTokens, comma]
    simp only [rowTokens, List.cons_append, List.nil_append, List.map_cons, List.map_nil]
    rw [valueRows, rest, Option.map_none]

/-- Row 300 has no comma after it, so the text is no statement, whatever the digests are. -/
theorem insertSql_malformed : insertedUsers (insertSql generateMD5) = none := by
  have parts : lexFrom none ((List.range' 1 400).flatMap (insertPart generateMD5)) = _ :=
    (parts_read (List.range' 1 400)).1
  have read : lex (insertSql generateMD5) = some (insertHeader.map .char ++
      (List.range' 1 400).flatMap (partTokens generateMD5)) := by
    rw [insertSql_eq, lex, lexFrom_text (unquoted_of_all rfl), parts]
    rfl
  have open_row : valueRows ((List.range' 300 101).flatMap (partTokens generateMD5)) = none := by
    rfl
  have rejected : valueRows ((List.range' 1 400).flatMap (partTokens generateMD5)) = none := by
    have split : List.range' 1 400 = List.range' 1 299 ++ List.range' 300 101 :=
      (List.range'_append_1 (s := 1) (m := 299) (n := 101)).symm
    rw [split, List.flatMap_append]
    apply valueRows_commas _ open_row
    intro i member
    have bound := (List.mem_range'_1.mp member).2
    omega
  rw [insertedUsers, read, Option.bind_some, if_pos (List.prefix_append _ _)]
  rw [← List.length_map (f := (Token.char : Char → Token)), List.drop_left, rejected]

end Insert

/-! ## Where everything well formed succeeds -/

/-- No call fails, `SELECT * FROM usr_info` finds a table, and `HMSET` a hash or nothing. -/
structure Succeeds (works : SetupCall → Bool) (s : Setup) : Prop where
  works : ∀ c, works c = true
  table : s.db.usrInfo = none → s.db.elsewhere = false
  hash : ∀ rows, s.db.usrInfo = some rows → rows ≠ [] →
    ∀ v, s.redis usrInfoKey = some v → ∃ h, v = .hash h

/-- The key that the rows leave in Redis under a name: that of the last row with this name, both
    up to their first NUL. -/
def written (rows : List (Str × Str)) (name : Str) : Option Str :=
  (rows.reverse.find? fun row => cStr row.1 == name).map fun row => cStr row.2

variable {works : SetupCall → Bool} {s s' : Setup} {m : SessId} {c : ConnId}
  {rows : List (Str × Str)}

theorem query_ends (all : ∀ c, works c = true) (stmt : SetupStmt) :
    (query (some m) stmt).Ends (Setup.exec works) s fun failed s' =>
      failed = (s.db.run stmt).1 ∧
        s' = { s with db := (s.db.run stmt).2.1, result := (s.db.run stmt).2.2 } := by
  refine ⟨_, _, ?_, rfl, rfl⟩
  simp [query, setup, perform, alone, Setup.exec, all]

theorem fetchRows_ends (all : ∀ c, works c = true) :
    (fetchRows (some m)).Ends (Setup.exec works) s fun result s' =>
      result = s.result ∧ s' = { s with result := [] } := by
  refine ⟨_, _, ?_, rfl, rfl⟩
  simp [fetchRows, setup, perform, alone, Setup.exec, all]

theorem command_ends (all : ∀ c, works c = true) (cmd : SetupCmd) :
    (command (some c) cmd).Ends (Setup.exec works) s fun reply s' =>
      reply = some (s.runCmd cmd).1 ∧ s' = (s.runCmd cmd).2 := by
  refine ⟨_, _, ?_, rfl, rfl⟩
  simp [command, setup, perform, alone, Setup.exec, all]

theorem written_cons (row : Str × Str) (rows : List (Str × Str)) (name : Str) :
    written (row :: rows) name =
      (written rows name).or (if cStr row.1 = name then some (cStr row.2) else none) := by
  unfold written
  rw [List.reverse_cons, List.find?_append]
  cases rows.reverse.find? fun row => cStr row.1 == name with
  | some last => rfl
  | none => by_cases same : cStr row.1 = name <;> simp [same]

/-- A hash or nothing takes a field. -/
theorem runCmd_hmset {key field value : Str} (hash : ∀ v, s.redis key = some v → ∃ h, v = .hash h) :
    s.runCmd (.hmset key field value) =
      (.status okText, s.setKey key (some (.hash ((fields (s.redis key)).insert field value)))) := by
  cases held : s.redis key with
  | none => simp [Setup.runCmd, held, fields]
  | some v =>
    obtain ⟨h, rfl⟩ := hash v held
    simp [Setup.runCmd, held, fields]

/-- What the `HMSET` loop leaves. -/
structure Loaded (rows : List (Str × Str)) (s s' : Setup) : Prop where
  db : s'.db = s.db
  pools : s'.mysqlpool = s.mysqlpool ∧ s'.redispool = s.redispool
  others : ∀ key, key ≠ usrInfoKey → s'.redis key = s.redis key
  users : ∀ name, (fields (s'.redis usrInfoKey)).lookup name =
    (written rows name).or ((fields (s.redis usrInfoKey)).lookup name)

theorem loadUsers_ends (all : ∀ c, works c = true)
    (hash : rows ≠ [] → ∀ v, s.redis usrInfoKey = some v → ∃ h, v = .hash h) :
    (loadUsers (some c) (rows.map fun row => [row.1, row.2])).Ends (Setup.exec works) s
      fun done s' => done = true ∧ Loaded rows s s' := by
  induction rows generalizing s with
  | nil => exact Ends.ret ⟨rfl, rfl, ⟨rfl, rfl⟩, fun _ _ => rfl, fun _ => rfl⟩
  | cons row rows ih =>
    rw [List.map_cons, loadUsers]
    apply Ends.bind (command_ends all _)
    rintro reply s₁ ⟨rfl, rfl⟩
    rw [runCmd_hmset (hash (by simp))]
    show Prog.Ends _ (if isOK (some (.status okText)) then _ else _) _ _
    rw [if_pos (by decide)]
    obtain ⟨done, s', ends, rfl, loaded⟩ := ih (s := s.setKey usrInfoKey
      (some (.hash ((fields (s.redis usrInfoKey)).insert (cStr row.1) (cStr row.2)))))
        fun _ v held => ⟨_, (Option.some.inj (by simpa [Setup.setKey] using held)).symm⟩
    refine ⟨true, s', ends, rfl, loaded.db, loaded.pools, fun key other => ?_, fun name => ?_⟩
    · rw [loaded.others key other]
      exact Function.update_of_ne other _ _
    · rw [loaded.users name, written_cons, Option.or_assoc]
      congr 1
      simp only [Setup.setKey, Function.update_self, fields]
      by_cases same : cStr row.1 = name
      · rw [if_pos same, ← same, AList.lookup_insert]
        rfl
      · rw [if_neg same, AList.lookup_insert_ne (fun eq => same eq.symm)]
        rfl

/-- A new table stays empty: its rows were in the malformed statement. -/
theorem seedUsers_ends {generateMD5 : Str → Fin 16 → UInt8} (all : ∀ c, works c = true)
    (absent : s.db.usrInfo = none) :
    (seedUsers generateMD5 (some m)).Ends (Setup.exec works) s fun _ s' =>
      s' = { s with db := { s.db with usrInfo := some [] }, result := [] } := by
  have malformed : insertedUsers (insertSql generateMD5) = none := insertSql_malformed
  unfold seedUsers
  generalize insertSql generateMD5 = text at malformed ⊢
  apply Ends.bind (query_ends all _)
  rintro failed s₁ ⟨rfl, rfl⟩
  apply Ends.bind (query_ends all _)
  rintro failed s₂ ⟨rfl, rfl⟩
  apply Ends.ret
  simp [Database.run, absent, malformed]

theorem closeBoth_ends :
    (closeBoth (some m) (some c)).Ends (Setup.exec works) s fun _ s' =>
      s' = { s with mysqlpool := s.mysqlpool ++ [m], redispool := s.redispool ++ [c] } :=
  Ends.call rfl (Ends.call rfl (Ends.ret rfl))

theorem totalCountKey_ne : totalCountKey ≠ orderInfoKey := by decide

/-- What `publish` leaves. -/
structure Published (m : SessId) (c : ConnId) (count : Int) (s s' : Setup) : Prop where
  db : s'.db = { s.db with orderInfo := some (s.db.orderInfo.getD []) }
  totalCount : s'.redis totalCountKey = some (.string (decimal count))
  orderInfo : s'.redis orderInfoKey = none
  others : ∀ key, key ≠ totalCountKey → key ≠ orderInfoKey → s'.redis key = s.redis key
  pools : s'.mysqlpool = s.mysqlpool ++ [m] ∧ s'.redispool = s.redispool ++ [c]

theorem publish_ends (all : ∀ c, works c = true) (count : Int) :
    (publish (some m) (some c) count).Ends (Setup.exec works) s fun _ s' =>
      Published m c count s s' := by
  have got (s : Setup) (key : Str) : (s.runCmd (.get key)).2 = s := by
    simp only [Setup.runCmd]
    split <;> rfl
  apply Ends.bind (query_ends all _)
  rintro failed s₁ ⟨rfl, rfl⟩
  apply Ends.bind (command_ends all _)
  rintro reply s₂ ⟨rfl, rfl⟩
  show Prog.Ends _ (if isOK (some (.status okText)) then _ else _) _ _
  rw [if_pos (by decide)]
  apply Ends.bind (command_ends all _)
  rintro reply s₃ ⟨rfl, rfl⟩
  rw [got]
  apply Ends.bind (command_ends all _)
  rintro reply s₄ ⟨rfl, rfl⟩
  apply Ends.mono closeBoth_ends
  intro _ s' after
  have redis : s'.redis = Function.update (Function.update s.redis totalCountKey
      (some (.string (decimal count)))) orderInfoKey none := by
    rw [after]
    rfl
  refine ⟨?_, ?_, ?_, ?_, ?_⟩
  · rw [after]
    rfl
  · rw [redis, Function.update_of_ne totalCountKey_ne, Function.update_self]
  · rw [redis, Function.update_self]
  · intro key notCount notOrders
    rw [redis, Function.update_of_ne notOrders, Function.update_of_ne notCount]
  · rw [after]
    exact ⟨rfl, rfl⟩

/-! ## The whole function -/

/-- The rows of `goods_info` after the `INSERT`, in the order in which they are read. -/
def Setup.goods (s : Setup) : List GoodsRow :=
  s.db.scan.order (s.db.upsert (s.db.goodsInfo.getD []))

/-- What `prepareForSeckill` leaves of what it finds. -/
structure Left (s s' : Setup) : Prop where
  usrInfo : s'.db.usrInfo = some (s.db.usrInfo.getD [])
  goodsInfo : s'.db.goodsInfo = some (s.db.upsert (s.db.goodsInfo.getD []))
  orderInfo : s'.db.orderInfo = some []
  weight : s'.db.weight = s.db.weight
  users : ∀ name, (fields (s'.redis usrInfoKey)).lookup name =
    (written (s.db.usrInfo.getD []) name).or ((fields (s.redis usrInfoKey)).lookup name)
  totalCount : s'.redis totalCountKey = some (.string (decimal (countGoods (s.goods.map fun row =>
    [row.gName, row.gId, decimal row.gTotalcount.toNat]))))
  orders : s'.redis orderInfoKey = none
  workList : s'.redis workListKey = s.redis workListKey
  pools : s'.mysqlpool = s.mysqlpool ++ [0] ∧ s'.redispool = s.redispool ++ [0]

/-- The state after the tables of goods and orders are dealt with. -/
def Setup.swept (s : Setup) : Setup :=
  { s with
    db := { s.db with
      goodsInfo := some (s.db.upsert (s.db.goodsInfo.getD [])), orderInfo := none }
    result := [] }

/-- A `SELECT` and the fetch of its rows. -/
theorem select_ends {α : Type} {stmt : SetupStmt} {texts : List (List Str)}
    {f : List (List Str) → SetupCode α} {post : α → Setup → Prop} (all : ∀ c, works c = true)
    (answered : s.db.run stmt = (false, s.db, texts))
    (rest : (f texts).Ends (Setup.exec works) { s with result := [] } post) :
    (do
      if ← query (some m) stmt then exit
      else
        let result ← fetchRows (some m)
        f result : SetupCode α).Ends (Setup.exec works) s post := by
  apply Ends.bind (query_ends all _)
  rintro failed s₁ ⟨rfl, rfl⟩
  rw [answered]
  apply Ends.bind (fetchRows_ends all)
  rintro result s₂ ⟨rfl, rfl⟩
  exact rest

/-- From the `SELECT` of the users on. -/
theorem load_ends (s₀ : Setup) (all : ∀ c, works c = true)
    (swept : s.db = { s₀.swept.db with usrInfo := some rows })
    (found : s₀.db.usrInfo.getD [] = rows) (redis : s.redis = s₀.redis)
    (pools : s.mysqlpool = s₀.mysqlpool ∧ s.redispool = s₀.redispool)
    (hash : rows ≠ [] → ∀ v, s₀.redis usrInfoKey = some v → ∃ h, v = .hash h) :
    (do
      if ← query (some 0) .selectUsers then exit
      else
        let searchResult ← fetchRows (some 0)
        if ← loadUsers (some 0) searchResult then
          if ← query (some 0) .selectGoods then exit
          else
            let result ← fetchRows (some 0)
            publish (some 0) (some 0) (countGoods result) : SetupCode Unit).Ends
      (Setup.exec works) s fun _ s' => Left s₀ s' := by
  have selected : s.db.run .selectUsers = (false, s.db, rows.map fun row => [row.1, row.2]) := by
    simp [Database.run, swept]
  apply select_ends all selected
  have hash' : rows ≠ [] → ∀ v, ({ s with result := [] } : Setup).redis usrInfoKey = some v →
      ∃ h, v = .hash h := by
    rw [← redis] at hash
    exact hash
  apply Ends.bind (loadUsers_ends all hash')
  rintro done s₁ ⟨rfl, loaded⟩
  -- loading the users has left the tables as they were
  have counted : s₁.db.run .selectGoods = (false, s₁.db, s₀.goods.map fun row =>
      [row.gName, row.gId, decimal row.gTotalcount.toNat]) := by
    simp [Database.run, loaded.db, swept, Setup.swept, Setup.goods]
  apply select_ends all counted
  apply Ends.mono (publish_ends all _)
  intro _ s' published
  have db : s'.db = { s₀.swept.db with usrInfo := some rows, orderInfo := some [] } := by
    rw [published.db, loaded.db, swept]
    rfl
  have users : usrInfoKey ≠ totalCountKey ∧ usrInfoKey ≠ orderInfoKey := by decide
  have work : workListKey ≠ totalCountKey ∧ workListKey ≠ orderInfoKey ∧
      workListKey ≠ usrInfoKey := by decide
  refine ⟨?_, ?_, ?_, ?_, ?_, published.totalCount, published.orderInfo, ?_, ?_⟩
  · rw [db, found]
  · rw [db]
    rfl
  · rw [db]
  · rw [db]
    rfl
  · intro name
    rw [published.others _ users.1 users.2, loaded.users name, redis, found]
  · rw [published.others _ work.1 work.2.1]
    exact (loaded.others _ work.2.2).trans (congrFun redis workListKey)
  · rw [published.pools.1, published.pools.2, loaded.pools.1, loaded.pools.2, pools.1, pools.2]
    exact ⟨rfl, rfl⟩

theorem prepareForSeckill_ends {generateMD5 : Str → Fin 16 → UInt8} (succeeds : Succeeds works s) :
    (prepareForSeckill generateMD5).Ends (Setup.exec works) s fun _ s' => Left s s' := by
  have all := succeeds.works
  unfold prepareForSeckill
  apply Ends.call (show Setup.exec works .mysqlGetOneConnect s = some (some 0, s) by
    simp [Setup.exec, all])
  apply Ends.call (show Setup.exec works .redisGetOneConnect s = some (some 0, s) by
    simp [Setup.exec, all])
  apply Ends.bind (query_ends all _)
  rintro _ s₁ ⟨_, created⟩
  apply Ends.bind (query_ends all _)
  rintro _ s₂ ⟨_, inserted⟩
  apply Ends.bind (query_ends all _)
  rintro _ s₃ ⟨_, dropped⟩
  obtain rfl : s₃ = s.swept := by
    rw [dropped, inserted, created]
    rfl
  have tables : s.swept.db.run .selectTable = (false, s.swept.db,
      if s.db.usrInfo.isSome || s.db.elsewhere then [[usrInfoKey]] else []) := rfl
  apply select_ends all tables
  cases users : s.db.usrInfo with
  | none =>
    -- no `usr_info` yet: the users are made first
    simp only [succeeds.table users, Option.isSome_none, Bool.or_self, Bool.false_eq_true, if_false]
    rw [if_pos List.isEmpty_nil]
    have absent : s.swept.db.usrInfo = none := users
    show Prog.Ends _ (seedUsers generateMD5 (some 0) >>= _) s.swept _
    apply Ends.bind (seedUsers_ends all absent)
    rintro _ s₄ rfl
    refine load_ends s all rfl ?_ ?_ ?_ ?_
    · rw [users]
      rfl
    · rfl
    · exact ⟨rfl, rfl⟩
    · exact fun some_row => absurd rfl some_row
  | some rows =>
    simp only [Option.isSome_some, Bool.true_or, if_true]
    rw [if_neg (by simp)]
    have kept : s.swept.db = { s.swept.db with usrInfo := some rows } := by
      rw [← users]
      rfl
    refine load_ends s all kept ?_ ?_ ?_ (succeeds.hash rows users)
    · rw [users]
      rfl
    · rfl
    · exact ⟨rfl, rfl⟩

/-! ## What is expected of it -/

/-- The stores are as `HandleRPCS` needs them. -/
structure Established (generateMD5 : Str → Fin 16 → UInt8) (s : Setup) (stores : Stores) : Prop where
  users : ∀ name key, stores.redisUsers.lookup name = some key ↔ (name, key) ∈ stores.usrInfo
  seeded : s.db.usrInfo = none → ∀ row, row ∈ stores.usrInfo ↔
    ∃ i : Nat, 1 ≤ i ∧ i ≤ 400 ∧ row = (decimal i, md5Str generateMD5 i)
  count : stores.totalCount = decimal 50 ∧ stores.gTotalcount = some 50
  orders : stores.redisOrders = ∅ ∧ stores.orderInfo = []
  workList : stores.workList = []

/-- The names are distinct, and no name or key holds a NUL. -/
structure Keyed (rows : List (Str × Str)) : Prop where
  distinct : (rows.map Prod.fst).Nodup
  noNul : ∀ row ∈ rows, cStr row.1 = row.1 ∧ cStr row.2 = row.2

/-- The last of the rows with this name up to its first NUL. -/
def lastNamed (rows : List (Str × Str)) (name : Str) : Option (Str × Str) :=
  rows.reverse.find? fun row => cStr row.1 == name

instance : DecidablePred Keyed := fun rows =>
  decidable_of_iff ((rows.map Prod.fst).Nodup ∧ ∀ row ∈ rows, cStr row.1 = row.1 ∧ cStr row.2 = row.2)
    ⟨fun both => ⟨both.1, both.2⟩, fun keyed => ⟨keyed.distinct, keyed.noNul⟩⟩

/-- The rows of `usr_info` and the fields that Redis has of it already fit.  Where names are distinct
    and without NUL every such field is the name of a row.  Else, under each name, the last row
    with it up to its first NUL, ended so, is a row and the only one of the name; and a name
    without any is in Redis just as it is among the rows. -/
def Carried (rows : List (Str × Str)) (h : Hash) : Prop :=
  if Keyed rows then ∀ name, (h.lookup name).isSome → ∃ key, (name, key) ∈ rows
  else
    (∀ name row, lastNamed rows name = some row → ∀ key, (name, key) ∈ rows ↔ key = cStr row.2) ∧
      ∀ name, lastNamed rows name = none → ∀ key, h.lookup name = some key ↔ (name, key) ∈ rows

/-- What `prepareForSeckill` has to find. -/
structure Preparable (s : Setup) : Prop where
  table : s.db.usrInfo ≠ none
  users : Carried (s.db.usrInfo.getD []) (fields (s.redis usrInfoKey))
  lastGoods : s.goods.getLast?.map GoodsRow.gTotalcount = some 50
  workList : elements (s.redis workListKey) = []

theorem written_iff (keyed : Keyed rows) (name key : Str) :
    written rows name = some key ↔ (name, key) ∈ rows := by
  obtain ⟨distinct, noNul⟩ := keyed
  unfold written
  constructor
  · intro last
    obtain ⟨row, found, rfl⟩ := Option.map_eq_some_iff.mp last
    have member : row ∈ rows := List.mem_reverse.mp (List.mem_of_find?_eq_some found)
    have same : (cStr row.1 == name) = true :=
      List.find?_some (p := fun row : Str × Str => cStr row.1 == name) found
    obtain ⟨whole, wholeKey⟩ := noNul row member
    rw [whole, beq_iff_eq] at same
    rw [wholeKey, ← same]
    exact member
  · intro member
    have some_row : (rows.reverse.find? fun row => cStr row.1 == name).isSome := by
      rw [List.find?_isSome]
      exact ⟨(name, key), List.mem_reverse.mpr member, by simp [(noNul _ member).1]⟩
    obtain ⟨row, found⟩ := Option.isSome_iff_exists.mp some_row
    have member' : row ∈ rows := List.mem_reverse.mp (List.mem_of_find?_eq_some found)
    have same : (cStr row.1 == name) = true :=
      List.find?_some (p := fun row : Str × Str => cStr row.1 == name) found
    rw [(noNul row member').1, beq_iff_eq] at same
    obtain rfl : row = (name, key) := List.inj_on_of_nodup_map distinct member' member same
    rw [found, Option.map_some, (noNul _ member).2]

/-- What the loop writes over the fields there are is the rows just where the two fit. -/
theorem carried_iff {h : Hash} :
    (∀ name key, (written rows name).or (h.lookup name) = some key ↔ (name, key) ∈ rows) ↔
      Carried rows h := by
  by_cases keyed : Keyed rows
  · have last := written_iff keyed
    rw [Carried, if_pos keyed]
    constructor
    · intro exact_rows name left
      cases wrote : written rows name with
      | some key => exact ⟨key, (last name key).mp wrote⟩
      | none =>
        obtain ⟨key, held⟩ := Option.isSome_iff_exists.mp left
        exact ⟨key, (exact_rows name key).mp (by rw [wrote, Option.none_or, held])⟩
    · intro known name key
      cases wrote : written rows name with
      | some key' => rw [Option.some_or, ← wrote, last]
      | none =>
        -- then the name is in neither
        have noRow (key : Str) : (name, key) ∉ rows := by
          rw [← last, wrote]
          exact (Option.some_ne_none key).symm
        have left : h.lookup name = none := by
          by_contra held
          obtain ⟨key, member⟩ := known name (Option.isSome_iff_ne_none.mpr held)
          exact noRow key member
        rw [Option.none_or, left]
        exact iff_of_false (Option.some_ne_none key).symm (noRow key)
  · rw [Carried, if_neg keyed]
    constructor
    · intro exact_rows
      refine ⟨fun name row last key => ?_, fun name none key => ?_⟩
      · have wrote : written rows name = some (cStr row.2) := congrArg (Option.map _) last
        rw [← exact_rows, wrote, Option.some_or, Option.some.injEq]
        exact eq_comm
      · have wrote : written rows name = .none := congrArg (Option.map _) none
        rw [← exact_rows, wrote, Option.none_or]
    · rintro ⟨alone, kept⟩ name key
      cases last : lastNamed rows name with
      | none =>
        have wrote : written rows name = none := congrArg (Option.map _) last
        rw [wrote, Option.none_or, kept name last]
      | some row =>
        have wrote : written rows name = some (cStr row.2) := congrArg (Option.map _) last
        rw [wrote, Option.some_or, Option.some.injEq, alone name row last]
        exact eq_comm

theorem countGoods_last (goods : List GoodsRow) :
    countGoods (goods.map fun row => [row.gName, row.gId, decimal row.gTotalcount.toNat]) =
      goods.getLast?.elim 0 fun row => atoi (decimal row.gTotalcount.toNat) := by
  induction goods using List.reverseRecOn with
  | nil => rfl
  | append_singleton goods row _ =>
    rw [List.map_append, countGoods, List.foldl_append, List.getLast?_append_of_ne_nil _ (by simp)]
    rfl

theorem count_fifty (goods : List GoodsRow) :
    decimal (countGoods (goods.map fun row => [row.gName, row.gId, decimal row.gTotalcount.toNat]))
        = decimal 50 ↔ goods.getLast?.map GoodsRow.gTotalcount = some 50 := by
  rw [countGoods_last]
  constructor
  · intro same
    have value := decimal_injective same
    cases last : goods.getLast? with
    | none =>
      rw [last] at value
      cases value
    | some row =>
      rw [last] at value
      have read : atoi (decimal row.gTotalcount.toNat) = 50 := value
      have bound : row.gTotalcount.toNat < 4294967296 := row.gTotalcount.toNat_lt
      have number : atoi (decimal row.gTotalcount.toNat) = row.gTotalcount.toNat := by
        apply atoi_decimal_of_pos <;> omega
      have fifty : row.gTotalcount.toNat = 50 := by omega
      exact congrArg some (UInt32.toNat_inj.mp fifty)
  · intro last
    obtain ⟨row, member, fifty⟩ := Option.map_eq_some_iff.mp last
    rw [member, Option.elim_some, fifty]
    exact congrArg decimal (atoi_decimal (by decide) (by decide))

theorem upsert_find (db : Database) (goods : List GoodsRow) :
    ((db.upsert goods).find? fun row => db.sameText row.gId Database.ten).map
      (fun row => row.gTotalcount.toNat) = some 50 := by
  have same : db.sameText Database.ten Database.ten = true := beq_self_eq_true _
  unfold Database.upsert
  split
  next found =>
    have kept (row : GoodsRow) : db.sameText (if db.sameText row.gId Database.ten then
        { row with gId := Database.ten, gTotalcount := 50 } else row).gId Database.ten =
          db.sameText row.gId Database.ten := by
      split
      next key => rw [same, key]
      next => rfl
    rw [List.find?_map]
    simp only [Function.comp_def, kept]
    obtain ⟨row, first⟩ :=
      Option.isSome_iff_exists.mp (List.find?_isSome.mpr (List.any_eq_true.mp found))
    have key : db.sameText row.gId Database.ten = true :=
      List.find?_some (p := fun row : GoodsRow => db.sameText row.gId Database.ten) first
    rw [first, Option.map_some, Option.map_some, if_pos key]
    rfl
  next absent =>
    have others : goods.find? (fun row => db.sameText row.gId Database.ten) = none := by
      rw [List.find?_eq_none]
      exact List.any_eq_false.mp (Bool.eq_false_iff.mpr absent)
    rw [List.find?_append, others, Option.none_or]
    simp [same]

/-- With everything well formed succeeding the function returns, and the stores are established
    just where it found them ready. -/
theorem preparation_established (generateMD5 : Str → Fin 16 → UInt8) (redisMax mysqlMax : UInt32)
    (succeeds : Succeeds works s) :
    ∃ s', (prepareForSeckill generateMD5).alone (Setup.exec works) s = some ((), s') ∧
      (Established generateMD5 s (s'.stores redisMax mysqlMax) ↔ Preparable s) := by
  obtain ⟨_, s', ends, left⟩ : (prepareForSeckill generateMD5).Ends _ s _ :=
    prepareForSeckill_ends succeeds
  refine ⟨s', ends, ?_⟩
  have rows : (s'.stores redisMax mysqlMax).usrInfo = s.db.usrInfo.getD [] := by
    simp [Setup.stores, left.usrInfo]
  have users : ∀ name, (s'.stores redisMax mysqlMax).redisUsers.lookup name =
      (written (s.db.usrInfo.getD []) name).or ((fields (s.redis usrInfoKey)).lookup name) :=
    left.users
  have count : (s'.stores redisMax mysqlMax).totalCount = decimal (countGoods (s.goods.map
      fun row => [row.gName, row.gId, decimal row.gTotalcount.toNat])) := by
    simp [Setup.stores, left.totalCount]
  have work : (s'.stores redisMax mysqlMax).workList = elements (s.redis workListKey) :=
    congrArg elements left.workList
  constructor
  · intro established
    refine ⟨fun absent => ?_, ?_, ?_, ?_⟩
    · have first := (established.seeded absent (decimal 1, md5Str generateMD5 1)).mpr
        ⟨1, by omega, by omega, rfl⟩
      rw [rows, absent] at first
      cases first
    · have exact_rows := established.users
      simp only [users, rows] at exact_rows
      exact carried_iff.mp exact_rows
    · exact (count_fifty s.goods).mp (count ▸ established.count.1)
    · exact work ▸ established.workList
  · intro ready
    refine ⟨?_, fun absent => absurd absent ready.table, ⟨?_, ?_⟩, ⟨?_, ?_⟩, ?_⟩
    · simp only [users, rows]
      exact carried_iff.mpr ready.users
    · rw [count]
      exact (count_fifty s.goods).mpr ready.lastGoods
    · have same : s'.db.sameText = s.db.sameText := by
        funext a b
        simp only [Database.sameText, left.weight]
      simpa [Setup.stores, left.goodsInfo, same] using upsert_find s.db (s.db.goodsInfo.getD [])
    · simp [Setup.stores, left.orders, fields]
    · simp [Setup.stores, left.orderInfo]
    · rw [work]
      exact ready.workList

/-! ## Two starts -/

/-- Stores with these tables and keys, rows read in the order in which they were written. -/
def found (users : Option (List (Str × Str))) (redis : Str → Option RedisValue) : Setup where
  db :=
    { weight := Char.toNat, scan := ⟨id, fun _ => .refl _⟩, usrInfo := users, goodsInfo := none,
      orderInfo := none, elsewhere := false }
  redis := redis

/-- A restart over the same users. -/
theorem preparation_restart :
    ∃ s', (prepareForSeckill fun _ _ => 0).alone (Setup.exec fun _ => true)
        (found (some [(['b', 'o', 'b'], ['k'])]) fun _ => none) = some ((), s') ∧
      Established (fun _ _ => 0) (found (some [(['b', 'o', 'b'], ['k'])]) fun _ => none)
        (s'.stores 100 30) := by
  have succeeds : Succeeds (fun _ => true) (found (some [(['b', 'o', 'b'], ['k'])]) fun _ => none) :=
    ⟨fun _ => rfl, nofun, fun _ _ _ => nofun⟩
  obtain ⟨s', ends, established⟩ := preparation_established (fun _ _ => 0) 100 30 succeeds
  refine ⟨s', ends, established.mpr ⟨by simp [found], ?_, rfl, rfl⟩⟩
  have keyed : Keyed [(['b', 'o', 'b'], ['k'])] := by decide
  show Carried [(['b', 'o', 'b'], ['k'])] _
  rw [Carried, if_pos keyed]
  exact nofun

/-- The first start, on empty stores, whatever the digests: `usr_info` is created and stays empty. -/
theorem preparation_first :
    Succeeds (fun _ => true) (found none fun _ => none) ∧
      ∀ generateMD5 : Str → Fin 16 → UInt8, ∃ s',
        (prepareForSeckill generateMD5).alone (Setup.exec fun _ => true)
            (found none fun _ => none) = some ((), s') ∧
          s'.db.usrInfo = some [] ∧
          ¬ Established generateMD5 (found none fun _ => none) (s'.stores 100 30) := by
  have succeeds : Succeeds (fun _ => true) (found none fun _ => none) :=
    ⟨fun _ => rfl, fun _ => rfl, nofun⟩
  refine ⟨succeeds, fun generateMD5 => ?_⟩
  obtain ⟨_, s', ends, left⟩ : (prepareForSeckill generateMD5).Ends _ _ _ :=
    prepareForSeckill_ends succeeds
  refine ⟨s', ends, left.usrInfo, fun established => ?_⟩
  have first := (established.seeded rfl (decimal 1, md5Str generateMD5 1)).mpr
    ⟨1, by omega, by omega, rfl⟩
  simp only [Setup.stores, left.usrInfo] at first
  cases first

end Seckill

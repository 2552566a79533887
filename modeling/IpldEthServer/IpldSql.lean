import IpldEthServer.SqlMeaning
import IpldEthServer.StateIndex

namespace IpldEthServer.StateIndex

def HeaderCid.value (h : HeaderCid) : String → SqlValue
  | "id" => .int h.id
  | "block_number" => .int h.blockNumber
  | "block_hash" => .text h.blockHash
  | _ => .null

def StateCid.value (s : StateCid) : String → SqlValue
  | "id" => .int s.id
  | "header_id" => .int s.headerId
  | "state_leaf_key" => .text s.stateLeafKey
  | "cid" => .text s.cid
  | "mh_key" => .text s.mhKey
  | "node_type" => .int s.nodeType
  | _ => .null

def StorageCid.value (s : StorageCid) : String → SqlValue
  | "id" => .int s.id
  | "state_id" => .int s.stateId
  | "storage_leaf_key" => .text s.storageLeafKey
  | "cid" => .text s.cid
  | "mh_key" => .text s.mhKey
  | "storage_path" => .bytes s.storagePath
  | "node_type" => .int s.nodeType
  | _ => .null

def Block.value (b : Block) : String → SqlValue
  | "key" => .text b.key
  | "data" => .bytes b.data
  | _ => .null

def Db.headerTable (db : Db) : SqlTable :=
  ⟨"eth", "header_cids", ["id", "block_number", "block_hash"], db.headerCids.map HeaderCid.value⟩

def Db.stateTable (db : Db) : SqlTable :=
  ⟨"eth", "state_cids", ["id", "header_id", "state_leaf_key", "cid", "mh_key", "node_type"],
    db.stateCids.map StateCid.value⟩

def Db.storageTable (db : Db) : SqlTable :=
  ⟨"eth", "storage_cids", ["id", "state_id", "storage_leaf_key", "cid", "mh_key", "storage_path",
    "node_type"], db.storageCids.map StorageCid.value⟩

def Db.blockTable (db : Db) : SqlTable :=
  ⟨"public", "blocks", ["key", "data"], db.blocks.map Block.value⟩

/-- `canonical_header(height)`: the id of the header the index picks, `NULL` when none. -/
def Db.canonicalHeaderFn (db : Db) : SqlValue → SqlValue
  | .int (.ofNat n) =>
    match db.canonicalHeader n with
    | some i => .int i
    | none => .null
  | _ => .null

def Db.sqlTables (db : Db) : SqlDb where
  tables := [db.headerTable, db.stateTable, db.storageTable, db.blockTable]
  functions := [("canonical_header", db.canonicalHeaderFn)]

/-- `RetrieveAccountByLeafKeyAndBlockHashPgStr` with its arguments. -/
def retrieveAccountByLeafKeyAndBlockHashQuery (stateLeafKey hash : String) : PgQuery where
  pgStr :=
    "SELECT state_cids.cid, data\n" ++
    "\t\t\t\t\t\t\t\t\t\t\t\tFROM eth.state_cids, eth.header_cids, public.blocks\n" ++
    "\t\t\t\t\t\t\t\t\t\t\t\tWHERE state_cids.header_id = header_cids.id\n" ++
    "\t\t\t\t\t\t\t\t\t\t\t\tAND state_cids.mh_key = blocks.key\n" ++
    "\t\t\t\t\t\t\t\t\t\t\t\tAND state_leaf_key = $1\n" ++
    "\t\t\t\t\t\t\t\t\t\t\t\tAND block_number <= (SELECT block_number\n" ++
    "\t\t\t\t\t\t\t\t\t\t\t\t\t\t\t\t\tFROM eth.header_cids\n" ++
    "\t\t\t\t\t\t\t\t\t\t\t\t\t\t\t\t\tWHERE block_hash = $2)\n" ++
    "\t\t\t\t\t\t\t\t\t\t\t\tAND header_cids.id = (SELECT canonical_header(block_number))\n" ++
    "\t\t\t\t\t\t\t\t\t\t\t\tORDER BY block_number DESC\n" ++
    "\t\t\t\t\t\t\t\t\t\t\t\tLIMIT 1"
  args := [.text stateLeafKey, .text hash]

/-- `RetrieveAccountByLeafKeyAndBlockNumberPgStr` with its arguments. -/
def retrieveAccountByLeafKeyAndBlockNumberQuery (stateLeafKey : String) (number : ℕ) :
    PgQuery where
  pgStr :=
    "SELECT state_cids.cid, data\n" ++
    "\t\t\t\t\t\t\t\t\t\t\t\tFROM eth.state_cids, eth.header_cids, public.blocks\n" ++
    "\t\t\t\t\t\t\t\t\t\t\t\tWHERE state_cids.header_id = header_cids.id\n" ++
    "\t\t\t\t\t\t\t\t\t\t\t\tAND state_cids.mh_key = blocks.key\n" ++
    "\t\t\t\t\t\t\t\t\t\t\t\tAND state_leaf_key = $1\n" ++
    "\t\t\t\t\t\t\t\t\t\t\t\tAND block_number <= $2\n" ++
    "\t\t\t\t\t\t\t\t\t\t\t\tORDER BY block_number DESC\n" ++
    "\t\t\t\t\t\t\t\t\t\t\t\tLIMIT 1"
  args := [.text stateLeafKey, .int number]

/-- `RetrieveStorageLeafByAddressHashAndLeafKeyAndBlockNumberPgStr` with its arguments. -/
def retrieveStorageLeafByAddressHashAndLeafKeyAndBlockNumberQuery
    (stateLeafKey storageLeafKey : String) (number : ℕ) : PgQuery where
  pgStr :=
    "SELECT storage_cids.cid, data\n" ++
    "\t\t\t\t\t\t\t\t\t\t\t\tFROM eth.storage_cids, eth.state_cids, eth.header_cids, public.blocks\n" ++
    "\t\t\t\t\t\t\t\t\t\t\t\tWHERE storage_cids.state_id = state_cids.id\n" ++
    "\t\t\t\t\t\t\t\t\t\t\t\tAND state_cids.header_id = header_cids.id\n" ++
    "\t\t\t\t\t\t\t\t\t\t\t\tAND storage_cids.mh_key = blocks.key\n" ++
    "\t\t\t\t\t\t\t\t\t\t\t\tAND state_leaf_key = $1\n" ++
    "\t\t\t\t\t\t\t\t\t\t\t\tAND storage_leaf_key = $2\n" ++
    "\t\t\t\t\t\t\t\t\t\t\t\tAND block_number <= $3\n" ++
    "\t\t\t\t\t\t\t\t\t\t\t\tORDER BY block_number DESC\n" ++
    "\t\t\t\t\t\t\t\t\t\t\t\tLIMIT 1"
  args := [.text stateLeafKey, .text storageLeafKey, .int number]

/-- `retrieveStorageInfoPgStr` with its arguments. -/
def retrieveStorageInfoQuery (stateLeafKey storageLeafKey hash : String) : PgQuery where
  pgStr :=
    "SELECT storage_cids.cid, data, storage_path, block_number\n" ++
    "\t\t\t\t\t\t\t\t\t\t\t\tFROM eth.storage_cids, eth.state_cids, eth.header_cids, public.blocks\n" ++
    "\t\t\t\t\t\t\t\t\t\t\t\tWHERE storage_cids.state_id = state_cids.id\n" ++
    "\t\t\t\t\t\t\t\t\t\t\t\tAND state_cids.header_id = header_cids.id\n" ++
    "\t\t\t\t\t\t\t\t\t\t\t\tAND storage_cids.mh_key = blocks.key\n" ++
    "\t\t\t\t\t\t\t\t\t\t\t\tAND state_leaf_key = $1\n" ++
    "\t\t\t\t\t\t\t\t\t\t\t\tAND storage_leaf_key = $2\n" ++
    "\t\t\t\t\t\t\t\t\t\t\t\tAND block_number <= (SELECT block_number\n" ++
    "\t\t\t\t\t\t\t\t\t\t\t\t\t\t\t\t\tFROM eth.header_cids\n" ++
    "\t\t\t\t\t\t\t\t\t\t\t\t\t\t\t\t\tWHERE block_hash = $3)\n" ++
    "\t\t\t\t\t\t\t\t\t\t\t\tAND header_cids.id = (SELECT canonical_header(block_number))\n" ++
    "\t\t\t\t\t\t\t\t\t\t\t\tORDER BY block_number DESC\n" ++
    "\t\t\t\t\t\t\t\t\t\t\t\tLIMIT 1"
  args := [.text stateLeafKey, .text storageLeafKey, .text hash]

example (k h : String) : parseSql (retrieveAccountByLeafKeyAndBlockHashQuery k h).pgStr =
    some ⟨["eth.state_cids", "eth.header_cids", "public.blocks"],
      .and (.and (.and (.and
        (.eq "state_cids.header_id" (.column "header_cids.id"))
        (.eq "state_cids.mh_key" (.column "blocks.key")))
        (.eq "state_leaf_key" (.param "1")))
        (.cmpSelect .le "block_number" "block_number" "eth.header_cids"
          (.eq "block_hash" (.param "2"))))
        (.eq "header_cids.id" (.call "canonical_header" "block_number")),
      some "block_number", true, some 1⟩ := by
  rfl

theorem Db.eqv_canonicalHeaderFn (db : Db) (i n : ℕ) :
    (SqlValue.int i).eqv (db.canonicalHeaderFn (.int n)) = decide (db.canonicalHeader n = some i) := by
  show (SqlValue.int i).eqv (db.canonicalHeaderFn (.int (Int.ofNat n))) = _
  rw [Db.canonicalHeaderFn]
  cases db.canonicalHeader n with
  | none => rfl
  | some j =>
    rw [SqlValue.eqv, Bool.eq_iff_iff, beq_iff_eq, decide_eq_true_iff, Option.some.injEq,
      Nat.cast_inj, eq_comm]

theorem heightOfHash_eq (db : Db) (hash : String) :
    heightOfHash db hash = match db.headerCids.filter fun h => decide (h.blockHash = hash) with
      | [] => .ok none
      | [h] => .ok (some h.blockNumber)
      | _ => .error .subqueryMultipleRows := by
  rw [heightOfHash]
  generalize db.headerCids.filter _ = hs
  rcases hs with _ | ⟨h, _ | ⟨h', _⟩⟩ <;> rfl

/-- A leaf query's bound at a hash keeps what `heightOfHash` and `IsCanonical` keep, and fails as
`heightOfHash` does. -/
theorem newest_below_hash {α β γ : Type} (db : Db) (hs : List HeaderCid) (rows : List α)
    (hdr : α → HeaderCid) (base : α → Bool) (σ : α → Scope) (g : α → β) (key : β → ℕ)
    (hkey : ∀ a, key (g a) = (hdr a).blockNumber) (proj : Scope → γ) (cols : β → γ)
    (hproj : ∀ a, proj (σ a) = cols (g a)) :
    (if decide (1 < hs.length) = true then .error .subqueryMultipleRows
      else (newest (fun a => (hdr a).blockNumber) (rows.filter fun a =>
        (base a && (hs.head?.map fun h =>
          SqlValue.cmp .le (.int (hdr a).blockNumber) (.int h.blockNumber)).getD false) &&
        (SqlValue.int (hdr a).id).eqv (db.canonicalHeaderFn (.int (hdr a).blockNumber)))).map σ).map
        proj =
      ((match hs with
        | [] => .ok none
        | [h] => .ok (some h.blockNumber)
        | _ => .error .subqueryMultipleRows) >>= fun height =>
        newest key ((rows.filter fun a =>
          base a && decide (atOrBelow height (hdr a) ∧ db.IsCanonical (hdr a))).map g)).map cols := by
  have hk : (fun a => key (g a)) = fun a => (hdr a).blockNumber := funext hkey
  rcases hs with _ | ⟨h0, _ | ⟨h1, hs⟩⟩
  · simp [bind, Except.bind, Except.map, atOrBelow, newest, orderByDesc]
  · simp only [List.length_singleton, Nat.lt_irrefl, decide_False, Bool.false_eq_true, if_false,
      List.head?_cons, Option.map_some', Option.getD_some, SqlValue.cmp, Db.eqv_canonicalHeaderFn,
      Nat.cast_le, bind, Except.bind, atOrBelow, Db.IsCanonical, Option.mem_def, Option.some.injEq,
      exists_eq_left', Bool.decide_and, Bool.and_assoc, newest_map, hk]
    cases newest _ _ <;> simp [Except.map, hproj]
  · simp [bind, Except.bind, Except.map]

def Db.stateScope (db : Db) (p : StateCid × HeaderCid × Block) : Scope :=
  [(db.stateTable, p.1.value), (db.headerTable, p.2.1.value), (db.blockTable, p.2.2.value)]

def Db.stateJoin (db : Db) : List (StateCid × HeaderCid × Block) :=
  db.stateCids.flatMap fun s =>
    (db.headerCids.flatMap fun h => db.blocks.map fun b => (h, b)).map fun r => (s, r)

theorem Db.crossRows_state (db : Db) :
    crossRows [db.stateTable, db.headerTable, db.blockTable] = db.stateJoin.map db.stateScope :=
  crossRows_cons rfl (crossRows_cons rfl (crossRows_singleton rfl))

/-- The join conditions of the account queries and the leaf key. -/
def stateJoinMatches (stateLeafKey : String) (p : StateCid × HeaderCid × Block) : Bool :=
  (decide ((p.1.headerId : ℤ) = p.2.1.id) && decide (p.1.mhKey = p.2.2.key)) &&
    decide (p.1.stateLeafKey = stateLeafKey)

theorem stateLeafRows_eq (db : Db) (stateLeafKey : String) (cond : HeaderCid → Prop)
    [DecidablePred cond] :
    stateLeafRows db stateLeafKey cond = (db.stateJoin.filter fun p =>
      stateJoinMatches stateLeafKey p && decide (cond p.2.1)).map fun p =>
        ⟨p.1.cid, p.2.2.data, p.2.1.blockNumber⟩ := by
  simp [stateLeafRows, Db.stateJoin, stateJoinMatches, map_filter_eq_flatMap, List.flatMap_assoc,
    List.flatMap_map, and_assoc]

def accountColumnsOf (sc : Scope) : Option SqlValue × Option SqlValue :=
  (resolve sc "state_cids.cid", resolve sc "data")

def StateLeafRow.columns (r : StateLeafRow) : Option SqlValue × Option SqlValue :=
  (some (.text r.cid), some (.bytes r.data))

/-- The account text by number reads what its row model reads. -/
theorem retrieveAccountByLeafKeyAndBlockNumberQuery_refines (db : Db) (stateLeafKey : String)
    (number : ℕ) :
    ∃ sel, parseSql (retrieveAccountByLeafKeyAndBlockNumberQuery stateLeafKey number).pgStr =
        some sel ∧
      (sel.get db.sqlTables (retrieveAccountByLeafKeyAndBlockNumberQuery stateLeafKey number).args).map
          accountColumnsOf =
        (retrieveAccountByLeafKeyAndBlockNumber db stateLeafKey number).map StateLeafRow.columns := by
  have hp : parseSql (retrieveAccountByLeafKeyAndBlockNumberQuery stateLeafKey number).pgStr =
      some ⟨["eth.state_cids", "eth.header_cids", "public.blocks"],
        .and (.and (.and (.eq "state_cids.header_id" (.column "header_cids.id"))
          (.eq "state_cids.mh_key" (.column "blocks.key"))) (.eq "state_leaf_key" (.param "1")))
          (.cmp .le "block_number" (.param "2")), some "block_number", true, some 1⟩ := rfl
  obtain ⟨sel, hp, hget⟩ := get_newest_of_parse (D := db.sqlTables) (M := false)
    (P := fun p => stateJoinMatches stateLeafKey p && decide ((p.2.1.blockNumber : ℤ) ≤ number))
    hp rfl db.crossRows_state rfl rfl (fun _ => rfl) rfl rfl rfl
    fun p => (rfl : _ = p.2.1.blockNumber)
  refine ⟨sel, hp, ?_⟩
  rw [hget, retrieveAccountByLeafKeyAndBlockNumber, stateLeafRows_eq, newest_map]
  simp only [Bool.false_eq_true, if_false, Nat.cast_le]
  cases newest _ _ <;> rfl

/-- The account text by hash reads what its row model reads, and fails as it does. -/
theorem retrieveAccountByLeafKeyAndBlockHashQuery_refines (db : Db) (stateLeafKey hash : String) :
    ∃ sel, parseSql (retrieveAccountByLeafKeyAndBlockHashQuery stateLeafKey hash).pgStr =
        some sel ∧
      (sel.get db.sqlTables (retrieveAccountByLeafKeyAndBlockHashQuery stateLeafKey hash).args).map
          accountColumnsOf =
        (retrieveAccountByLeafKeyAndBlockHash db stateLeafKey hash).map StateLeafRow.columns := by
  let q := retrieveAccountByLeafKeyAndBlockHashQuery stateLeafKey hash
  let sub : SqlCond := .cmpSelect .le "block_number" "block_number" "eth.header_cids"
    (.eq "block_hash" (.param "2"))
  have hp : parseSql q.pgStr = some ⟨["eth.state_cids", "eth.header_cids", "public.blocks"],
      .and (.and (.and (.and (.eq "state_cids.header_id" (.column "header_cids.id"))
        (.eq "state_cids.mh_key" (.column "blocks.key"))) (.eq "state_leaf_key" (.param "1"))) sub)
        (.eq "header_cids.id" (.call "canonical_header" "block_number")),
      some "block_number", true, some 1⟩ := rfl
  have hsub : ∀ p, sub.eval db.sqlTables q.args (db.stateScope p) =
      (((db.headerCids.filter fun h => decide (h.blockHash = hash)).head?.map fun h =>
        SqlValue.cmp .le (.int p.2.1.blockNumber) (.int h.blockNumber)).getD false) := fun p => by
    rw [List.filter_head?]
    exact SqlCond.eval_cmpSelect rfl rfl rfl (fun _ => rfl) fun _ => rfl
  have hmany : sub.manyRows db.sqlTables q.args =
      (decide (1 < (db.headerCids.filter fun h => decide (h.blockHash = hash)).length) || false) :=
    SqlCond.manyRows_cmpSelect rfl rfl fun _ => rfl
  obtain ⟨sel, hp, hget⟩ := get_newest_of_parse (D := db.sqlTables)
    (M := decide (1 < (db.headerCids.filter fun h => decide (h.blockHash = hash)).length))
    (P := fun p => (stateJoinMatches stateLeafKey p &&
      ((db.headerCids.filter fun h => decide (h.blockHash = hash)).head?.map fun h =>
        SqlValue.cmp .le (.int p.2.1.blockNumber) (.int h.blockNumber)).getD false) &&
      (SqlValue.int p.2.1.id).eqv (db.canonicalHeaderFn (.int p.2.1.blockNumber)))
    hp rfl db.crossRows_state rfl
    (by simp only [SqlCond.manyRows_and, SqlCond.manyRows_eq, hmany, Bool.false_or, Bool.or_false])
    (fun p => by simp only [SqlCond.eval_and, hsub]; rfl) rfl rfl rfl
    fun p => (rfl : _ = p.2.1.blockNumber)
  refine ⟨sel, hp, ?_⟩
  rw [hget, retrieveAccountByLeafKeyAndBlockHash, heightOfHash_eq]
  simp only [stateLeafRows_eq]
  exact newest_below_hash db _ db.stateJoin (fun p => p.2.1) (stateJoinMatches stateLeafKey)
    db.stateScope _ StateLeafRow.blockNumber (fun _ => rfl) accountColumnsOf StateLeafRow.columns
    fun _ => rfl

def Db.storageScope (db : Db) (p : StorageCid × StateCid × HeaderCid × Block) : Scope :=
  (db.storageTable, p.1.value) :: db.stateScope p.2

def Db.storageJoin (db : Db) : List (StorageCid × StateCid × HeaderCid × Block) :=
  db.storageCids.flatMap fun st => db.stateJoin.map fun r => (st, r)

theorem Db.crossRows_storage (db : Db) :
    crossRows [db.storageTable, db.stateTable, db.headerTable, db.blockTable] =
      db.storageJoin.map db.storageScope :=
  crossRows_cons rfl db.crossRows_state

/-- The join conditions of the storage queries and the two leaf keys. -/
def storageJoinMatches (stateLeafKey storageLeafKey : String)
    (p : StorageCid × StateCid × HeaderCid × Block) : Bool :=
  (((decide ((p.1.stateId : ℤ) = p.2.1.id) && decide ((p.2.1.headerId : ℤ) = p.2.2.1.id)) &&
    decide (p.1.mhKey = p.2.2.2.key)) && decide (p.2.1.stateLeafKey = stateLeafKey)) &&
    decide (p.1.storageLeafKey = storageLeafKey)

theorem storageLeafRows_eq (db : Db) (stateLeafKey storageLeafKey : String)
    (cond : HeaderCid → Prop) [DecidablePred cond] :
    storageLeafRows db stateLeafKey storageLeafKey cond = (db.storageJoin.filter fun p =>
      storageJoinMatches stateLeafKey storageLeafKey p && decide (cond p.2.2.1)).map fun p =>
        ⟨p.1.cid, p.2.2.2.data, p.1.storagePath, p.2.2.1.blockNumber⟩ := by
  simp [storageLeafRows, Db.storageJoin, Db.stateJoin, storageJoinMatches, map_filter_eq_flatMap,
    List.flatMap_assoc, List.flatMap_map, and_assoc]

def storageLeafColumnsOf (sc : Scope) : Option SqlValue × Option SqlValue :=
  (resolve sc "storage_cids.cid", resolve sc "data")

def StorageLeafRow.leafColumns (r : StorageLeafRow) : Option SqlValue × Option SqlValue :=
  (some (.text r.cid), some (.bytes r.data))

def storageInfoColumnsOf (sc : Scope) :
    Option SqlValue × Option SqlValue × Option SqlValue × Option SqlValue :=
  (resolve sc "storage_cids.cid", resolve sc "data", resolve sc "storage_path",
    resolve sc "block_number")

def StorageLeafRow.infoColumns (r : StorageLeafRow) :
    Option SqlValue × Option SqlValue × Option SqlValue × Option SqlValue :=
  (some (.text r.cid), some (.bytes r.data), some (.bytes r.storagePath), some (.int r.blockNumber))

/-- The storage text by number reads what its row model reads. -/
theorem retrieveStorageLeafByAddressHashAndLeafKeyAndBlockNumberQuery_refines (db : Db)
    (stateLeafKey storageLeafKey : String) (number : ℕ) :
    ∃ sel, parseSql (retrieveStorageLeafByAddressHashAndLeafKeyAndBlockNumberQuery stateLeafKey
        storageLeafKey number).pgStr = some sel ∧
      (sel.get db.sqlTables (retrieveStorageLeafByAddressHashAndLeafKeyAndBlockNumberQuery
          stateLeafKey storageLeafKey number).args).map storageLeafColumnsOf =
        (retrieveStorageLeafByBlockNumber db stateLeafKey storageLeafKey number).map
          StorageLeafRow.leafColumns := by
  have hp : parseSql (retrieveStorageLeafByAddressHashAndLeafKeyAndBlockNumberQuery stateLeafKey
      storageLeafKey number).pgStr =
      some ⟨["eth.storage_cids", "eth.state_cids", "eth.header_cids", "public.blocks"],
        .and (.and (.and (.and (.and (.eq "storage_cids.state_id" (.column "state_cids.id"))
          (.eq "state_cids.header_id" (.column "header_cids.id")))
          (.eq "storage_cids.mh_key" (.column "blocks.key"))) (.eq "state_leaf_key" (.param "1")))
          (.eq "storage_leaf_key" (.param "2"))) (.cmp .le "block_number" (.param "3")),
        some "block_number", true, some 1⟩ := rfl
  obtain ⟨sel, hp, hget⟩ := get_newest_of_parse (D := db.sqlTables) (M := false)
    (P := fun p => storageJoinMatches stateLeafKey storageLeafKey p &&
      decide ((p.2.2.1.blockNumber : ℤ) ≤ number))
    hp rfl db.crossRows_storage rfl rfl (fun _ => rfl) rfl rfl rfl
    fun p => (rfl : _ = p.2.2.1.blockNumber)
  refine ⟨sel, hp, ?_⟩
  rw [hget, retrieveStorageLeafByBlockNumber, storageLeafRows_eq, newest_map]
  simp only [Bool.false_eq_true, if_false, Nat.cast_le]
  cases newest _ _ <;> rfl

/-- The storage-info text reads what its row model reads, and fails as it does. -/
theorem retrieveStorageInfoQuery_refines (db : Db) (stateLeafKey storageLeafKey hash : String) :
    ∃ sel, parseSql (retrieveStorageInfoQuery stateLeafKey storageLeafKey hash).pgStr = some sel ∧
      (sel.get db.sqlTables (retrieveStorageInfoQuery stateLeafKey storageLeafKey hash).args).map
          storageInfoColumnsOf =
        (retrieveStorageInfo db stateLeafKey storageLeafKey hash).map StorageLeafRow.infoColumns := by
  let q := retrieveStorageInfoQuery stateLeafKey storageLeafKey hash
  let sub : SqlCond := .cmpSelect .le "block_number" "block_number" "eth.header_cids"
    (.eq "block_hash" (.param "3"))
  have hp : parseSql q.pgStr =
      some ⟨["eth.storage_cids", "eth.state_cids", "eth.header_cids", "public.blocks"],
        .and (.and (.and (.and (.and (.and (.eq "storage_cids.state_id" (.column "state_cids.id"))
          (.eq "state_cids.header_id" (.column "header_cids.id")))
          (.eq "storage_cids.mh_key" (.column "blocks.key"))) (.eq "state_leaf_key" (.param "1")))
          (.eq "storage_leaf_key" (.param "2"))) sub)
          (.eq "header_cids.id" (.call "canonical_header" "block_number")),
        some "block_number", true, some 1⟩ := rfl
  have hsub : ∀ p, sub.eval db.sqlTables q.args (db.storageScope p) =
      (((db.headerCids.filter fun h => decide (h.blockHash = hash)).head?.map fun h =>
        SqlValue.cmp .le (.int p.2.2.1.blockNumber) (.int h.blockNumber)).getD false) := fun p => by
    rw [List.filter_head?]
    exact SqlCond.eval_cmpSelect rfl rfl rfl (fun _ => rfl) fun _ => rfl
  have hmany : sub.manyRows db.sqlTables q.args =
      (decide (1 < (db.headerCids.filter fun h => decide (h.blockHash = hash)).length) || false) :=
    SqlCond.manyRows_cmpSelect rfl rfl fun _ => rfl
  obtain ⟨sel, hp, hget⟩ := get_newest_of_parse (D := db.sqlTables)
    (M := decide (1 < (db.headerCids.filter fun h => decide (h.blockHash = hash)).length))
    (P := fun p => (storageJoinMatches stateLeafKey storageLeafKey p &&
      ((db.headerCids.filter fun h => decide (h.blockHash = hash)).head?.map fun h =>
        SqlValue.cmp .le (.int p.2.2.1.blockNumber) (.int h.blockNumber)).getD false) &&
      (SqlValue.int p.2.2.1.id).eqv (db.canonicalHeaderFn (.int p.2.2.1.blockNumber)))
    hp rfl db.crossRows_storage rfl
    (by simp only [SqlCond.manyRows_and, SqlCond.manyRows_eq, hmany, Bool.false_or, Bool.or_false])
    (fun p => by simp only [SqlCond.eval_and, hsub]; rfl) rfl rfl rfl
    fun p => (rfl : _ = p.2.2.1.blockNumber)
  refine ⟨sel, hp, ?_⟩
  rw [hget, retrieveStorageInfo, heightOfHash_eq]
  simp only [storageLeafRows_eq]
  exact newest_below_hash db _ db.storageJoin (fun p => p.2.2.1)
    (storageJoinMatches stateLeafKey storageLeafKey) db.storageScope _ StorageLeafRow.blockNumber
    (fun _ => rfl) storageInfoColumnsOf StorageLeafRow.infoColumns fun _ => rfl

end IpldEthServer.StateIndex

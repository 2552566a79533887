import IpldEthServer.IpldSql

namespace IpldEthServer.IpldIndex

open StateIndex (Block Block.value)

/-- A row of `eth.header_cids`, with the columns the readers name. -/
structure HeaderCid where
  id : ℕ
  blockNumber : ℕ
  blockHash : String
  cid : String
  mhKey : String
  deriving DecidableEq, Repr

/-- A row of `eth.uncle_cids`; `block_hash` is the uncle's own hash. -/
structure UncleCid where
  headerId : ℕ
  blockHash : String
  cid : String
  mhKey : String
  deriving DecidableEq, Repr

structure TransactionCid where
  id : ℕ
  headerId : ℕ
  txHash : String
  cid : String
  mhKey : String
  deriving DecidableEq, Repr

structure ReceiptCid where
  txId : ℕ
  cid : String
  mhKey : String
  deriving DecidableEq, Repr

/-- The tables the readers join; `Db.Keyed` states the schema's keys where a result needs them. -/
structure Db where
  headerCids : List HeaderCid := []
  uncleCids : List UncleCid := []
  transactionCids : List TransactionCid := []
  receiptCids : List ReceiptCid := []
  blocks : List Block := []
  deriving Repr

/-- A row by column, for each table the readers join; here a header row. -/
def HeaderCid.value (h : HeaderCid) : String → SqlValue
  | "id" => .int h.id
  | "block_number" => .int h.blockNumber
  | "block_hash" => .text h.blockHash
  | "cid" => .text h.cid
  | "mh_key" => .text h.mhKey
  | _ => .null

def UncleCid.value (u : UncleCid) : String → SqlValue
  | "header_id" => .int u.headerId
  | "block_hash" => .text u.blockHash
  | "cid" => .text u.cid
  | "mh_key" => .text u.mhKey
  | _ => .null

def TransactionCid.value (t : TransactionCid) : String → SqlValue
  | "id" => .int t.id
  | "header_id" => .int t.headerId
  | "tx_hash" => .text t.txHash
  | "cid" => .text t.cid
  | "mh_key" => .text t.mhKey
  | _ => .null

def ReceiptCid.value (r : ReceiptCid) : String → SqlValue
  | "tx_id" => .int r.txId
  | "cid" => .text r.cid
  | "mh_key" => .text r.mhKey
  | _ => .null

def Db.headerTable (db : Db) : SqlTable :=
  ⟨"eth", "header_cids", ["id", "block_number", "block_hash", "cid", "mh_key"],
    db.headerCids.map HeaderCid.value⟩

def Db.uncleTable (db : Db) : SqlTable :=
  ⟨"eth", "uncle_cids", ["header_id", "block_hash", "cid", "mh_key"],
    db.uncleCids.map UncleCid.value⟩

def Db.transactionTable (db : Db) : SqlTable :=
  ⟨"eth", "transaction_cids", ["id", "header_id", "tx_hash", "cid", "mh_key"],
    db.transactionCids.map TransactionCid.value⟩

def Db.receiptTable (db : Db) : SqlTable :=
  ⟨"eth", "receipt_cids", ["tx_id", "cid", "mh_key"], db.receiptCids.map ReceiptCid.value⟩

def Db.blockTable (db : Db) : SqlTable :=
  ⟨"public", "blocks", ["key", "data"], db.blocks.map Block.value⟩

/-- The tables of the index. -/
def Db.sqlTables (db : Db) : SqlDb where
  tables := [db.headerTable, db.uncleTable, db.transactionTable, db.receiptTable, db.blockTable]

/-- The query each reader hands `Select` or `Get`; here `RetrieveHeadersByHashes`, with the hashes'
hex. -/
def retrieveHeadersByHashesQuery (hashes : List String) : PgQuery where
  pgStr :=
    "SELECT cid, data\n" ++
    "\t\t\t\t\t\t\t\tFROM eth.header_cids \n" ++
    "\t\t\t\t\t\t\t\tINNER JOIN public.blocks ON (header_cids.mh_key = blocks.key)\n" ++
    "\t\t\t\t\t\t\t\tWHERE block_hash = ANY($1::VARCHAR(66)[])"
  args := [.array hashes]

def retrieveHeadersByBlockNumberQuery (number : ℕ) : PgQuery where
  pgStr :=
    "SELECT cid, data FROM eth.header_cids \n" ++
    "\t\t\t\t\t\t\t\tINNER JOIN public.blocks ON (header_cids.mh_key = blocks.key)\n" ++
    "\t\t\t\t\t\t\t\tWHERE block_number = $1"
  args := [.int number]

def retrieveHeaderByHashQuery (hash : String) : PgQuery where
  pgStr :=
    "SELECT cid, data\n" ++
    "\t\t\t\t\t\t\t\tFROM eth.header_cids \n" ++
    "\t\t\t\t\t\t\t\tINNER JOIN public.blocks ON (header_cids.mh_key = blocks.key)\n" ++
    "\t\t\t\t\t\t\t\tWHERE block_hash = $1"
  args := [.text hash]

def retrieveUnclesByHashesQuery (hashes : List String) : PgQuery where
  pgStr :=
    "SELECT cid, data\n" ++
    "\t\t\t\t\t\t\t\tFROM eth.uncle_cids\n" ++
    "\t\t\t\t\t\t\t\tINNER JOIN public.blocks ON (uncle_cids.mh_key = blocks.key)\n" ++
    "\t\t\t\t\t\t\t\tWHERE block_hash = ANY($1::VARCHAR(66)[])"
  args := [.array hashes]

def retrieveUnclesByBlockHashQuery (hash : String) : PgQuery where
  pgStr :=
    "SELECT uncle_cids.cid, data FROM eth.uncle_cids, eth.header_cids, public.blocks\n" ++
    "\t\t\t\t\t\t\t\t\t\tWHERE uncle_cids.header_id = header_cids.id\n" ++
    "\t\t\t\t\t\t\t\t\t\tAND uncle_cids.mh_key = blocks.key\n" ++
    "\t\t\t\t\t\t\t\t\t\tAND block_hash = $1"
  args := [.text hash]

def retrieveUnclesByBlockNumberQuery (number : ℕ) : PgQuery where
  pgStr :=
    "SELECT uncle_cids.cid, data\n" ++
    "\t\t\t\t\t\t\t\t\t\tFROM eth.uncle_cids, eth.header_cids, public.blocks\n" ++
    "\t\t\t\t\t\t\t\t\t\tWHERE uncle_cids.header_id = header_cids.id\n" ++
    "\t\t\t\t\t\t\t\t\t\tAND uncle_cids.mh_key = blocks.key\n" ++
    "\t\t\t\t\t\t\t\t\t\tAND block_number = $1"
  args := [.int number]

def retrieveUncleByHashQuery (hash : String) : PgQuery where
  pgStr :=
    "SELECT cid, data\n" ++
    "\t\t\t\t\t\t\t\tFROM eth.uncle_cids\n" ++
    "\t\t\t\t\t\t\t\tINNER JOIN public.blocks ON (uncle_cids.mh_key = blocks.key)\n" ++
    "\t\t\t\t\t\t\t\tWHERE block_hash = $1"
  args := [.text hash]

def retrieveTransactionsByHashesQuery (hashes : List String) : PgQuery where
  pgStr :=
    "SELECT cid, data\n" ++
    "\t\t\t\t\t\t\t\t\tFROM eth.transaction_cids\n" ++
    "\t\t\t\t\t\t\t\t\tINNER JOIN public.blocks ON (transaction_cids.mh_key = blocks.key)\n" ++
    "\t\t\t\t\t\t\t\t\tWHERE tx_hash = ANY($1::VARCHAR(66)[])"
  args := [.array hashes]

def retrieveTransactionsByBlockHashQuery (hash : String) : PgQuery where
  pgStr :=
    "SELECT transaction_cids.cid, data\n" ++
    "\t\t\t\t\t\t\t\t\t\t\tFROM eth.transaction_cids, eth.header_cids, public.blocks\n" ++
    "\t\t\t\t\t\t\t\t\t\t\tWHERE transaction_cids.header_id = header_cids.id\n" ++
    "\t\t\t\t\t\t\t\t\t\t\tAND transaction_cids.mh_key = blocks.key\n" ++
    "\t\t\t\t\t\t\t\t\t\t\tAND block_hash = $1"
  args := [.text hash]

def retrieveTransactionsByBlockNumberQuery (number : ℕ) : PgQuery where
  pgStr :=
    "SELECT transaction_cids.cid, data\n" ++
    "\t\t\t\t\t\t\t\t\t\t\tFROM eth.transaction_cids, eth.header_cids, public.blocks\n" ++
    "\t\t\t\t\t\t\t\t\t\t\tWHERE transaction_cids.header_id = header_cids.id\n" ++
    "\t\t\t\t\t\t\t\t\t\t\tAND transaction_cids.mh_key = blocks.key\n" ++
    "\t\t\t\t\t\t\t\t\t\t\tAND block_number = $1"
  args := [.int number]

def retrieveTransactionByHashQuery (hash : String) : PgQuery where
  pgStr :=
    "SELECT cid, data FROM eth.transaction_cids\n" ++
    "\t\t\t\t\t\t\t\t\tINNER JOIN public.blocks ON (transaction_cids.mh_key = blocks.key)\n" ++
    "\t\t\t\t\t\t\t\t\tWHERE tx_hash = $1"
  args := [.text hash]

def retrieveReceiptsByTxHashesQuery (hashes : List String) : PgQuery where
  pgStr :=
    "SELECT receipt_cids.cid, data\n" ++
    "\t\t\t\t\t\t\t\t\tFROM eth.receipt_cids, eth.transaction_cids, public.blocks\n" ++
    "\t\t\t\t\t\t\t\t\tWHERE receipt_cids.mh_key = blocks.key\n" ++
    "\t\t\t\t\t\t\t\t\tAND receipt_cids.tx_id = transaction_cids.id\n" ++
    "\t\t\t\t\t\t\t\t\tAND tx_hash = ANY($1::VARCHAR(66)[])"
  args := [.array hashes]

def retrieveReceiptsByBlockHashQuery (hash : String) : PgQuery where
  pgStr :=
    "SELECT receipt_cids.cid, data\n" ++
    "\t\t\t\t\t\t\t\t\t\tFROM eth.receipt_cids, eth.transaction_cids, eth.header_cids, public.blocks\n" ++
    "\t\t\t\t\t\t\t\t\t\tWHERE receipt_cids.tx_id = transaction_cids.id\n" ++
    "\t\t\t\t\t\t\t\t\t\tAND transaction_cids.header_id = header_cids.id\n" ++
    "\t\t\t\t\t\t\t\t\t\tAND receipt_cids.mh_key = blocks.key\n" ++
    "\t\t\t\t\t\t\t\t\t\tAND block_hash = $1"
  args := [.text hash]

def retrieveReceiptsByBlockNumberQuery (number : ℕ) : PgQuery where
  pgStr :=
    "SELECT receipt_cids.cid, data\n" ++
    "\t\t\t\t\t\t\t\t\t\tFROM eth.receipt_cids, eth.transaction_cids, eth.header_cids, public.blocks\n" ++
    "\t\t\t\t\t\t\t\t\t\tWHERE receipt_cids.tx_id = transaction_cids.id\n" ++
    "\t\t\t\t\t\t\t\t\t\tAND transaction_cids.header_id = header_cids.id\n" ++
    "\t\t\t\t\t\t\t\t\t\tAND receipt_cids.mh_key = blocks.key\n" ++
    "\t\t\t\t\t\t\t\t\t\tAND block_number = $1"
  args := [.int number]

/-- `RetrieveReceiptByHash`'s query, with the hex of the transaction hash. -/
def retrieveReceiptByTxHashQuery (hash : String) : PgQuery where
  pgStr :=
    "SELECT receipt_cids.cid, data\n" ++
    "\t\t\t\t\t\t\t\t\tFROM eth.receipt_cids, eth.transaction_cids, eth.receipt_cids\n" ++
    "\t\t\t\t\t\t\t\t\tWHERE receipt_cids.mh_key = blocks.key\n" ++
    "\t\t\t\t\t\t\t\t\tAND receipt_cids.tx_id = transaction_cids.id\n" ++
    "\t\t\t\t\t\t\t\t\tAND tx_hash = $1"
  args := [.text hash]

/-- `ipldResult` scanned from a row: the select list's `cid` column and the block's `data`. -/
def scanIpld (cidColumn : String) (sc : Scope) : String × List UInt8 :=
  (match resolve sc cidColumn with
    | some (.text s) => s
    | _ => "",
   match resolve sc "data" with
    | some (.bytes b) => b
    | _ => [])

/-- `r.db.Select(&results, pgStr, args...)` and the loop copying each result's `CID` and `Data`. -/
def selectIplds (D : SqlDb) (cidColumn : String) (q : PgQuery) :
    Option (Except SqlError (List String × List (List UInt8))) :=
  (parseSql q.pgStr).map fun sel => (sel.run D q.args).map fun rows =>
    (rows.map (scanIpld cidColumn)).unzip

/-- `return result.CID, result.Data, r.db.Get(result, pgStr, args...)`. -/
def getIpld (D : SqlDb) (cidColumn : String) (q : PgQuery) :
    Option (Except SqlError (String × List UInt8)) :=
  (parseSql q.pgStr).map fun sel => (sel.get D q.args).map (scanIpld cidColumn)

/-- The readers of `ipld_retriever.go`; here `RetrieveHeadersByHashes`. -/
def retrieveHeadersByHashes (db : Db) (hashes : List String) :=
  selectIplds db.sqlTables "cid" (retrieveHeadersByHashesQuery hashes)

def retrieveHeadersByBlockNumber (db : Db) (number : ℕ) :=
  selectIplds db.sqlTables "cid" (retrieveHeadersByBlockNumberQuery number)

def retrieveHeaderByHash (db : Db) (hash : String) :=
  getIpld db.sqlTables "cid" (retrieveHeaderByHashQuery hash)

def retrieveUnclesByHashes (db : Db) (hashes : List String) :=
  selectIplds db.sqlTables "cid" (retrieveUnclesByHashesQuery hashes)

def retrieveUnclesByBlockHash (db : Db) (hash : String) :=
  selectIplds db.sqlTables "uncle_cids.cid" (retrieveUnclesByBlockHashQuery hash)

def retrieveUnclesByBlockNumber (db : Db) (number : ℕ) :=
  selectIplds db.sqlTables "uncle_cids.cid" (retrieveUnclesByBlockNumberQuery number)

def retrieveUncleByHash (db : Db) (hash : String) :=
  getIpld db.sqlTables "cid" (retrieveUncleByHashQuery hash)

def retrieveTransactionsByHashes (db : Db) (hashes : List String) :=
  selectIplds db.sqlTables "cid" (retrieveTransactionsByHashesQuery hashes)

def retrieveTransactionsByBlockHash (db : Db) (hash : String) :=
  selectIplds db.sqlTables "transaction_cids.cid" (retrieveTransactionsByBlockHashQuery hash)

def retrieveTransactionsByBlockNumber (db : Db) (number : ℕ) :=
  selectIplds db.sqlTables "transaction_cids.cid" (retrieveTransactionsByBlockNumberQuery number)

def retrieveTransactionByTxHash (db : Db) (hash : String) :=
  getIpld db.sqlTables "cid" (retrieveTransactionByHashQuery hash)

def retrieveReceiptsByTxHashes (db : Db) (hashes : List String) :=
  selectIplds db.sqlTables "receipt_cids.cid" (retrieveReceiptsByTxHashesQuery hashes)

def retrieveReceiptsByBlockHash (db : Db) (hash : String) :=
  selectIplds db.sqlTables "receipt_cids.cid" (retrieveReceiptsByBlockHashQuery hash)

def retrieveReceiptsByBlockNumber (db : Db) (number : ℕ) :=
  selectIplds db.sqlTables "receipt_cids.cid" (retrieveReceiptsByBlockNumberQuery number)

def retrieveReceiptByHash (db : Db) (hash : String) :=
  getIpld db.sqlTables "receipt_cids.cid" (retrieveReceiptByTxHashQuery hash)

/-- `Get` on the rows of a query: the first, or `sql.ErrNoRows`. -/
def firstRow {β : Type} : List β → Except SqlError β
  | r :: _ => .ok r
  | [] => .error .noRows

section Means

variable {α : Type} {D : SqlDb} {ts : List SqlTable} {σ : α → Scope} {q : PgQuery}
  {names : List String} {P : α → Bool} {rows : List α} {cidColumn : String}
  {ipld : α → String × List UInt8}

/-- A reader of many rows over a text that means `P`: the rows where `P` holds, scanned. -/
theorem selectIplds_of_means (ts : List SqlTable) (hrows : crossRows ts = rows.map σ)
    (h : QueryMeans D ts σ q names none none P) (hts : D.openFrom [] names = .ok ts)
    (hscan : ∀ a, scanIpld cidColumn (σ a) = ipld a) :
    selectIplds D cidColumn q = some (.ok ((rows.filter P).map ipld).unzip) := by
  obtain ⟨sel, hp, hrun⟩ := h.run hts hrows
  simp [selectIplds, hp, hrun, joinResult, orderRows, Except.map, Function.comp_def, hscan]

/-- A reader of one row over a text that means `P`: the first such row, or `sql.ErrNoRows`. -/
theorem getIpld_of_means (ts : List SqlTable) (hrows : crossRows ts = rows.map σ)
    (h : QueryMeans D ts σ q names none none P) (hts : D.openFrom [] names = .ok ts)
    (hscan : ∀ a, scanIpld cidColumn (σ a) = ipld a) :
    getIpld D cidColumn q = some (firstRow ((rows.filter P).map ipld)) := by
  obtain ⟨sel, hp, hrun⟩ := h.run hts hrows
  simp only [getIpld, hp, Option.map_some', SqlSelect.get, hrun, joinResult, orderRows]
  cases rows.filter P <;> simp [firstRow, Except.map, hscan]

theorem selectIplds_of_run_error {sel : SqlSelect} {e : SqlError} (hp : parseSql q.pgStr = some sel)
    (h : sel.run D q.args = .error e) : selectIplds D cidColumn q = some (.error e) := by
  simp [selectIplds, hp, h, Except.map]

theorem getIpld_of_run_error {sel : SqlSelect} {e : SqlError} (hp : parseSql q.pgStr = some sel)
    (h : sel.run D q.args = .error e) : getIpld D cidColumn q = some (.error e) := by
  simp [getIpld, hp, SqlSelect.get, h, Except.map]

end Means

/-- `RetrieveHeadersByHashes` selects each header with a listed hash, with each block it names. -/
theorem retrieveHeadersByHashes_eq (db : Db) (hashes : List String) :
    retrieveHeadersByHashes db hashes = some (.ok (((db.headerCids ×ˢ db.blocks).filter fun p =>
      p.1.mhKey == p.2.key && hashes.contains p.1.blockHash).map fun p =>
        (p.1.cid, p.2.data)).unzip) :=
  selectIplds_of_means [db.headerTable, db.blockTable]
    (crossRows_cons rfl (crossRows_singleton rfl))
    (by exact ⟨_, rfl, rfl, fun _ => rfl, fun _ _ => rfl⟩) (by rfl) fun _ => by rfl

/-- `RetrieveHeadersByBlockNumber` selects each header at the height, canonical or not. -/
theorem retrieveHeadersByBlockNumber_eq (db : Db) (number : ℕ) :
    retrieveHeadersByBlockNumber db number = some (.ok (((db.headerCids ×ˢ db.blocks).filter
      fun p => p.1.mhKey == p.2.key && (p.1.blockNumber : ℤ) == number).map fun p =>
        (p.1.cid, p.2.data)).unzip) :=
  selectIplds_of_means [db.headerTable, db.blockTable]
    (crossRows_cons rfl (crossRows_singleton rfl))
    (by exact ⟨_, rfl, rfl, fun _ => rfl, fun _ _ => rfl⟩) (by rfl) fun _ => by rfl

theorem retrieveHeaderByHash_eq (db : Db) (hash : String) :
    retrieveHeaderByHash db hash = some (firstRow (((db.headerCids ×ˢ db.blocks).filter fun p =>
      p.1.mhKey == p.2.key && p.1.blockHash == hash).map fun p => (p.1.cid, p.2.data))) :=
  getIpld_of_means [db.headerTable, db.blockTable]
    (crossRows_cons rfl (crossRows_singleton rfl))
    (by exact ⟨_, rfl, rfl, fun _ => rfl, fun _ _ => rfl⟩) (by rfl) fun _ => by rfl

/-- `RetrieveUnclesByHashes` selects each uncle with a listed hash of its own. -/
theorem retrieveUnclesByHashes_eq (db : Db) (hashes : List String) :
    retrieveUnclesByHashes db hashes = some (.ok (((db.uncleCids ×ˢ db.blocks).filter fun p =>
      p.1.mhKey == p.2.key && hashes.contains p.1.blockHash).map fun p =>
        (p.1.cid, p.2.data)).unzip) :=
  selectIplds_of_means [db.uncleTable, db.blockTable]
    (crossRows_cons rfl (crossRows_singleton rfl))
    (by exact ⟨_, rfl, rfl, fun _ => rfl, fun _ _ => rfl⟩) (by rfl) fun _ => by rfl

/-- `RetrieveUnclesByBlockNumber` selects each uncle whose header is at the height. -/
theorem retrieveUnclesByBlockNumber_eq (db : Db) (number : ℕ) :
    retrieveUnclesByBlockNumber db number = some (.ok (((db.uncleCids ×ˢ db.headerCids ×ˢ
      db.blocks).filter fun p => ((p.1.headerId : ℤ) == p.2.1.id && p.1.mhKey == p.2.2.key) &&
        (p.2.1.blockNumber : ℤ) == number).map fun p => (p.1.cid, p.2.2.data)).unzip) :=
  selectIplds_of_means [db.uncleTable, db.headerTable, db.blockTable]
    (crossRows_cons rfl (crossRows_cons rfl (crossRows_singleton rfl)))
    (by exact ⟨_, rfl, rfl, fun _ => rfl, fun _ _ => rfl⟩) (by rfl) fun _ => by rfl

theorem retrieveUncleByHash_eq (db : Db) (hash : String) :
    retrieveUncleByHash db hash = some (firstRow (((db.uncleCids ×ˢ db.blocks).filter fun p =>
      p.1.mhKey == p.2.key && p.1.blockHash == hash).map fun p => (p.1.cid, p.2.data))) :=
  getIpld_of_means [db.uncleTable, db.blockTable]
    (crossRows_cons rfl (crossRows_singleton rfl))
    (by exact ⟨_, rfl, rfl, fun _ => rfl, fun _ _ => rfl⟩) (by rfl) fun _ => by rfl

theorem retrieveTransactionsByHashes_eq (db : Db) (hashes : List String) :
    retrieveTransactionsByHashes db hashes = some (.ok (((db.transactionCids ×ˢ db.blocks).filter
      fun p => p.1.mhKey == p.2.key && hashes.contains p.1.txHash).map fun p =>
        (p.1.cid, p.2.data)).unzip) :=
  selectIplds_of_means [db.transactionTable, db.blockTable]
    (crossRows_cons rfl (crossRows_singleton rfl))
    (by exact ⟨_, rfl, rfl, fun _ => rfl, fun _ _ => rfl⟩) (by rfl) fun _ => by rfl

/-- `RetrieveTransactionsByBlockHash` selects each transaction whose header has the hash. -/
theorem retrieveTransactionsByBlockHash_eq (db : Db) (hash : String) :
    retrieveTransactionsByBlockHash db hash = some (.ok (((db.transactionCids ×ˢ
      db.headerCids ×ˢ db.blocks).filter fun p => ((p.1.headerId : ℤ) == p.2.1.id &&
        p.1.mhKey == p.2.2.key) && p.2.1.blockHash == hash).map fun p =>
          (p.1.cid, p.2.2.data)).unzip) :=
  selectIplds_of_means [db.transactionTable, db.headerTable, db.blockTable]
    (crossRows_cons rfl (crossRows_cons rfl (crossRows_singleton rfl)))
    (by exact ⟨_, rfl, rfl, fun _ => rfl, fun _ _ => rfl⟩) (by rfl) fun _ => by rfl

theorem retrieveTransactionsByBlockNumber_eq (db : Db) (number : ℕ) :
    retrieveTransactionsByBlockNumber db number = some (.ok (((db.transactionCids ×ˢ
      db.headerCids ×ˢ db.blocks).filter fun p => ((p.1.headerId : ℤ) == p.2.1.id &&
        p.1.mhKey == p.2.2.key) && (p.2.1.blockNumber : ℤ) == number).map fun p =>
          (p.1.cid, p.2.2.data)).unzip) :=
  selectIplds_of_means [db.transactionTable, db.headerTable, db.blockTable]
    (crossRows_cons rfl (crossRows_cons rfl (crossRows_singleton rfl)))
    (by exact ⟨_, rfl, rfl, fun _ => rfl, fun _ _ => rfl⟩) (by rfl) fun _ => by rfl

theorem retrieveTransactionByTxHash_eq (db : Db) (hash : String) :
    retrieveTransactionByTxHash db hash = some (firstRow (((db.transactionCids ×ˢ
      db.blocks).filter fun p => p.1.mhKey == p.2.key && p.1.txHash == hash).map fun p =>
        (p.1.cid, p.2.data))) :=
  getIpld_of_means [db.transactionTable, db.blockTable]
    (crossRows_cons rfl (crossRows_singleton rfl))
    (by exact ⟨_, rfl, rfl, fun _ => rfl, fun _ _ => rfl⟩) (by rfl) fun _ => by rfl

theorem retrieveReceiptsByTxHashes_eq (db : Db) (hashes : List String) :
    retrieveReceiptsByTxHashes db hashes = some (.ok (((db.receiptCids ×ˢ db.transactionCids ×ˢ
      db.blocks).filter fun p => (p.1.mhKey == p.2.2.key && (p.1.txId : ℤ) == p.2.1.id) &&
        hashes.contains p.2.1.txHash).map fun p => (p.1.cid, p.2.2.data)).unzip) :=
  selectIplds_of_means [db.receiptTable, db.transactionTable, db.blockTable]
    (crossRows_cons rfl (crossRows_cons rfl (crossRows_singleton rfl)))
    (by exact ⟨_, rfl, rfl, fun _ => rfl, fun _ _ => rfl⟩) (by rfl) fun _ => by rfl

theorem retrieveReceiptsByBlockHash_eq (db : Db) (hash : String) :
    retrieveReceiptsByBlockHash db hash = some (.ok (((db.receiptCids ×ˢ db.transactionCids ×ˢ
      db.headerCids ×ˢ db.blocks).filter fun p => (((p.1.txId : ℤ) == p.2.1.id &&
        (p.2.1.headerId : ℤ) == p.2.2.1.id) && p.1.mhKey == p.2.2.2.key) &&
          p.2.2.1.blockHash == hash).map fun p => (p.1.cid, p.2.2.2.data)).unzip) :=
  selectIplds_of_means [db.receiptTable, db.transactionTable, db.headerTable, db.blockTable]
    (crossRows_cons rfl (crossRows_cons rfl (crossRows_cons rfl (crossRows_singleton rfl))))
    (by exact ⟨_, rfl, rfl, fun _ => rfl, fun _ _ => rfl⟩) (by rfl) fun _ => by rfl

theorem retrieveReceiptsByBlockNumber_eq (db : Db) (number : ℕ) :
    retrieveReceiptsByBlockNumber db number = some (.ok (((db.receiptCids ×ˢ
      db.transactionCids ×ˢ db.headerCids ×ˢ db.blocks).filter fun p =>
        (((p.1.txId : ℤ) == p.2.1.id && (p.2.1.headerId : ℤ) == p.2.2.1.id) &&
          p.1.mhKey == p.2.2.2.key) && (p.2.2.1.blockNumber : ℤ) == number).map fun p =>
            (p.1.cid, p.2.2.2.data)).unzip) :=
  selectIplds_of_means [db.receiptTable, db.transactionTable, db.headerTable, db.blockTable]
    (crossRows_cons rfl (crossRows_cons rfl (crossRows_cons rfl (crossRows_singleton rfl))))
    (by exact ⟨_, rfl, rfl, fun _ => rfl, fun _ _ => rfl⟩) (by rfl) fun _ => by rfl

/-- The block a `mh_key` names: the first of `public.blocks` with that key. -/
def Db.blockOf (db : Db) (key : String) : Option Block := db.blocks.find? fun b => key == b.key

def Db.headerOf (db : Db) (id : ℕ) : Option HeaderCid := db.headerCids.find? fun h => id == h.id

def Db.transactionOf (db : Db) (id : ℕ) : Option TransactionCid :=
  db.transactionCids.find? fun t => id == t.id

/-- What a reader returns for rows of a CID table: each row's cid with its block's data. -/
def Db.iplds {ρ : Type} (db : Db) (cid mhKey : ρ → String) (rows : List ρ) :
    List (String × List UInt8) :=
  rows.filterMap fun r => (db.blockOf (mhKey r)).map fun b => (cid r, b.data)

/-- The join columns are keys: `public.blocks.key`, `header_cids.id` and `transaction_cids.id`. -/
structure Db.Keyed (db : Db) : Prop where
  blocks : (db.blocks.map Block.key).Nodup
  headers : (db.headerCids.map HeaderCid.id).Nodup
  transactions : (db.transactionCids.map TransactionCid.id).Nodup

instance (db : Db) : Decidable db.Keyed :=
  decidable_of_iff ((db.blocks.map Block.key).Nodup ∧ (db.headerCids.map HeaderCid.id).Nodup ∧
    (db.transactionCids.map TransactionCid.id).Nodup)
    ⟨fun ⟨a, b, c⟩ => ⟨a, b, c⟩, fun ⟨a, b, c⟩ => ⟨a, b, c⟩⟩

@[simp] theorem natCast_beq_natCast (a b : ℕ) : ((a : ℤ) == (b : ℤ)) = (a == b) := by
  rw [Bool.eq_iff_iff, beq_iff_eq, beq_iff_eq, Nat.cast_inj]

theorem filter_beq_eq_find?_toList {β γ : Type} [DecidableEq γ] {l : List β} {f : β → γ}
    (h : (l.map f).Nodup) (k : γ) :
    l.filter (fun x => k == f x) = (l.find? fun x => k == f x).toList := by
  induction l with
  | nil => rfl
  | cons x l ih =>
    rw [List.map_cons, List.nodup_cons] at h
    by_cases hx : k = f x
    · subst hx
      have : l.filter (fun y => f x == f y) = [] := List.filter_eq_nil_iff.2 fun y hy hxy =>
        h.1 (by rw [beq_iff_eq] at hxy; exact hxy ▸ List.mem_map_of_mem f hy)
      simp [List.filter_cons, List.find?_cons, this]
    · simp [List.filter_cons, List.find?_cons, hx, ih h.2]

theorem filter_product {α β : Type} (xs : List α) (ys : List β) (p : α × β → Bool) :
    (xs ×ˢ ys).filter p = xs.flatMap fun x => (ys.filter fun y => p (x, y)).map (x, ·) := by
  induction xs with
  | nil => rfl
  | cons x xs ih =>
    simp only [List.product_cons, List.filter_append, List.flatMap_cons, ih, List.filter_map]
    rfl

theorem filter_and_const {β : Type} (l : List β) (p : β → Bool) (c : Bool) :
    l.filter (fun x => p x && c) = if c then l.filter p else [] := by
  cases c <;> simp

theorem filter_const_and {β : Type} (l : List β) (c : Bool) (p : β → Bool) :
    l.filter (fun x => c && p x) = if c then l.filter p else [] := by
  cases c <;> simp

theorem flatMap_ite_eq_filter {β γ : Type} (l : List β) (p : β → Bool) (f : β → List γ) :
    l.flatMap (fun x => if p x then f x else []) = (l.filter p).flatMap f := by
  induction l with
  | nil => rfl
  | cons x l ih => cases h : p x <;> simp [List.filter_cons, h, ih]

theorem flatMap_key {π γ : Type} {parents : List π} {pid : π → ℕ}
    (hp : (parents.map pid).Nodup) (k : ℕ) (f : π → List γ) :
    parents.flatMap (fun q => if k == pid q then f q else []) =
      (parents.find? fun q => k == pid q).toList.flatMap f := by
  rw [flatMap_ite_eq_filter parents (fun q => k == pid q), filter_beq_eq_find?_toList hp]

theorem flatMap_ite_const {β γ : Type} (l : List β) (c : Prop) [Decidable c]
    (f : β → List γ) :
    l.flatMap (fun x => if c then f x else []) = if c then l.flatMap f else [] := by
  split <;> simp

section Keyed

variable {db : Db}

theorem Db.blocks_filter (hk : (db.blocks.map Block.key).Nodup) (k : String) :
    db.blocks.filter (fun b => k == b.key) = (db.blockOf k).toList :=
  filter_beq_eq_find?_toList hk k

theorem Db.iplds_cons {ρ : Type} (cid mhKey : ρ → String) (r : ρ) (rows : List ρ) :
    db.iplds cid mhKey (r :: rows) =
      ((db.blockOf (mhKey r)).map fun b => (cid r, b.data)).toList ++ db.iplds cid mhKey rows := by
  simp only [Db.iplds, List.filterMap_cons]
  cases db.blockOf (mhKey r) <;> rfl

theorem Db.flatMap_iplds {ρ : Type} (rows : List ρ) (cid mhKey : ρ → String)
    (P : ρ → Bool) :
    rows.flatMap (fun r => if P r then
        (db.blockOf (mhKey r)).toList.map fun b => (cid r, b.data) else []) =
      db.iplds cid mhKey (rows.filter P) := by
  induction rows with
  | nil => rfl
  | cons r rows ih =>
    rw [List.flatMap_cons, ih, List.filter_cons]
    cases P r with
    | false => rfl
    | true => cases h : db.blockOf (mhKey r) <;> simp [Db.iplds, h]

/-- A CID table joined with `public.blocks` on `mh_key`: each row meeting `P` with its block. -/
theorem Db.join_blocks (hk : (db.blocks.map Block.key).Nodup) {ρ : Type} (rows : List ρ)
    (cid mhKey : ρ → String) (P : ρ → Bool) :
    ((rows ×ˢ db.blocks).filter fun p => mhKey p.1 == p.2.key && P p.1).map
        (fun p => (cid p.1, p.2.data)) = db.iplds cid mhKey (rows.filter P) := by
  simp only [filter_product, List.map_flatMap, List.map_map, Function.comp_def, filter_and_const,
    apply_ite (List.map _), List.map_nil, db.blocks_filter hk]
  exact db.flatMap_iplds rows cid mhKey P

/-- A CID table joined with its parent and `public.blocks`: each row whose parent meets `C`. -/
theorem Db.join_parent_blocks (hk : (db.blocks.map Block.key).Nodup) {ρ π : Type}
    {parents : List π} {pid : π → ℕ} (hp : (parents.map pid).Nodup) (rows : List ρ)
    (ref : ρ → ℕ) (cid mhKey : ρ → String) (C : π → Bool) :
    ((rows ×ˢ parents ×ˢ db.blocks).filter fun p =>
        (ref p.1 == pid p.2.1 && mhKey p.1 == p.2.2.key) && C p.2.1).map
        (fun p => (cid p.1, p.2.2.data)) =
      db.iplds cid mhKey (rows.filter fun r => (parents.find? fun q => ref r == pid q).any C) := by
  simp only [filter_product, List.map_flatMap, List.map_map, Function.comp_def, Bool.and_assoc,
    filter_const_and, filter_and_const, apply_ite (List.map _), List.map_nil, db.blocks_filter hk]
  refine Eq.trans (congrArg rows.flatMap (funext fun r => ?_)) (db.flatMap_iplds rows cid mhKey _)
  rw [flatMap_key hp]
  cases parents.find? fun q => ref r == pid q with
  | none => rfl
  | some q => cases C q <;> simp

theorem Db.join_grandparent_blocks (hk : (db.blocks.map Block.key).Nodup) {ρ π κ : Type}
    {parents : List π} {pid : π → ℕ} (hp : (parents.map pid).Nodup) {grand : List κ}
    {gid : κ → ℕ} (hg : (grand.map gid).Nodup) (rows : List ρ) (ref : ρ → ℕ)
    (gref : π → ℕ) (cid mhKey : ρ → String) (C : κ → Bool) :
    ((rows ×ˢ parents ×ˢ grand ×ˢ db.blocks).filter fun p =>
        ((ref p.1 == pid p.2.1 && gref p.2.1 == gid p.2.2.1) && mhKey p.1 == p.2.2.2.key) &&
          C p.2.2.1).map (fun p => (cid p.1, p.2.2.2.data)) =
      db.iplds cid mhKey (rows.filter fun r => (parents.find? fun q => ref r == pid q).any fun q =>
        (grand.find? fun g => gref q == gid g).any C) := by
  simp only [filter_product, List.map_flatMap, List.map_map, Function.comp_def, Bool.and_assoc,
    filter_const_and, filter_and_const, apply_ite (List.map _), List.map_nil, db.blocks_filter hk,
    flatMap_ite_const]
  refine Eq.trans (congrArg rows.flatMap (funext fun r => ?_)) (db.flatMap_iplds rows cid mhKey _)
  rw [flatMap_key hp]
  cases parents.find? fun q => ref r == pid q with
  | none => rfl
  | some q =>
    rw [Option.toList_some, List.flatMap_singleton, flatMap_key hg]
    cases h : grand.find? fun g => gref q == gid g with
    | none => simp [h]
    | some g => cases C g <;> simp [h]

/-- `Get` over a CID table joined with `public.blocks`: the first row meeting `P` with a block. -/
theorem Db.firstRow_join_blocks {ρ : Type} (rows : List ρ) (cid mhKey : ρ → String)
    (P : ρ → Bool) :
    firstRow (((rows ×ˢ db.blocks).filter fun p => mhKey p.1 == p.2.key && P p.1).map
        fun p => (cid p.1, p.2.data)) = firstRow (db.iplds cid mhKey (rows.filter P)) := by
  simp only [filter_product, List.map_flatMap, List.map_map, Function.comp_def, filter_and_const,
    apply_ite (List.map _), List.map_nil]
  induction rows with
  | nil => rfl
  | cons r rows ih =>
    rw [List.flatMap_cons, List.filter_cons]
    cases P r with
    | false => exact ih
    | true =>
      rw [if_pos rfl, if_pos rfl, Db.iplds_cons, Db.blockOf, ← List.filter_head?]
      cases db.blocks.filter fun b => mhKey r == b.key with
      | nil => exact ih
      | cons b _ => rfl

theorem some_ok_unzip {l l' : List (String × List UInt8)} (h : l = l') :
    (some (.ok l.unzip) : Option (Except SqlError _)) = some (.ok l'.unzip) :=
  h ▸ rfl

end Keyed

/-- An index of one block, with one uncle, and one transaction with its receipt. -/
def oneBlockDb : Db where
  headerCids := [⟨1, 5, "0xh", "hcid", "hkey"⟩]
  uncleCids := [⟨1, "0xu", "ucid", "ukey"⟩]
  transactionCids := [⟨7, 1, "0xt", "tcid", "tkey"⟩]
  receiptCids := [⟨7, "rcid", "rkey"⟩]
  blocks := [⟨"hkey", [1]⟩, ⟨"ukey", [2]⟩, ⟨"tkey", [3]⟩, ⟨"rkey", [4]⟩]

section Keyed

variable {db : Db}

/-- On a keyed index each reader returns `iplds` of its rows; here `RetrieveHeadersByHashes`. -/
theorem retrieveHeadersByHashes_keyed (hk : db.Keyed) (hashes : List String) :
    retrieveHeadersByHashes db hashes = some (.ok (db.iplds HeaderCid.cid HeaderCid.mhKey
      (db.headerCids.filter fun h => hashes.contains h.blockHash)).unzip) := by
  rw [retrieveHeadersByHashes_eq]
  exact some_ok_unzip (db.join_blocks hk.blocks db.headerCids HeaderCid.cid HeaderCid.mhKey
    fun h => hashes.contains h.blockHash)

theorem retrieveHeadersByHashes_keyed_on_one_block :
    oneBlockDb.Keyed ∧
      retrieveHeadersByHashes oneBlockDb ["0xh"] = some (.ok (["hcid"], [[1]])) :=
  ⟨by decide, (retrieveHeadersByHashes_keyed (by decide) ["0xh"]).trans rfl⟩

theorem retrieveHeadersByBlockNumber_keyed (hk : db.Keyed) (number : ℕ) :
    retrieveHeadersByBlockNumber db number = some (.ok (db.iplds HeaderCid.cid HeaderCid.mhKey
      (db.headerCids.filter fun h => h.blockNumber == number)).unzip) := by
  rw [retrieveHeadersByBlockNumber_eq]
  simp only [natCast_beq_natCast]
  exact some_ok_unzip (db.join_blocks hk.blocks db.headerCids HeaderCid.cid HeaderCid.mhKey
    fun h => h.blockNumber == number)

theorem retrieveHeadersByBlockNumber_keyed_on_one_block :
    oneBlockDb.Keyed ∧
      retrieveHeadersByBlockNumber oneBlockDb 5 = some (.ok (["hcid"], [[1]])) :=
  ⟨by decide, (retrieveHeadersByBlockNumber_keyed (by decide) 5).trans rfl⟩

theorem retrieveUnclesByHashes_keyed (hk : db.Keyed) (hashes : List String) :
    retrieveUnclesByHashes db hashes = some (.ok (db.iplds UncleCid.cid UncleCid.mhKey
      (db.uncleCids.filter fun u => hashes.contains u.blockHash)).unzip) := by
  rw [retrieveUnclesByHashes_eq]
  exact some_ok_unzip (db.join_blocks hk.blocks db.uncleCids UncleCid.cid UncleCid.mhKey
    fun u => hashes.contains u.blockHash)

theorem retrieveUnclesByHashes_keyed_on_one_block :
    oneBlockDb.Keyed ∧
      retrieveUnclesByHashes oneBlockDb ["0xu"] = some (.ok (["ucid"], [[2]])) :=
  ⟨by decide, (retrieveUnclesByHashes_keyed (by decide) ["0xu"]).trans rfl⟩

theorem retrieveUnclesByBlockNumber_keyed (hk : db.Keyed) (number : ℕ) :
    retrieveUnclesByBlockNumber db number = some (.ok (db.iplds UncleCid.cid UncleCid.mhKey
      (db.uncleCids.filter fun u => (db.headerOf u.headerId).any fun h =>
        h.blockNumber == number)).unzip) := by
  rw [retrieveUnclesByBlockNumber_eq]
  simp only [natCast_beq_natCast]
  exact some_ok_unzip (db.join_parent_blocks hk.blocks hk.headers db.uncleCids UncleCid.headerId
    UncleCid.cid UncleCid.mhKey fun h => h.blockNumber == number)

theorem retrieveUnclesByBlockNumber_keyed_on_one_block :
    oneBlockDb.Keyed ∧
      retrieveUnclesByBlockNumber oneBlockDb 5 = some (.ok (["ucid"], [[2]])) :=
  ⟨by decide, (retrieveUnclesByBlockNumber_keyed (by decide) 5).trans rfl⟩

theorem retrieveTransactionsByHashes_keyed (hk : db.Keyed) (hashes : List String) :
    retrieveTransactionsByHashes db hashes = some (.ok (db.iplds TransactionCid.cid
      TransactionCid.mhKey (db.transactionCids.filter fun t =>
        hashes.contains t.txHash)).unzip) := by
  rw [retrieveTransactionsByHashes_eq]
  exact some_ok_unzip (db.join_blocks hk.blocks db.transactionCids TransactionCid.cid
    TransactionCid.mhKey fun t => hashes.contains t.txHash)

theorem retrieveTransactionsByHashes_keyed_on_one_block :
    oneBlockDb.Keyed ∧
      retrieveTransactionsByHashes oneBlockDb ["0xt"] = some (.ok (["tcid"], [[3]])) :=
  ⟨by decide, (retrieveTransactionsByHashes_keyed (by decide) ["0xt"]).trans rfl⟩

theorem retrieveTransactionsByBlockHash_keyed (hk : db.Keyed) (hash : String) :
    retrieveTransactionsByBlockHash db hash = some (.ok (db.iplds TransactionCid.cid
      TransactionCid.mhKey (db.transactionCids.filter fun t => (db.headerOf t.headerId).any fun h =>
        h.blockHash == hash)).unzip) := by
  rw [retrieveTransactionsByBlockHash_eq]
  simp only [natCast_beq_natCast]
  exact some_ok_unzip (db.join_parent_blocks hk.blocks hk.headers db.transactionCids
    TransactionCid.headerId TransactionCid.cid TransactionCid.mhKey fun h => h.blockHash == hash)

theorem retrieveTransactionsByBlockHash_keyed_on_one_block :
    oneBlockDb.Keyed ∧
      retrieveTransactionsByBlockHash oneBlockDb "0xh" = some (.ok (["tcid"], [[3]])) :=
  ⟨by decide, (retrieveTransactionsByBlockHash_keyed (by decide) "0xh").trans rfl⟩

theorem retrieveTransactionsByBlockNumber_keyed (hk : db.Keyed) (number : ℕ) :
    retrieveTransactionsByBlockNumber db number = some (.ok (db.iplds TransactionCid.cid
      TransactionCid.mhKey (db.transactionCids.filter fun t => (db.headerOf t.headerId).any fun h =>
        h.blockNumber == number)).unzip) := by
  rw [retrieveTransactionsByBlockNumber_eq]
  simp only [natCast_beq_natCast]
  exact some_ok_unzip (db.join_parent_blocks hk.blocks hk.headers db.transactionCids
    TransactionCid.headerId TransactionCid.cid TransactionCid.mhKey
    fun h => h.blockNumber == number)

theorem retrieveTransactionsByBlockNumber_keyed_on_one_block :
    oneBlockDb.Keyed ∧
      retrieveTransactionsByBlockNumber oneBlockDb 5 = some (.ok (["tcid"], [[3]])) :=
  ⟨by decide, (retrieveTransactionsByBlockNumber_keyed (by decide) 5).trans rfl⟩

theorem retrieveReceiptsByTxHashes_keyed (hk : db.Keyed) (hashes : List String) :
    retrieveReceiptsByTxHashes db hashes = some (.ok (db.iplds ReceiptCid.cid ReceiptCid.mhKey
      (db.receiptCids.filter fun r => (db.transactionOf r.txId).any fun t =>
        hashes.contains t.txHash)).unzip) := by
  rw [retrieveReceiptsByTxHashes_eq]
  simp only [natCast_beq_natCast, Bool.and_comm (ReceiptCid.mhKey _ == _)]
  exact some_ok_unzip (db.join_parent_blocks hk.blocks hk.transactions db.receiptCids
    ReceiptCid.txId ReceiptCid.cid ReceiptCid.mhKey fun t => hashes.contains t.txHash)

theorem retrieveReceiptsByTxHashes_keyed_on_one_block :
    oneBlockDb.Keyed ∧
      retrieveReceiptsByTxHashes oneBlockDb ["0xt"] = some (.ok (["rcid"], [[4]])) :=
  ⟨by decide, (retrieveReceiptsByTxHashes_keyed (by decide) ["0xt"]).trans rfl⟩

theorem retrieveReceiptsByBlockHash_keyed (hk : db.Keyed) (hash : String) :
    retrieveReceiptsByBlockHash db hash = some (.ok (db.iplds ReceiptCid.cid ReceiptCid.mhKey
      (db.receiptCids.filter fun r => (db.transactionOf r.txId).any fun t =>
        (db.headerOf t.headerId).any fun h => h.blockHash == hash)).unzip) := by
  rw [retrieveReceiptsByBlockHash_eq]
  simp only [natCast_beq_natCast]
  exact some_ok_unzip (db.join_grandparent_blocks hk.blocks hk.transactions hk.headers
    db.receiptCids ReceiptCid.txId TransactionCid.headerId ReceiptCid.cid ReceiptCid.mhKey
    fun h => h.blockHash == hash)

theorem retrieveReceiptsByBlockHash_keyed_on_one_block :
    oneBlockDb.Keyed ∧
      retrieveReceiptsByBlockHash oneBlockDb "0xh" = some (.ok (["rcid"], [[4]])) :=
  ⟨by decide, (retrieveReceiptsByBlockHash_keyed (by decide) "0xh").trans rfl⟩

theorem retrieveReceiptsByBlockNumber_keyed (hk : db.Keyed) (number : ℕ) :
    retrieveReceiptsByBlockNumber db number = some (.ok (db.iplds ReceiptCid.cid ReceiptCid.mhKey
      (db.receiptCids.filter fun r => (db.transactionOf r.txId).any fun t =>
        (db.headerOf t.headerId).any fun h => h.blockNumber == number)).unzip) := by
  rw [retrieveReceiptsByBlockNumber_eq]
  simp only [natCast_beq_natCast]
  exact some_ok_unzip (db.join_grandparent_blocks hk.blocks hk.transactions hk.headers
    db.receiptCids ReceiptCid.txId TransactionCid.headerId ReceiptCid.cid ReceiptCid.mhKey
    fun h => h.blockNumber == number)

theorem retrieveReceiptsByBlockNumber_keyed_on_one_block :
    oneBlockDb.Keyed ∧
      retrieveReceiptsByBlockNumber oneBlockDb 5 = some (.ok (["rcid"], [[4]])) :=
  ⟨by decide, (retrieveReceiptsByBlockNumber_keyed (by decide) 5).trans rfl⟩

/-- `RetrieveHeaderByHash`: the first header with the hash whose block the index holds, on every
index. -/
theorem retrieveHeaderByHash_first (hash : String) :
    retrieveHeaderByHash db hash = some (firstRow (db.iplds HeaderCid.cid HeaderCid.mhKey
      (db.headerCids.filter fun h => h.blockHash == hash))) := by
  rw [retrieveHeaderByHash_eq]
  exact congrArg some (db.firstRow_join_blocks db.headerCids HeaderCid.cid HeaderCid.mhKey
    fun h => h.blockHash == hash)

theorem retrieveUncleByHash_first (hash : String) :
    retrieveUncleByHash db hash = some (firstRow (db.iplds UncleCid.cid UncleCid.mhKey
      (db.uncleCids.filter fun u => u.blockHash == hash))) := by
  rw [retrieveUncleByHash_eq]
  exact congrArg some (db.firstRow_join_blocks db.uncleCids UncleCid.cid UncleCid.mhKey
    fun u => u.blockHash == hash)

theorem retrieveTransactionByTxHash_first (hash : String) :
    retrieveTransactionByTxHash db hash = some (firstRow (db.iplds TransactionCid.cid
      TransactionCid.mhKey (db.transactionCids.filter fun t => t.txHash == hash))) := by
  rw [retrieveTransactionByTxHash_eq]
  exact congrArg some (db.firstRow_join_blocks db.transactionCids TransactionCid.cid
    TransactionCid.mhKey fun t => t.txHash == hash)

end Keyed

end IpldEthServer.IpldIndex

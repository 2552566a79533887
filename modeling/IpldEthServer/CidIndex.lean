import IpldEthServer.Basic

/-! The tables of the `eth` schema that `cid_retriever.go` reads, keyed as the index keys
them: a header by `(block_hash, block_number)`, a transaction and a receipt by
`(hash, header_id, block_number)`, an IPLD block by `(key, block_number)`. Rows name their
header by `header_id = block_hash` together with `block_number`. -/
namespace IpldEthServer

/-- A row of `eth.header_cids`. -/
structure HeaderCid where
  blockNumber : ℕ
  blockHash : String
  deriving DecidableEq, Repr

/-- A row of `eth.transaction_cids`. -/
structure TransactionCid where
  blockNumber : ℕ
  headerId : String
  txHash : String
  index : ℕ
  src : String := ""
  dst : String := ""
  deriving DecidableEq, Repr

/-- A row of `eth.receipt_cids`; `tx_id` is the hash of its transaction. -/
structure ReceiptCid where
  blockNumber : ℕ
  headerId : String
  txId : String
  leafCid : String := ""
  postStatus : ℕ := 1
  deriving DecidableEq, Repr

/-- A row of `eth.log_cids`; a topic column is `NULL` past the log's last topic. -/
structure LogCid where
  blockNumber : ℕ
  headerId : String
  rctId : String
  index : ℕ
  address : String
  leafMhKey : String := ""
  topic0 : Option String := none
  topic1 : Option String := none
  topic2 : Option String := none
  topic3 : Option String := none
  deriving DecidableEq, Repr

/-- A row of `public.blocks`. -/
structure IpldBlock where
  blockNumber : ℕ
  key : String
  data : List UInt8
  deriving DecidableEq, Repr

/-- The column `topic%d`; there is no such column past `topic3`. -/
def LogCid.topic (l : LogCid) : ℕ → Option String
  | 0 => l.topic0
  | 1 => l.topic1
  | 2 => l.topic2
  | 3 => l.topic3
  | _ => none

def HeaderCid.pk (h : HeaderCid) : String × ℕ := (h.blockHash, h.blockNumber)

def TransactionCid.pk (t : TransactionCid) : String × String × ℕ :=
  (t.txHash, t.headerId, t.blockNumber)

/-- The header a transaction row names. -/
def TransactionCid.headerKey (t : TransactionCid) : String × ℕ := (t.headerId, t.blockNumber)

def ReceiptCid.pk (r : ReceiptCid) : String × String × ℕ := (r.txId, r.headerId, r.blockNumber)

/-- The receipt a log row names. -/
def LogCid.receiptKey (l : LogCid) : String × String × ℕ := (l.rctId, l.headerId, l.blockNumber)

def IpldBlock.pk (b : IpldBlock) : String × ℕ := (b.key, b.blockNumber)

/-- The tables an index database holds, with the primary keys the schema enforces. -/
structure IndexDb where
  headerCids : List HeaderCid := []
  transactionCids : List TransactionCid := []
  receiptCids : List ReceiptCid := []
  logCids : List LogCid := []
  blocks : List IpldBlock := []
  header_key : (headerCids.map HeaderCid.pk).Nodup := by decide
  transaction_key : (transactionCids.map TransactionCid.pk).Nodup := by decide
  receipt_key : (receiptCids.map ReceiptCid.pk).Nodup := by decide
  block_key : (blocks.map IpldBlock.pk).Nodup := by decide

/-- Each log row has its receipt, transaction, header and IPLD block rows. -/
structure IndexDb.LogsReferenced (db : IndexDb) : Prop where
  receipt : ∀ l ∈ db.logCids, ∃ r ∈ db.receiptCids, r.pk = l.receiptKey
  transaction : ∀ l ∈ db.logCids, ∃ t ∈ db.transactionCids, t.pk = l.receiptKey
  header : ∀ l ∈ db.logCids, ∃ h ∈ db.headerCids, h.pk = (l.headerId, l.blockNumber)
  block : ∀ l ∈ db.logCids, ∃ b ∈ db.blocks, b.pk = (l.leafMhKey, l.blockNumber)

/-- Modelled from the spec: `ReceiptFilter`, declared outside `src/`, with the fields §4.1.a lists.
-/
structure ReceiptFilter where
  off : Bool := false
  logAddresses : List String := []
  topics : List (List String) := []
  matchTxs : Bool := false
  deriving DecidableEq, Repr

/-- Modelled from the spec: `HeaderFilter`, declared outside `src/`. -/
structure HeaderFilter where
  off : Bool := false
  uncles : Bool := false
  deriving DecidableEq, Repr

/-- Modelled from the spec: `TxFilter`, declared outside `src/`. -/
structure TxFilter where
  off : Bool := false
  src : List String := []
  dst : List String := []
  deriving DecidableEq, Repr

/-- Modelled from the spec: `StateFilter`, declared outside `src/`. -/
structure StateFilter where
  off : Bool := false
  addresses : List String := []
  intermediateNodes : Bool := false
  deriving DecidableEq, Repr

/-- Modelled from the spec: `StorageFilter`, declared outside `src/`. -/
structure StorageFilter where
  off : Bool := false
  addresses : List String := []
  storageKeys : List String := []
  intermediateNodes : Bool := false
  deriving DecidableEq, Repr

/-- Modelled from the spec: `SubscriptionSettings`, declared outside `src/`; `End = 0` means no end.
-/
structure SubscriptionSettings where
  backFill : Bool := false
  backFillOnly : Bool := false
  start : ℤ := 0
  «end» : ℤ := 0
  headerFilter : HeaderFilter := {}
  txFilter : TxFilter := {}
  receiptFilter : ReceiptFilter := {}
  stateFilter : StateFilter := {}
  storageFilter : StorageFilter := {}
  deriving DecidableEq, Repr

/-- Modelled from the spec: `LogResult`, declared outside `src/`: a log row with the columns
selected beside it. -/
structure LogResult where
  log : LogCid
  txHash : String
  txnIndex : ℕ := 0
  rctCid : String
  postStatus : ℕ
  blockHash : String
  data : List UInt8 := []
  deriving DecidableEq, Repr

end IpldEthServer

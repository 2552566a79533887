import IpldEthServer.CidFilters

namespace IpldEthServer

/-- A value bound to a placeholder: an integer, a text, or a `pq.Array` of texts. -/
inductive SqlArg where
  | int (n : ℤ)
  | text (s : String)
  | array (l : List String)
  deriving DecidableEq, Repr

/-- The three variables a builder threads: `pgStr`, `args` and the placeholder counter `id`. -/
structure PgQuery where
  pgStr : String
  args : List SqlArg := []
  id : ℕ := 1
  deriving DecidableEq, Repr

namespace PgQuery

/-- `pgStr += s`. -/
def add (q : PgQuery) (s : String) : PgQuery := { q with pgStr := q.pgStr ++ s }

/-- `args = append(args, v)`. -/
def bind (q : PgQuery) (v : SqlArg) : PgQuery := { q with args := q.args ++ [v] }

/-- `id++`. -/
def next (q : PgQuery) : PgQuery := { q with id := q.id + 1 }

@[simp] theorem add_pgStr (q : PgQuery) (s : String) : (q.add s).pgStr = q.pgStr ++ s := rfl
@[simp] theorem add_args (q : PgQuery) (s : String) : (q.add s).args = q.args := rfl
@[simp] theorem add_id (q : PgQuery) (s : String) : (q.add s).id = q.id := rfl
@[simp] theorem bind_pgStr (q : PgQuery) (v : SqlArg) : (q.bind v).pgStr = q.pgStr := rfl
@[simp] theorem bind_args (q : PgQuery) (v : SqlArg) : (q.bind v).args = q.args ++ [v] := rfl
@[simp] theorem bind_id (q : PgQuery) (v : SqlArg) : (q.bind v).id = q.id := rfl
@[simp] theorem next_pgStr (q : PgQuery) : q.next.pgStr = q.pgStr := rfl
@[simp] theorem next_args (q : PgQuery) : q.next.args = q.args := rfl
@[simp] theorem next_id (q : PgQuery) : q.next.id = q.id + 1 := rfl

end PgQuery

/-- The fixed text each `Retrieve…CIDs` builder starts from, here that of `RetrieveTxCIDs`. -/
def retrieveTxCIDsSelect : String :=
  "SELECT CAST(transaction_cids.block_number as Text), transaction_cids.tx_hash,\n" ++
  "\t\t\t\ttransaction_cids.header_id, transaction_cids.cid, transaction_cids.mh_key, transaction_cids.dst,\n" ++
  "\t\t\t\ttransaction_cids.src, transaction_cids.index, transaction_cids.tx_data, transaction_cids.tx_type\n" ++
  "\t\t\t\tFROM eth.transaction_cids\n" ++
  "\t\t\t\tINNER JOIN eth.header_cids ON (\n" ++
  "\t\t\t\t\t\ttransaction_cids.header_id = header_cids.block_hash\n" ++
  "\t\t\t\t\t\tAND transaction_cids.block_number = header_cids.block_number\n" ++
  "\t\t\t\t\t)\n" ++
  "\t\t\t\tWHERE header_cids.block_hash = $"

def retrieveFilteredGQLLogsSelect : String :=
  "SELECT CAST(eth.log_cids.block_number as Text), eth.log_cids.header_id as block_hash,\n" ++
  "\t\t\teth.log_cids.leaf_cid, eth.log_cids.index, eth.log_cids.rct_id, eth.log_cids.address,\n" ++
  "\t\t\teth.log_cids.topic0, eth.log_cids.topic1, eth.log_cids.topic2, eth.log_cids.topic3, eth.log_cids.log_data,\n" ++
  "\t\t\tdata, eth.receipt_cids.leaf_cid as cid, eth.receipt_cids.post_status, eth.receipt_cids.tx_id AS tx_hash\n" ++
  "\t\t\t\tFROM eth.log_cids, eth.receipt_cids, public.blocks\n" ++
  "\t\t\t\tWHERE eth.log_cids.rct_id = receipt_cids.tx_id\n" ++
  "\t\t\t\tAND eth.log_cids.header_id = receipt_cids.header_id\n" ++
  "\t\t\t\tAND eth.log_cids.block_number = receipt_cids.block_number\n" ++
  "\t\t\t\tAND log_cids.leaf_mh_key = blocks.key\n" ++
  "\t\t\t\tAND log_cids.block_number = blocks.block_number\n" ++
  "\t\t\t\tAND receipt_cids.header_id = $1"

def retrieveFilteredLogSelect : String :=
  "SELECT CAST(eth.log_cids.block_number as Text), eth.log_cids.leaf_cid, eth.log_cids.index, eth.log_cids.rct_id,\n" ++
  "\t\t\teth.log_cids.address, eth.log_cids.topic0, eth.log_cids.topic1, eth.log_cids.topic2, eth.log_cids.topic3,\n" ++
  "\t\t\teth.log_cids.log_data, eth.transaction_cids.tx_hash, eth.transaction_cids.index as txn_index,\n" ++
  "\t\t\teth.receipt_cids.leaf_cid as cid, eth.receipt_cids.post_status, header_cids.block_hash\n" ++
  "\t\t\t\t\t\t\tFROM eth.log_cids, eth.receipt_cids, eth.transaction_cids, eth.header_cids\n" ++
  "\t\t\t\t\t\t\tWHERE eth.log_cids.rct_id = receipt_cids.tx_id\n" ++
  "\t\t\t\t\t\t\tAND eth.log_cids.header_id = eth.receipt_cids.header_id\n" ++
  "\t\t\t\t\t\t\tAND eth.log_cids.block_number = eth.receipt_cids.block_number\n" ++
  "\t\t\t\t\t\t\tAND receipt_cids.tx_id = transaction_cids.tx_hash\n" ++
  "\t\t\t\t\t\t\tAND receipt_cids.header_id = transaction_cids.header_id\n" ++
  "\t\t\t\t\t\t\tAND receipt_cids.block_number = transaction_cids.block_number\n" ++
  "\t\t\t\t\t\t\tAND transaction_cids.header_id = header_cids.block_hash\n" ++
  "\t\t\t\t\t\t\tAND transaction_cids.block_number = header_cids.block_number"

def retrieveRctCIDsSelect : String :=
  "SELECT CAST(receipt_cids.block_number as Text), receipt_cids.header_id, receipt_cids.tx_id,\n" ++
  "\t\t\treceipt_cids.leaf_cid, receipt_cids.leaf_mh_key, receipt_cids.contract, receipt_cids.contract_hash\n" ++
  " \t\t\tFROM eth.receipt_cids, eth.transaction_cids, eth.header_cids\n" ++
  "\t\t\tWHERE receipt_cids.tx_id = transaction_cids.tx_hash\n" ++
  "\t\t\tAND receipt_cids.header_id = transaction_cids.header_id\n" ++
  "\t\t\tAND receipt_cids.block_number = transaction_cids.block_number\n" ++
  "\t\t\tAND transaction_cids.header_id = header_cids.block_hash\n" ++
  "\t\t\tAND transaction_cids.block_number = header_cids.block_number"

def retrieveStateCIDsSelect : String :=
  "SELECT CAST(state_cids.block_number as Text), state_cids.header_id,\n" ++
  "\t\t\tstate_cids.state_leaf_key, state_cids.node_type, state_cids.cid, state_cids.mh_key, state_cids.state_path\n" ++
  "\t\t\tFROM eth.state_cids\n" ++
  "\t\t\tINNER JOIN eth.header_cids ON (\n" ++
  "\t\t\t\tstate_cids.header_id = header_cids.block_hash\n" ++
  "\t\t\t\tAND state_cids.block_number = header_cids.block_number\n" ++
  "\t\t\t)\n" ++
  "\t\t\tWHERE header_cids.block_hash = $1"

def retrieveStorageCIDsSelect : String :=
  "SELECT CAST(storage_cids.block_number as Text), storage_cids.header_id, storage_cids.storage_leaf_key,\n" ++
  "\t\t\tstorage_cids.node_type, storage_cids.cid, storage_cids.mh_key, storage_cids.storage_path, storage_cids.state_path,\n" ++
  "\t\t\tstate_cids.state_leaf_key\n" ++
  " \t\t\tFROM eth.storage_cids, eth.state_cids, eth.header_cids\n" ++
  "\t\t\tWHERE storage_cids.header_id = state_cids.header_id\n" ++
  "\t\t\tAND storage_cids.state_path = state_cids.state_path\n" ++
  "\t\t\tAND storage_cids.block_number = state_cids.block_number\n" ++
  "\t\t\tAND state_cids.header_id = header_cids.block_hash\n" ++
  "\t\t\tAND state_cids.block_number = header_cids.block_number\n" ++
  "\t\t\tAND header_cids.block_hash = $1"

/-- `RetrieveTxCIDs(tx, txFilter, headerID)`: the query it hands to `tx.Select`. -/
def retrieveTxCIDsQuery (txFilter : TxFilter) (headerID : String) : PgQuery :=
  let q : PgQuery := { pgStr := retrieveTxCIDsSelect ++ toString 1 }
  let q := (q.bind (.text headerID)).next
  let q := if !txFilter.dst.isEmpty then
      ((q.add (" AND transaction_cids.dst = ANY($" ++ toString q.id ++ "::VARCHAR(66)[])")).bind
        (.array txFilter.dst)).next
    else q
  let q := if !txFilter.src.isEmpty then
      (q.add (" AND transaction_cids.src = ANY($" ++ toString q.id ++ "::VARCHAR(66)[])")).bind
        (.array txFilter.src)
    else q
  q.add " ORDER BY transaction_cids.index"

/-- The loop of `topicFilterCondition` from topic position `i`. -/
def topicFilterConditionFrom (i : ℕ) : List (List String) → PgQuery → Bool → PgQuery
  | [], q, _ => q
  | topicSet :: topics, q, first =>
    if topicSet.isEmpty then topicFilterConditionFrom (i + 1) topics q first
    else
      let q := if !first then q.add " AND" else q
      topicFilterConditionFrom (i + 1) topics
        ((q.add (" eth.log_cids.topic" ++ toString i ++ " = ANY ($" ++ toString q.id ++ ")")).bind
          (.array topicSet)).next false

/-- `topicFilterCondition(id, topics, args, pgStr, first)`. -/
def topicFilterCondition (q : PgQuery) (topics : List (List String)) (first : Bool) : PgQuery :=
  topicFilterConditionFrom 0 topics q first

/-- `logFilterCondition(id, pgStr, args, rctFilter)`. -/
def logFilterCondition (q : PgQuery) (rctFilter : ReceiptFilter) : PgQuery :=
  let q := if !rctFilter.logAddresses.isEmpty then
      ((q.add (" AND eth.log_cids.address = ANY ($" ++ toString q.id ++ ")")).bind
        (.array rctFilter.logAddresses)).next
    else q
  if hasTopics rctFilter.topics then topicFilterCondition q rctFilter.topics false else q

/-- The `OR receipt_cids.tx_id = ANY($id)` alternative of `receiptFilterConditions`. -/
def matchTxsCondition (q : PgQuery) (rctFilter : ReceiptFilter) (txHashes : List String) :
    PgQuery :=
  if rctFilter.matchTxs && !txHashes.isEmpty then
    (q.add (" OR receipt_cids.tx_id = ANY($" ++ toString q.id ++ ")")).bind (.array txHashes)
  else q

/-- `receiptFilterConditions(id, pgStr, args, rctFilter, txHashes)`. -/
def receiptFilterConditions (q : PgQuery) (rctFilter : ReceiptFilter) (txHashes : List String) :
    PgQuery :=
  let rctCond := " AND (receipt_cids.tx_id = ANY ( "
  let logQuery := "SELECT rct_id FROM eth.log_cids WHERE"
  if !rctFilter.logAddresses.isEmpty then
    let q := ((q.add (rctCond ++ " " ++ logQuery ++ " eth.log_cids.address = ANY ($" ++
      toString q.id ++ ")")).bind (.array rctFilter.logAddresses)).next
    let q := if hasTopics rctFilter.topics then topicFilterCondition q rctFilter.topics false
      else q
    (matchTxsCondition (q.add ")") rctFilter txHashes).add ")"
  else if hasTopics rctFilter.topics then
    let q := topicFilterCondition (q.add (rctCond ++ logQuery)) rctFilter.topics true
    (matchTxsCondition (q.add ")") rctFilter txHashes).add ")"
  else if rctFilter.matchTxs && !txHashes.isEmpty then
    (q.add (" AND receipt_cids.tx_id = ANY($" ++ toString q.id ++ ")")).bind (.array txHashes)
  else q

/-- `RetrieveFilteredGQLLogs(tx, rctFilter, &blockHash, blockNumber)`: its query. -/
def retrieveFilteredGQLLogsQuery (rctFilter : ReceiptFilter) (blockHash : String)
    (blockNumber : Option ℤ) : PgQuery :=
  let q : PgQuery := { pgStr := retrieveFilteredGQLLogsSelect }
  let q := (q.bind (.text blockHash)).next
  let q := match blockNumber with
    | some n => ((q.add " AND receipt_cids.block_number = $2").next).bind (.int (bigIntInt64 n))
    | none => q
  (logFilterCondition q rctFilter).add " ORDER BY log_cids.index"

/-- `RetrieveFilteredLog(tx, rctFilter, blockNumber, blockHash)`: its query. -/
def retrieveFilteredLogQuery (rctFilter : ReceiptFilter) (blockNumber : ℤ)
    (blockHash : Option String) : PgQuery :=
  let q : PgQuery := { pgStr := retrieveFilteredLogSelect }
  let q := if blockNumber > 0 then
      ((q.add (" AND header_cids.block_number = $" ++ toString q.id)).bind (.int blockNumber)).next
    else q
  let q := match blockHash with
    | some h => ((q.add (" AND header_cids.block_hash = $" ++ toString q.id)).bind (.text h)).next
    | none => q
  (logFilterCondition q rctFilter).add " ORDER BY log_cids.index"

/-- `RetrieveRctCIDs(tx, rctFilter, blockNumber, blockHash, txHashes)`: its query. -/
def retrieveRctCIDsQuery (rctFilter : ReceiptFilter) (blockNumber : ℤ) (blockHash : String)
    (txHashes : List String) : PgQuery :=
  let q : PgQuery := { pgStr := retrieveRctCIDsSelect }
  let q := if blockNumber > 0 then
      ((q.add (" AND header_cids.block_number = $" ++ toString q.id)).bind (.int blockNumber)).next
    else q
  let q := if blockHash ≠ "" then
      ((q.add (" AND header_cids.block_hash = $" ++ toString q.id)).bind (.text blockHash)).next
    else q
  (receiptFilterConditions q rctFilter txHashes).add " ORDER BY transaction_cids.index"

/-- `RetrieveStateCIDs(tx, stateFilter, headerID)`; addresses are bound as hashes of their bytes. -/
def retrieveStateCIDsQuery (keccak256Hex : String → String) (stateFilter : StateFilter)
    (headerID : String) : PgQuery :=
  let q : PgQuery := { pgStr := retrieveStateCIDsSelect }
  let q := q.bind (.text headerID)
  let q := if !stateFilter.addresses.isEmpty then
      (q.add " AND state_cids.state_leaf_key = ANY($2::VARCHAR(66)[])").bind
        (.array (stateFilter.addresses.map keccak256Hex))
    else q
  if !stateFilter.intermediateNodes then q.add " AND state_cids.node_type = 2" else q

/-- `RetrieveStorageCIDs(tx, storageFilter, headerID)`: the query it hands to `tx.Select`. -/
def retrieveStorageCIDsQuery (keccak256Hex : String → String) (storageFilter : StorageFilter)
    (headerID : String) : PgQuery :=
  let q : PgQuery := { pgStr := retrieveStorageCIDsSelect }
  let q := q.bind (.text headerID)
  let q := { q with id := 2 }
  let q := if !storageFilter.addresses.isEmpty then
      ((q.add (" AND state_cids.state_leaf_key = ANY($" ++ toString q.id ++ "::VARCHAR(66)[])")).bind
        (.array (storageFilter.addresses.map keccak256Hex))).next
    else q
  let q := if !storageFilter.storageKeys.isEmpty then
      (q.add (" AND storage_cids.storage_leaf_key = ANY($" ++ toString q.id ++
        "::VARCHAR(66)[])")).bind (.array storageFilter.storageKeys)
    else q
  if !storageFilter.intermediateNodes then q.add " AND storage_cids.node_type = 2" else q

/-- `RetrieveHeaderCIDs(tx, blockNumber)`: the query it hands to `tx.Select`. -/
def retrieveHeaderCIDsQuery (blockNumber : ℤ) : PgQuery where
  pgStr :=
    "SELECT CAST(block_number as Text), block_hash, parent_hash, cid, mh_key, CAST(td as Text), node_id,\n" ++
    "\t\t\t\tCAST(reward as Text), state_root, uncle_root,tx_root, receipt_root, bloom, timestamp, times_validated, coinbase\n" ++
    "\t\t\t\tFROM eth.header_cids\n" ++
    "\t\t\t\tWHERE block_number = $1"
  args := [.int blockNumber]

/-- `RetrieveUncleCIDsByHeaderID(tx, headerID)`: the query it hands to `tx.Select`. -/
def retrieveUncleCIDsByHeaderIDQuery (headerID : String) : PgQuery where
  pgStr :=
    "SELECT CAST(block_number as Text), header_id, block_hash, parent_hash, cid, mh_key, CAST(reward as text)\n" ++
    "\t\t\t\tFROM eth.uncle_cids\n" ++
    "\t\t\t\tWHERE header_id = $1"
  args := [.text headerID]

/-- `RetrieveHeaderCIDByHash(tx, blockHash)`: the query it hands to `tx.Get`. -/
def retrieveHeaderCIDByHashQuery (blockHash : String) : PgQuery where
  pgStr :=
    "SELECT block_hash, CAST(block_number as Text), parent_hash, cid, mh_key, CAST(td as Text),\n" ++
    "\t\t\tstate_root, uncle_root, tx_root, receipt_root, bloom, timestamp FROM eth.header_cids\n" ++
    "\t\t\tWHERE block_hash = $1"
  args := [.text blockHash]

/-- `RetrieveTxCIDsByHeaderID(tx, headerID, blockNumber)`: the query it hands to `tx.Select`. -/
def retrieveTxCIDsByHeaderIDQuery (headerID : String) (blockNumber : ℤ) : PgQuery where
  pgStr :=
    "SELECT CAST(block_number as Text), header_id, index, tx_hash, cid, mh_key,\n" ++
    "\t\t\tdst, src, tx_data, tx_type, value\n" ++
    "\t\t\tFROM eth.transaction_cids\n" ++
    "\t\t\tWHERE header_id = $1 AND block_number = $2\n" ++
    "\t\t\tORDER BY index"
  args := [.text headerID, .int blockNumber]

/-- `RetrieveReceiptCIDsByByHeaderIDAndTxIDs(tx, headerID, txHashes, blockNumber)`: its query. -/
def retrieveReceiptCIDsByByHeaderIDAndTxIDsQuery (headerID : String) (txHashes : List String)
    (blockNumber : ℤ) : PgQuery where
  pgStr :=
    "SELECT CAST(receipt_cids.block_number as Text), receipt_cids.header_id, receipt_cids.tx_id, receipt_cids.leaf_cid,\n" ++
    "\t\t\treceipt_cids.leaf_mh_key, receipt_cids.contract, receipt_cids.contract_hash\n" ++
    "\t\t\tFROM eth.receipt_cids, eth.transaction_cids\n" ++
    "\t\t\tWHERE tx_id = ANY($2)\n" ++
    "\t\t\tAND receipt_cids.tx_id = transaction_cids.tx_hash\n" ++
    "\t\t\tAND receipt_cids.header_id = transaction_cids.header_id\n" ++
    "\t\t\tAND receipt_cids.block_number = transaction_cids.block_number\n" ++
    "\t\t\tAND transaction_cids.header_id = $1\n" ++
    "\t\t\tAND transaction_cids.block_number = $3\n" ++
    "\t\t\tORDER BY transaction_cids.index"
  args := [.text headerID, .array txHashes, .int blockNumber]

def TxFilter.shape (f : TxFilter) : Bool × Bool := (f.dst.isEmpty, f.src.isEmpty)

/-- What of a filter the texts read: which lists and topic positions are empty, and `MatchTxs`. -/
def ReceiptFilter.shape (f : ReceiptFilter) : Bool × List Bool × Bool :=
  (f.logAddresses.isEmpty, f.topics.map List.isEmpty, f.matchTxs)

def StateFilter.shape (f : StateFilter) : Bool × Bool := (f.addresses.isEmpty, f.intermediateNodes)

def StorageFilter.shape (f : StorageFilter) : Bool × Bool × Bool :=
  (f.addresses.isEmpty, f.storageKeys.isEmpty, f.intermediateNodes)

/-- Two builders with the same text so far and the same counter; `args` may differ. -/
def PgQuery.SameText (q₁ q₂ : PgQuery) : Prop := q₁.pgStr = q₂.pgStr ∧ q₁.id = q₂.id

theorem PgQuery.SameText.ite {c : Prop} [Decidable c] {a₁ a₂ b₁ b₂ : PgQuery}
    (ha : a₁.SameText a₂) (hb : b₁.SameText b₂) :
    (if c then a₁ else b₁).SameText (if c then a₂ else b₂) := by
  split_ifs
  exacts [ha, hb]

theorem PgQuery.SameText.add {q₁ q₂ : PgQuery} (hq : q₁.SameText q₂) (s : String) :
    (q₁.add s).SameText (q₂.add s) :=
  ⟨by simp [hq.1], hq.2⟩

theorem hasTopics_eq_of_shape :
    ∀ {t₁ t₂ : List (List String)}, t₁.map List.isEmpty = t₂.map List.isEmpty →
      hasTopics t₁ = hasTopics t₂
  | [], [], _ => rfl
  | s₁ :: t₁, s₂ :: t₂, h => by
    obtain ⟨hs, ht⟩ := List.cons.inj h
    have ih : hasTopics t₁ = hasTopics t₂ := hasTopics_eq_of_shape ht
    simp only [hasTopics, List.any_cons, hs] at ih ⊢
    rw [ih]

/-- The topic loop writes the same text for topic lists with the same empty positions. -/
theorem topicFilterConditionFrom_sameText :
    ∀ {t₁ t₂ : List (List String)}, t₁.map List.isEmpty = t₂.map List.isEmpty →
      ∀ (i : ℕ) {q₁ q₂ : PgQuery} (first : Bool), q₁.SameText q₂ →
        (topicFilterConditionFrom i t₁ q₁ first).SameText (topicFilterConditionFrom i t₂ q₂ first)
  | [], [], _, _, _, _, _, hq => hq
  | s₁ :: t₁, s₂ :: t₂, h, i, q₁, q₂, first, ⟨hp, hi⟩ => by
    obtain ⟨hs, ht⟩ := List.cons.inj h
    simp only [topicFilterConditionFrom, hs]
    split_ifs
    · exact topicFilterConditionFrom_sameText ht _ _ ⟨hp, hi⟩
    · exact topicFilterConditionFrom_sameText ht _ _ ⟨by simp [hp, hi], by simp [hi]⟩
    · exact topicFilterConditionFrom_sameText ht _ _ ⟨by simp [hp, hi], by simp [hi]⟩

section Shape

variable {r₁ r₂ : ReceiptFilter} (h : r₁.shape = r₂.shape) {q₁ q₂ : PgQuery}
include h

theorem logFilterCondition_sameText (hq : q₁.SameText q₂) :
    (logFilterCondition q₁ r₁).SameText (logFilterCondition q₂ r₂) := by
  simp only [ReceiptFilter.shape, Prod.mk.injEq] at h
  obtain ⟨hl, ht, -⟩ := h
  simp only [logFilterCondition, topicFilterCondition, hl, hasTopics_eq_of_shape ht]
  refine .ite (topicFilterConditionFrom_sameText ht 0 false (.ite ?_ hq)) (.ite ?_ hq) <;>
    exact ⟨by simp [hq.1, hq.2], by simp [hq.2]⟩

theorem matchTxsCondition_sameText {x₁ x₂ : List String} (hx : x₁.isEmpty = x₂.isEmpty)
    (hq : q₁.SameText q₂) :
    (matchTxsCondition q₁ r₁ x₁).SameText (matchTxsCondition q₂ r₂ x₂) := by
  simp only [ReceiptFilter.shape, Prod.mk.injEq] at h
  simp only [matchTxsCondition, h.2.2, hx]
  exact PgQuery.SameText.ite ⟨by simp [hq.1, hq.2], hq.2⟩ hq

theorem receiptFilterConditions_sameText {x₁ x₂ : List String} (hx : x₁.isEmpty = x₂.isEmpty)
    (hq : q₁.SameText q₂) :
    (receiptFilterConditions q₁ r₁ x₁).SameText (receiptFilterConditions q₂ r₂ x₂) := by
  have hs := h
  simp only [ReceiptFilter.shape, Prod.mk.injEq] at hs
  obtain ⟨hl, ht, hm⟩ := hs
  have hmatch : ∀ {a b : PgQuery}, a.SameText b →
      (matchTxsCondition a r₁ x₁).SameText (matchTxsCondition b r₂ x₂) :=
    matchTxsCondition_sameText h hx
  simp only [receiptFilterConditions, hl, hm, hx, hasTopics_eq_of_shape ht, topicFilterCondition]
  refine .ite ((hmatch ((PgQuery.SameText.ite
    (topicFilterConditionFrom_sameText ht 0 false ?_) ?_).add ")")).add ")")
    (.ite ((hmatch ((topicFilterConditionFrom_sameText ht 0 true (hq.add _)).add ")")).add ")")
      (.ite ?_ hq)) <;>
    exact ⟨by simp [hq.1, hq.2], by simp [hq.2]⟩

end Shape

/-- The text of each builder is fixed by the shape of its inputs, whatever values they hold. -/
theorem sql_text_determined_by_shape :
    (∀ (f₁ f₂ : TxFilter) (headerID₁ headerID₂ : String), f₁.shape = f₂.shape →
        (retrieveTxCIDsQuery f₁ headerID₁).pgStr = (retrieveTxCIDsQuery f₂ headerID₂).pgStr) ∧
      (∀ (r₁ r₂ : ReceiptFilter) (n₁ n₂ : ℤ) (b₁ b₂ : String) (x₁ x₂ : List String),
        r₁.shape = r₂.shape → (0 < n₁ ↔ 0 < n₂) → (b₁ = "" ↔ b₂ = "") →
        x₁.isEmpty = x₂.isEmpty →
        (retrieveRctCIDsQuery r₁ n₁ b₁ x₁).pgStr = (retrieveRctCIDsQuery r₂ n₂ b₂ x₂).pgStr) ∧
      (∀ (r₁ r₂ : ReceiptFilter) (n₁ n₂ : ℤ) (b₁ b₂ : Option String),
        r₁.shape = r₂.shape → (0 < n₁ ↔ 0 < n₂) → b₁.isSome = b₂.isSome →
        (retrieveFilteredLogQuery r₁ n₁ b₁).pgStr = (retrieveFilteredLogQuery r₂ n₂ b₂).pgStr) ∧
      (∀ (r₁ r₂ : ReceiptFilter) (b₁ b₂ : String) (n₁ n₂ : Option ℤ),
        r₁.shape = r₂.shape → n₁.isSome = n₂.isSome →
        (retrieveFilteredGQLLogsQuery r₁ b₁ n₁).pgStr =
          (retrieveFilteredGQLLogsQuery r₂ b₂ n₂).pgStr) ∧
      (∀ (k₁ k₂ : String → String) (s₁ s₂ : StateFilter) (headerID₁ headerID₂ : String),
        s₁.shape = s₂.shape →
        (retrieveStateCIDsQuery k₁ s₁ headerID₁).pgStr =
          (retrieveStateCIDsQuery k₂ s₂ headerID₂).pgStr) ∧
      ∀ (k₁ k₂ : String → String) (s₁ s₂ : StorageFilter) (headerID₁ headerID₂ : String),
        s₁.shape = s₂.shape →
        (retrieveStorageCIDsQuery k₁ s₁ headerID₁).pgStr =
          (retrieveStorageCIDsQuery k₂ s₂ headerID₂).pgStr := by
  refine ⟨fun f₁ f₂ _ _ hf => ?_, fun r₁ r₂ n₁ n₂ b₁ b₂ x₁ x₂ hr hn hb hx => ?_,
    fun r₁ r₂ n₁ n₂ b₁ b₂ hr hn hb => ?_, fun r₁ r₂ _ _ n₁ n₂ hr hn => ?_,
    fun _ _ s₁ s₂ _ _ hs => ?_, fun _ _ s₁ s₂ _ _ hs => ?_⟩
  · simp only [TxFilter.shape, Prod.mk.injEq] at hf
    simp only [retrieveTxCIDsQuery, hf.1, hf.2]
    split_ifs <;> simp
  · by_cases h₁ : 0 < n₁ <;> by_cases h₂ : b₁ = "" <;>
      simp only [retrieveRctCIDsQuery, gt_iff_lt, ← propext hn, ← propext hb, h₁, h₂, if_true,
        if_false, ne_eq,
        not_true_eq_false, not_false_eq_true] <;>
      exact ((receiptFilterConditions_sameText hr hx ⟨by simp, by simp⟩).add _).1
  · by_cases h₁ : 0 < n₁ <;> cases b₁ <;> cases b₂ <;>
      simp only [Option.isSome, Bool.false_eq_true, Bool.true_eq_false] at hb <;>
      simp only [retrieveFilteredLogQuery, gt_iff_lt, ← propext hn, h₁, if_true, if_false] <;>
      exact ((logFilterCondition_sameText hr ⟨by simp, by simp⟩).add _).1
  · cases n₁ <;> cases n₂ <;>
      simp only [Option.isSome, Bool.false_eq_true, Bool.true_eq_false] at hn <;>
      simp only [retrieveFilteredGQLLogsQuery] <;>
      exact ((logFilterCondition_sameText hr ⟨by simp, by simp⟩).add _).1
  · simp only [StateFilter.shape, Prod.mk.injEq] at hs
    simp only [retrieveStateCIDsQuery, hs.1, hs.2]
    split_ifs <;> simp
  · simp only [StorageFilter.shape, Prod.mk.injEq] at hs
    simp only [retrieveStorageCIDsQuery, hs.1, hs.2.1, hs.2.2]
    split_ifs <;> simp

end IpldEthServer

import IpldEthServer.SqlConditions
import IpldEthServer.CidRetrieve

namespace IpldEthServer

/-- A state row and a header row as a query sees them. -/
def BlockIndexDb.stateScope (db : BlockIndexDb) (p : StateNodeCid × HeaderCid) : Scope :=
  [(db.stateTable, p.1.value), (db.headerTable, p.2.value)]

theorem retrieveStateCIDsQuery_means (keccak256Hex : String → String) (db : BlockIndexDb)
    (stateFilter : StateFilter) (headerID : String) :
    QueryMeans db.sqlTables [db.stateTable, db.headerTable] db.stateScope
      (retrieveStateCIDsQuery keccak256Hex stateFilter headerID)
      ["eth.state_cids", "eth.header_cids"] none none fun p =>
        ((p.1.headerId == p.2.blockHash && (p.1.blockNumber : ℤ) == p.2.blockNumber) &&
            p.2.blockHash == headerID) &&
          (stateFilter.addresses.isEmpty ||
            (stateFilter.addresses.map keccak256Hex).contains p.1.stateLeafKey) &&
          (stateFilter.intermediateNodes || p.1.nodeType == 2) := by
  have h0 : Building db.sqlTables [[db.stateTable, db.headerTable]] db.stateScope
      ["eth.state_cids", "eth.header_cids"] []
      (({ pgStr := retrieveStateCIDsSelect } : PgQuery).bind (.text headerID))
      (some (.and (.and (.eq "state_cids.header_id" (.column "header_cids.block_hash"))
        (.eq "state_cids.block_number" (.column "header_cids.block_number")))
        (.eq "header_cids.block_hash" (.param "1")))) none
      fun p => (p.1.headerId == p.2.blockHash && (p.1.blockNumber : ℤ) == p.2.blockNumber) &&
        p.2.blockHash == headerID :=
    ⟨rfl, ⟨rfl, fun _ => rfl, fun _ _ => rfl⟩⟩
  refine Building.finish ?_
  refine Exists.imp (fun c h => Building.congr h fun p => ?_) (Building.ite (Building.ite ⟨_, h0⟩
      fun _ h _ => ⟨_, h.andAtom (CondMeans.eqAny (fun _ => by rfl) (by rfl) (by rfl)) rfl rfl
        rfl rfl⟩)
      fun _ h _ => ⟨_, h.andFixed (CondMeans.eqNumeral (fun _ => by rfl) (by rfl) 2 (by rfl)) rfl
        rfl rfl rfl⟩)
  simp only [Bool.decide_eq_true, Bool.not_not]

/-- The text `RetrieveStateCIDs` builds selects the state rows of its row-level model. -/
theorem retrieveStateCIDsQuery_refines (keccak256Hex : String → String) (db : BlockIndexDb)
    (stateFilter : StateFilter) (headerID : String) :
    ∃ sel, parseSql (retrieveStateCIDsQuery keccak256Hex stateFilter headerID).pgStr = some sel ∧
      (sel.run db.sqlTables (retrieveStateCIDsQuery keccak256Hex stateFilter headerID).args).map
          (List.map Scope.first) =
        .ok ((retrieveStateCIDs keccak256Hex db stateFilter headerID).map StateNodeCid.value) := by
  obtain ⟨sel, hp, hrun⟩ := (retrieveStateCIDsQuery_means keccak256Hex db stateFilter headerID).run
    rfl (crossRows_cons rfl (crossRows_singleton rfl))
  refine ⟨sel, hp, ?_⟩
  rw [hrun]
  simp [joinResult, orderRows, Except.map, retrieveStateCIDs, map_filter_eq_flatMap,
    List.flatMap_assoc, List.flatMap_map, List.map_flatMap, StateNodeCid.headerKey, HeaderCid.pk,
    imp_iff_not_or, and_assoc]
  rfl

def IndexDb.txScope (db : IndexDb) (p : TransactionCid × HeaderCid) : Scope :=
  [(db.transactionTable, p.1.value), (db.headerTable, p.2.value)]

theorem retrieveTxCIDsQuery_means (db : BlockIndexDb) (txFilter : TxFilter) (headerID : String) :
    QueryMeans db.sqlTables [db.transactionTable, db.headerTable] db.txScope
      (retrieveTxCIDsQuery txFilter headerID) ["eth.transaction_cids", "eth.header_cids"]
      (some "transaction_cids.index") none fun p =>
        ((p.1.headerId == p.2.blockHash && (p.1.blockNumber : ℤ) == p.2.blockNumber) &&
            p.2.blockHash == headerID) &&
          (txFilter.dst.isEmpty || txFilter.dst.contains p.1.dst) &&
          (txFilter.src.isEmpty || txFilter.src.contains p.1.src) := by
  have h0 : Building db.sqlTables [[db.transactionTable, db.headerTable]] db.txScope
      ["eth.transaction_cids", "eth.header_cids"] []
      (({ pgStr := retrieveTxCIDsSelect ++ toString 1 } : PgQuery).bind (.text headerID)).next
      (some (.and (.and (.eq "transaction_cids.header_id" (.column "header_cids.block_hash"))
        (.eq "transaction_cids.block_number" (.column "header_cids.block_number")))
        (.eq "header_cids.block_hash" (.param "1")))) none
      fun p => (p.1.headerId == p.2.blockHash && (p.1.blockNumber : ℤ) == p.2.blockNumber) &&
        p.2.blockHash == headerID :=
    ⟨rfl, ⟨rfl, fun _ => rfl, fun _ _ => rfl⟩⟩
  refine Building.finishOrdered ?_ rfl rfl
  refine Exists.imp (fun c h => Building.congr h fun p => ?_)
    (Building.ite (Building.ite ⟨_, h0⟩
      fun _ h _ => ⟨_, Building.next (h.andParam (CondMeans.eqAny (fun _ => by rfl) (by rfl)
        (by rw [decimalValue_toString]; rfl)) rfl rfl rfl rfl fun _ => rfl)⟩)
      fun _ h _ => ⟨_, h.andParam (CondMeans.eqAny (fun _ => by rfl) (by rfl)
        (by rw [decimalValue_toString]; split <;> rfl)) rfl rfl rfl rfl fun _ => rfl⟩)
  simp only [Bool.decide_eq_true, Bool.not_not]

/-- The text `RetrieveTxCIDs` builds selects the transaction rows of its model, in order. -/
theorem retrieveTxCIDsQuery_refines (db : BlockIndexDb) (txFilter : TxFilter) (headerID : String) :
    ∃ sel, parseSql (retrieveTxCIDsQuery txFilter headerID).pgStr = some sel ∧
      (sel.run db.sqlTables (retrieveTxCIDsQuery txFilter headerID).args).map
          (List.map Scope.first) =
        .ok ((retrieveTxCIDs db txFilter headerID).map TransactionCid.value) := by
  obtain ⟨sel, hp, hrun⟩ := (retrieveTxCIDsQuery_means db txFilter headerID).run
    rfl (crossRows_cons rfl (crossRows_singleton rfl))
  refine ⟨sel, hp, ?_⟩
  have hk : (fun a => orderKey "transaction_cids.index" (db.txScope a)) = fun a => a.1.index :=
    rfl
  have hg : Scope.first ∘ db.txScope = TransactionCid.value ∘ Prod.fst := rfl
  rw [hrun, joinResult, orderRows, orderBy_map, hk]
  simp only [Except.map]
  rw [List.map_map, hg, ← List.map_map, ← orderBy_map]
  simp [retrieveTxCIDs, map_filter_eq_flatMap, List.flatMap_assoc, List.flatMap_map,
    List.map_flatMap, TransactionCid.headerKey, HeaderCid.pk, imp_iff_not_or, and_assoc]

def BlockIndexDb.storageScope (db : BlockIndexDb)
    (p : StorageNodeCid × StateNodeCid × HeaderCid) : Scope :=
  [(db.storageTable, p.1.value), (db.stateTable, p.2.1.value), (db.headerTable, p.2.2.value)]

/-- What `RetrieveStorageCIDs` scans from a joined row: the storage row and its state's leaf key. -/
def storageColumnsOf (sc : Scope) : (String → SqlValue) × Option SqlValue :=
  (Scope.first sc, resolve sc "state_cids.state_leaf_key")

def StorageNodeWithStateKey.columns (x : StorageNodeWithStateKey) :
    (String → SqlValue) × Option SqlValue :=
  (x.storage.value, some (.text x.stateLeafKey))

theorem retrieveStorageCIDsQuery_means (keccak256Hex : String → String) (db : BlockIndexDb)
    (storageFilter : StorageFilter) (headerID : String) :
    QueryMeans db.sqlTables [db.storageTable, db.stateTable, db.headerTable] db.storageScope
      (retrieveStorageCIDsQuery keccak256Hex storageFilter headerID)
      ["eth.storage_cids", "eth.state_cids", "eth.header_cids"] none none fun p =>
        (((((p.1.headerId == p.2.1.headerId && p.1.statePath == p.2.1.statePath) &&
            (p.1.blockNumber : ℤ) == p.2.1.blockNumber) && p.2.1.headerId == p.2.2.blockHash) &&
            (p.2.1.blockNumber : ℤ) == p.2.2.blockNumber) && p.2.2.blockHash == headerID) &&
          (storageFilter.addresses.isEmpty ||
            (storageFilter.addresses.map keccak256Hex).contains p.2.1.stateLeafKey) &&
          (storageFilter.storageKeys.isEmpty ||
            storageFilter.storageKeys.contains p.1.storageLeafKey) &&
          (storageFilter.intermediateNodes || p.1.nodeType == 2) := by
  have h0 : Building db.sqlTables [[db.storageTable, db.stateTable, db.headerTable]]
      db.storageScope ["eth.storage_cids", "eth.state_cids", "eth.header_cids"] []
      { (({ pgStr := retrieveStorageCIDsSelect } : PgQuery).bind (.text headerID)) with id := 2 }
      (some (.and (.and (.and (.and (.and
        (.eq "storage_cids.header_id" (.column "state_cids.header_id"))
        (.eq "storage_cids.state_path" (.column "state_cids.state_path")))
        (.eq "storage_cids.block_number" (.column "state_cids.block_number")))
        (.eq "state_cids.header_id" (.column "header_cids.block_hash")))
        (.eq "state_cids.block_number" (.column "header_cids.block_number")))
        (.eq "header_cids.block_hash" (.param "1")))) none
      fun p => ((((p.1.headerId == p.2.1.headerId && p.1.statePath == p.2.1.statePath) &&
        (p.1.blockNumber : ℤ) == p.2.1.blockNumber) && p.2.1.headerId == p.2.2.blockHash) &&
        (p.2.1.blockNumber : ℤ) == p.2.2.blockNumber) && p.2.2.blockHash == headerID :=
    ⟨rfl, ⟨rfl, fun _ => rfl, fun _ _ => rfl⟩⟩
  refine Building.finish ?_
  refine Exists.imp (fun c h => Building.congr h fun p => ?_)
    (Building.ite (Building.ite (Building.ite ⟨_, h0⟩
      fun _ h _ => ⟨_, Building.next (h.andParam (CondMeans.eqAny (fun _ => by rfl) (by rfl)
        (by rw [decimalValue_toString]; rfl)) rfl rfl rfl rfl fun _ => rfl)⟩)
      fun _ h _ => ⟨_, h.andParam (CondMeans.eqAny (fun _ => by rfl) (by rfl)
        (by rw [decimalValue_toString]; split <;> rfl)) rfl rfl rfl rfl fun _ => rfl⟩)
      fun _ h _ => ⟨_, h.andFixed (CondMeans.eqNumeral (fun _ => by rfl) (by rfl) 2 (by rfl)) rfl
        rfl rfl rfl⟩)
  simp only [Bool.decide_eq_true, Bool.not_not]

/-- The text `RetrieveStorageCIDs` builds selects the storage rows of its model, with leaf keys. -/
theorem retrieveStorageCIDsQuery_refines (keccak256Hex : String → String) (db : BlockIndexDb)
    (storageFilter : StorageFilter) (headerID : String) :
    ∃ sel, parseSql (retrieveStorageCIDsQuery keccak256Hex storageFilter headerID).pgStr =
        some sel ∧
      (sel.run db.sqlTables (retrieveStorageCIDsQuery keccak256Hex storageFilter headerID).args).map
          (List.map storageColumnsOf) =
        .ok ((retrieveStorageCIDs keccak256Hex db storageFilter headerID).map
          StorageNodeWithStateKey.columns) := by
  obtain ⟨sel, hp, hrun⟩ :=
    (retrieveStorageCIDsQuery_means keccak256Hex db storageFilter headerID).run
      rfl (crossRows_cons rfl (crossRows_cons rfl (crossRows_singleton rfl)))
  refine ⟨sel, hp, ?_⟩
  rw [hrun]
  simp [joinResult, orderRows, Except.map, retrieveStorageCIDs, map_filter_eq_flatMap,
    List.flatMap_assoc, List.flatMap_map, List.map_flatMap, StateNodeCid.headerKey, HeaderCid.pk,
    imp_iff_not_or, and_assoc]
  rfl

def IndexDb.filteredLogScope (db : IndexDb)
    (p : LogCid × ReceiptCid × TransactionCid × HeaderCid) : Scope :=
  [(db.logTable, p.1.value), (db.receiptTable, p.2.1.value), (db.transactionTable, p.2.2.1.value),
    (db.headerTable, p.2.2.2.value)]

/-- What `RetrieveFilteredLog` scans from a joined row, the select list's columns by name. -/
def filteredLogColumnsOf (sc : Scope) : (String → SqlValue) × List (Option SqlValue) :=
  (Scope.first sc, [resolve sc "eth.transaction_cids.tx_hash", resolve sc "eth.transaction_cids.index",
    resolve sc "eth.receipt_cids.leaf_cid", resolve sc "eth.receipt_cids.post_status",
    resolve sc "header_cids.block_hash"])

def LogResult.filteredLogColumns (r : LogResult) : (String → SqlValue) × List (Option SqlValue) :=
  (r.log.value, [some (.text r.txHash), some (.int r.txnIndex), some (.text r.rctCid),
    some (.int r.postStatus), some (.text r.blockHash)])

theorem IndexDb.filteredLogScope_logScope (db : IndexDb) :
    LogScope db [[db.logTable, db.receiptTable, db.transactionTable, db.headerTable]]
      db.filteredLogScope Prod.fst :=
  ⟨⟨_, [], rfl, by simp only [List.forall_mem_cons]; exact ⟨rfl, rfl, rfl, fun _ h => nomatch h⟩⟩,
    fun _ => ⟨_, rfl, by simp only [List.forall_mem_cons]; exact ⟨rfl, rfl, rfl, fun _ h => nomatch h⟩⟩⟩

theorem retrieveFilteredLogQuery_means (db : IndexDb) (rctFilter : ReceiptFilter)
    (blockNumber : ℤ) (blockHash : Option String) :
    QueryMeans db.sqlTables [db.logTable, db.receiptTable, db.transactionTable, db.headerTable]
      db.filteredLogScope (retrieveFilteredLogQuery rctFilter blockNumber blockHash)
      ["eth.log_cids", "eth.receipt_cids", "eth.transaction_cids", "eth.header_cids"]
      (some "log_cids.index")
      ((undefinedTopicColumn rctFilter.topics).map topicColumnError)
      fun p => decide (filteredLogWhere rctFilter blockNumber blockHash p.1 p.2.1 p.2.2.1 p.2.2.2) := by
  have h0 : Building db.sqlTables [[db.logTable, db.receiptTable, db.transactionTable,
      db.headerTable]] db.filteredLogScope
      ["eth.log_cids", "eth.receipt_cids", "eth.transaction_cids", "eth.header_cids"] []
      { pgStr := retrieveFilteredLogSelect }
      (some (.and (.and (.and (.and (.and (.and (.and
        (.eq "eth.log_cids.rct_id" (.column "receipt_cids.tx_id"))
        (.eq "eth.log_cids.header_id" (.column "eth.receipt_cids.header_id")))
        (.eq "eth.log_cids.block_number" (.column "eth.receipt_cids.block_number")))
        (.eq "receipt_cids.tx_id" (.column "transaction_cids.tx_hash")))
        (.eq "receipt_cids.header_id" (.column "transaction_cids.header_id")))
        (.eq "receipt_cids.block_number" (.column "transaction_cids.block_number")))
        (.eq "transaction_cids.header_id" (.column "header_cids.block_hash")))
        (.eq "transaction_cids.block_number" (.column "header_cids.block_number")))) none
      fun p => ((((((p.1.rctId == p.2.1.txId && p.1.headerId == p.2.1.headerId) &&
        (p.1.blockNumber : ℤ) == p.2.1.blockNumber) && p.2.1.txId == p.2.2.1.txHash) &&
        p.2.1.headerId == p.2.2.1.headerId) && (p.2.1.blockNumber : ℤ) == p.2.2.1.blockNumber) &&
        p.2.2.1.headerId == p.2.2.2.blockHash) &&
        (p.2.2.1.blockNumber : ℤ) == p.2.2.2.blockNumber :=
    ⟨rfl, ⟨rfl, fun _ => rfl, fun _ _ => rfl⟩⟩
  refine Building.finishOrdered ?_ rfl rfl
  refine Exists.imp (fun c h => Building.congr h fun p => ?_)
    (Building.logFilterCondition (Building.optionText blockHash (Building.ite ⟨_, h0⟩
      fun _ h _ => ⟨_, Building.next (h.andParamLast (CondMeans.eqParam
        (fun p => by exact (rfl : _ = some (SqlValue.int p.2.2.2.blockNumber))) (by rfl)
        (by rw [decimalValue_toString]; rfl) (by rfl)) rfl rfl fun _ => rfl)⟩)
      fun _ _ h => ⟨_, Building.next (h.andParamLast (CondMeans.eqParam
        (fun p => by exact (rfl : _ = some (SqlValue.text p.2.2.2.blockHash))) (by rfl)
        (by rw [decimalValue_toString]; split <;> rfl) (by rfl)) rfl rfl fun _ => rfl)⟩)
      db.filteredLogScope_logScope (by split <;> split <;> simp))
  rw [Bool.eq_iff_iff]
  simp [filteredLogWhere, SqlValue.eqv, LogCid.receiptKey, ReceiptCid.pk, TransactionCid.pk,
    TransactionCid.headerKey, HeaderCid.pk, imp_iff_not_or, and_assoc]

/-- The text `RetrieveFilteredLog` builds selects its model's log results, or fails as it says. -/
theorem retrieveFilteredLogQuery_refines (db : IndexDb) (rctFilter : ReceiptFilter)
    (blockNumber : ℤ) (blockHash : Option String) :
    ∃ sel, parseSql (retrieveFilteredLogQuery rctFilter blockNumber blockHash).pgStr = some sel ∧
      (sel.run db.sqlTables (retrieveFilteredLogQuery rctFilter blockNumber blockHash).args).map
          (List.map filteredLogColumnsOf) =
        (retrieveFilteredLog db rctFilter blockNumber blockHash).map
          (List.map LogResult.filteredLogColumns) := by
  obtain ⟨sel, hp, hrun⟩ := (retrieveFilteredLogQuery_means db rctFilter blockNumber blockHash).run
    rfl (crossRows_cons rfl (crossRows_cons rfl (crossRows_cons rfl (crossRows_singleton rfl))))
  refine ⟨sel, hp, ?_⟩
  rw [hrun, retrieveFilteredLog]
  cases undefinedTopicColumn rctFilter.topics with
  | some i => rfl
  | none =>
    let g : LogCid × ReceiptCid × TransactionCid × HeaderCid → LogResult := fun p =>
      { log := p.1, txHash := p.2.2.1.txHash, txnIndex := p.2.2.1.index, rctCid := p.2.1.leafCid,
        postStatus := p.2.1.postStatus, blockHash := p.2.2.2.blockHash }
    have hk : (fun a => orderKey "log_cids.index" (db.filteredLogScope a)) =
        fun a => (g a).log.index := rfl
    have hg : filteredLogColumnsOf ∘ db.filteredLogScope = LogResult.filteredLogColumns ∘ g := rfl
    simp only [Option.map_none', joinResult, orderRows, orderBy_map, Except.map]
    rw [hk, List.map_map, hg, ← List.map_map, ← orderBy_map (fun x => x.log.index) g]
    simp [g, map_filter_eq_flatMap, List.flatMap_assoc, List.flatMap_map, List.map_flatMap]
    rfl

def IndexDb.gqlLogScope (db : IndexDb) (p : LogCid × ReceiptCid × IpldBlock) : Scope :=
  [(db.logTable, p.1.value), (db.receiptTable, p.2.1.value), (db.blockTable, p.2.2.value)]

def gqlLogColumnsOf (sc : Scope) : (String → SqlValue) × List (Option SqlValue) :=
  (Scope.first sc, [resolve sc "eth.receipt_cids.tx_id", resolve sc "eth.receipt_cids.leaf_cid",
    resolve sc "eth.receipt_cids.post_status", resolve sc "eth.log_cids.header_id",
    resolve sc "data"])

def LogResult.gqlLogColumns (r : LogResult) : (String → SqlValue) × List (Option SqlValue) :=
  (r.log.value, [some (.text r.txHash), some (.text r.rctCid), some (.int r.postStatus),
    some (.text r.blockHash), some (.bytes r.data)])

theorem IndexDb.gqlLogScope_logScope (db : IndexDb) :
    LogScope db [[db.logTable, db.receiptTable, db.blockTable]] db.gqlLogScope Prod.fst :=
  ⟨⟨_, [], rfl, by simp only [List.forall_mem_cons]; exact ⟨rfl, rfl, fun _ h => nomatch h⟩⟩,
    fun _ => ⟨_, rfl, by simp only [List.forall_mem_cons]; exact ⟨rfl, rfl, fun _ h => nomatch h⟩⟩⟩

theorem retrieveFilteredGQLLogsQuery_means (db : IndexDb) (rctFilter : ReceiptFilter)
    (blockHash : String) (blockNumber : Option ℤ) :
    QueryMeans db.sqlTables [db.logTable, db.receiptTable, db.blockTable] db.gqlLogScope
      (retrieveFilteredGQLLogsQuery rctFilter blockHash blockNumber)
      ["eth.log_cids", "eth.receipt_cids", "public.blocks"] (some "log_cids.index")
      ((undefinedTopicColumn rctFilter.topics).map topicColumnError)
      fun p => decide (filteredGQLLogWhere rctFilter blockHash blockNumber p.1 p.2.1 p.2.2) := by
  have h0 : Building db.sqlTables [[db.logTable, db.receiptTable, db.blockTable]] db.gqlLogScope
      ["eth.log_cids", "eth.receipt_cids", "public.blocks"] []
      (({ pgStr := retrieveFilteredGQLLogsSelect } : PgQuery).bind (.text blockHash)).next
      (some (.and (.and (.and (.and (.and
        (.eq "eth.log_cids.rct_id" (.column "receipt_cids.tx_id"))
        (.eq "eth.log_cids.header_id" (.column "receipt_cids.header_id")))
        (.eq "eth.log_cids.block_number" (.column "receipt_cids.block_number")))
        (.eq "log_cids.leaf_mh_key" (.column "blocks.key")))
        (.eq "log_cids.block_number" (.column "blocks.block_number")))
        (.eq "receipt_cids.header_id" (.param "1")))) none
      fun p => ((((p.1.rctId == p.2.1.txId && p.1.headerId == p.2.1.headerId) &&
        (p.1.blockNumber : ℤ) == p.2.1.blockNumber) && p.1.leafMhKey == p.2.2.key) &&
        (p.1.blockNumber : ℤ) == p.2.2.blockNumber) && p.2.1.headerId == blockHash :=
    ⟨rfl, ⟨rfl, fun _ => rfl, fun _ _ => rfl⟩⟩
  refine Building.finishOrdered ?_ rfl rfl
  refine Exists.imp (fun c h => Building.congr h fun p => ?_)
    (Building.logFilterCondition (Building.optionInt blockNumber ⟨_, h0⟩
      fun _ _ h => ⟨_, h.andNumberedParam (CondMeans.eqParam
        (fun p => by exact (rfl : _ = some (SqlValue.int p.2.1.blockNumber))) (by rfl) (by rfl)
        (by rfl)) rfl rfl⟩)
      db.gqlLogScope_logScope (by split <;> rfl))
  rw [Bool.eq_iff_iff]
  simp [filteredGQLLogWhere, SqlValue.eqv, LogCid.receiptKey, ReceiptCid.pk, IpldBlock.pk,
    and_assoc, @eq_comm _ p.2.2.key, @eq_comm _ p.2.2.blockNumber]

/-- The text `RetrieveFilteredGQLLogs` builds selects its model's log results, or fails as it says.
-/
theorem retrieveFilteredGQLLogsQuery_refines (db : IndexDb) (rctFilter : ReceiptFilter)
    (blockHash : String) (blockNumber : Option ℤ) :
    ∃ sel, parseSql (retrieveFilteredGQLLogsQuery rctFilter blockHash blockNumber).pgStr =
        some sel ∧
      (sel.run db.sqlTables (retrieveFilteredGQLLogsQuery rctFilter blockHash blockNumber).args).map
          (List.map gqlLogColumnsOf) =
        (retrieveFilteredGQLLogs db rctFilter blockHash blockNumber).map
          (List.map LogResult.gqlLogColumns) := by
  obtain ⟨sel, hp, hrun⟩ :=
    (retrieveFilteredGQLLogsQuery_means db rctFilter blockHash blockNumber).run
      rfl (crossRows_cons rfl (crossRows_cons rfl (crossRows_singleton rfl)))
  refine ⟨sel, hp, ?_⟩
  rw [hrun, retrieveFilteredGQLLogs]
  cases undefinedTopicColumn rctFilter.topics with
  | some i => rfl
  | none =>
    let g : LogCid × ReceiptCid × IpldBlock → LogResult := fun p =>
      { log := p.1, txHash := p.2.1.txId, rctCid := p.2.1.leafCid, postStatus := p.2.1.postStatus,
        blockHash := p.1.headerId, data := p.2.2.data }
    have hk : (fun a => orderKey "log_cids.index" (db.gqlLogScope a)) =
        fun a => (g a).log.index := rfl
    have hg : gqlLogColumnsOf ∘ db.gqlLogScope = LogResult.gqlLogColumns ∘ g := rfl
    simp only [Option.map_none', joinResult, orderRows, orderBy_map, Except.map]
    rw [hk, List.map_map, hg, ← List.map_map, ← orderBy_map (fun x => x.log.index) g]
    simp [g, map_filter_eq_flatMap, List.flatMap_assoc, List.flatMap_map, List.map_flatMap]
    rfl

def IndexDb.rctScope (db : IndexDb) (p : ReceiptCid × TransactionCid × HeaderCid) : Scope :=
  [(db.receiptTable, p.1.value), (db.transactionTable, p.2.1.value), (db.headerTable, p.2.2.value)]

/-- The text of `RetrieveRctCIDs` reads as the joins, the block restrictions and the receipt
conditions. -/
theorem retrieveRctCIDsQuery_means (db : IndexDb) (rctFilter : ReceiptFilter) (blockNumber : ℤ)
    (blockHash : String) (txHashes : List String) :
    QueryMeans db.sqlTables [db.receiptTable, db.transactionTable, db.headerTable] db.rctScope
      (retrieveRctCIDsQuery rctFilter blockNumber blockHash txHashes)
      ["eth.receipt_cids", "eth.transaction_cids", "eth.header_cids"]
      (some "transaction_cids.index")
      ((undefinedTopicColumn rctFilter.topics).map topicColumnError)
      fun p => decide (rctCIDsWhere db rctFilter blockNumber blockHash txHashes p.1 p.2.1 p.2.2) := by
  have h0 : Building db.sqlTables [[db.receiptTable, db.transactionTable, db.headerTable]]
      db.rctScope ["eth.receipt_cids", "eth.transaction_cids", "eth.header_cids"] []
      { pgStr := retrieveRctCIDsSelect }
      (some (.and (.and (.and (.and
        (.eq "receipt_cids.tx_id" (.column "transaction_cids.tx_hash"))
        (.eq "receipt_cids.header_id" (.column "transaction_cids.header_id")))
        (.eq "receipt_cids.block_number" (.column "transaction_cids.block_number")))
        (.eq "transaction_cids.header_id" (.column "header_cids.block_hash")))
        (.eq "transaction_cids.block_number" (.column "header_cids.block_number")))) none
      fun p => (((p.1.txId == p.2.1.txHash && p.1.headerId == p.2.1.headerId) &&
        (p.1.blockNumber : ℤ) == p.2.1.blockNumber) && p.2.1.headerId == p.2.2.blockHash) &&
        (p.2.1.blockNumber : ℤ) == p.2.2.blockNumber :=
    ⟨rfl, ⟨rfl, fun _ => rfl, fun _ _ => rfl⟩⟩
  refine Building.finishOrdered ?_ rfl rfl
  refine Exists.imp (fun c h => Building.congr h fun p => ?_)
    (Building.receiptFilterConditions (Building.ite (Building.ite ⟨_, h0⟩
      fun _ h _ => ⟨_, Building.next (h.andParamLast (CondMeans.eqParam
        (fun p => by exact (rfl : _ = some (SqlValue.int p.2.2.blockNumber))) (by rfl)
        (by rw [decimalValue_toString]; rfl) (by rfl)) rfl rfl fun _ => rfl)⟩)
      fun _ h _ => ⟨_, Building.next (h.andParamLast (CondMeans.eqParam
        (fun p => by exact (rfl : _ = some (SqlValue.text p.2.2.blockHash))) (by rfl)
        (by rw [decimalValue_toString]; split <;> rfl) (by rfl)) rfl rfl fun _ => rfl)⟩)
      (by split <;> split <;> simp) rfl (fun _ => rfl) rfl fun _ => by
        simp only [IndexDb.rctScope, List.forall_mem_cons]
        exact ⟨rfl, rfl, rfl, fun _ h => nomatch h⟩)
  rw [Bool.eq_iff_iff]
  simp [rctCIDsWhere, SqlValue.eqv, ReceiptCid.pk, TransactionCid.pk, TransactionCid.headerKey,
    HeaderCid.pk, imp_iff_not_or, and_assoc]

/-- The text `RetrieveRctCIDs` builds selects its model's receipt rows, or fails as it says. -/
theorem retrieveRctCIDsQuery_refines (db : IndexDb) (rctFilter : ReceiptFilter)
    (blockNumber : ℤ) (blockHash : String) (txHashes : List String) :
    ∃ sel, parseSql (retrieveRctCIDsQuery rctFilter blockNumber blockHash txHashes).pgStr =
        some sel ∧
      (sel.run db.sqlTables (retrieveRctCIDsQuery rctFilter blockNumber blockHash txHashes).args).map
          (List.map Scope.first) =
        (retrieveRctCIDs db rctFilter blockNumber blockHash txHashes).map
          (List.map ReceiptCid.value) := by
  obtain ⟨sel, hp, hrun⟩ :=
    (retrieveRctCIDsQuery_means db rctFilter blockNumber blockHash txHashes).run
      rfl (crossRows_cons rfl (crossRows_cons rfl (crossRows_singleton rfl)))
  refine ⟨sel, hp, ?_⟩
  rw [hrun, retrieveRctCIDs]
  cases undefinedTopicColumn rctFilter.topics with
  | some i => rfl
  | none =>
    let g : ReceiptCid × TransactionCid × HeaderCid → ReceiptCid × ℕ := fun p => (p.1, p.2.1.index)
    have hk : (fun a => orderKey "transaction_cids.index" (db.rctScope a)) = fun a => (g a).2 :=
      rfl
    have hg : Scope.first ∘ db.rctScope = ReceiptCid.value ∘ (Prod.fst ∘ g) := rfl
    simp only [Option.map_none', joinResult, orderRows, orderBy_map, Except.map]
    rw [hk, List.map_map, hg, ← List.map_map, ← List.map_map, ← orderBy_map Prod.snd g]
    simp [g, map_filter_eq_flatMap, List.flatMap_assoc, List.flatMap_map, List.map_flatMap]

/-- `RetrieveHeaderCIDs` selects every header row at the height, in table order. -/
theorem retrieveHeaderCIDsQuery_refines (db : BlockIndexDb) (blockNumber : ℤ) :
    ∃ sel, parseSql (retrieveHeaderCIDsQuery blockNumber).pgStr = some sel ∧
      (sel.run db.sqlTables (retrieveHeaderCIDsQuery blockNumber).args).map
          (List.map Scope.first) =
        .ok ((retrieveHeaderCIDs db blockNumber).map HeaderCid.value) := by
  have hm : QueryMeans db.sqlTables [db.headerTable] (fun h : HeaderCid => [(db.headerTable, h.value)])
      (retrieveHeaderCIDsQuery blockNumber) ["eth.header_cids"] none none
      fun h => decide ((h.blockNumber : ℤ) = blockNumber) :=
    ⟨_, rfl, rfl, fun _ => rfl, fun _ _ => rfl⟩
  obtain ⟨sel, hp, hrun⟩ := hm.run rfl (crossRows_singleton rfl)
  refine ⟨sel, hp, ?_⟩
  rw [hrun]
  simp [joinResult, orderRows, Except.map, retrieveHeaderCIDs, Scope.first, Function.comp_def]

theorem retrieveUncleCIDsByHeaderIDQuery_refines (db : BlockIndexDb) (headerID : String) :
    ∃ sel, parseSql (retrieveUncleCIDsByHeaderIDQuery headerID).pgStr = some sel ∧
      (sel.run db.sqlTables (retrieveUncleCIDsByHeaderIDQuery headerID).args).map
          (List.map Scope.first) =
        .ok ((retrieveUncleCIDsByHeaderID db headerID).map UncleCid.value) := by
  have hm : QueryMeans db.sqlTables [db.uncleTable] (fun u : UncleCid => [(db.uncleTable, u.value)])
      (retrieveUncleCIDsByHeaderIDQuery headerID) ["eth.uncle_cids"] none none
      fun u => decide (u.headerId = headerID) :=
    ⟨_, rfl, rfl, fun _ => rfl, fun _ _ => rfl⟩
  obtain ⟨sel, hp, hrun⟩ := hm.run rfl (crossRows_singleton rfl)
  refine ⟨sel, hp, ?_⟩
  rw [hrun]
  simp [joinResult, orderRows, Except.map, retrieveUncleCIDsByHeaderID, Scope.first,
    Function.comp_def]

/-- `RetrieveHeaderCIDByHash` reads the first header row with the hash, or `sql.ErrNoRows`. -/
theorem retrieveHeaderCIDByHashQuery_refines (db : BlockIndexDb) (blockHash : String) :
    ∃ sel, parseSql (retrieveHeaderCIDByHashQuery blockHash).pgStr = some sel ∧
      (sel.get db.sqlTables (retrieveHeaderCIDByHashQuery blockHash).args).map Scope.first =
        (retrieveHeaderCIDByHash db blockHash).map HeaderCid.value := by
  have hm : QueryMeans db.sqlTables [db.headerTable] (fun h : HeaderCid => [(db.headerTable, h.value)])
      (retrieveHeaderCIDByHashQuery blockHash) ["eth.header_cids"] none none
      fun h => decide (h.blockHash = blockHash) :=
    ⟨_, rfl, rfl, fun _ => rfl, fun _ _ => rfl⟩
  obtain ⟨sel, hp, hrun⟩ := hm.run rfl (crossRows_singleton rfl)
  refine ⟨sel, hp, ?_⟩
  simp only [SqlSelect.get, hrun, joinResult, orderRows, retrieveHeaderCIDByHash]
  cases db.headerCids.filter fun h => decide (h.blockHash = blockHash) <;> rfl

theorem retrieveTxCIDsByHeaderIDQuery_refines (db : BlockIndexDb) (headerID : String)
    (blockNumber : ℤ) :
    ∃ sel, parseSql (retrieveTxCIDsByHeaderIDQuery headerID blockNumber).pgStr = some sel ∧
      (sel.run db.sqlTables (retrieveTxCIDsByHeaderIDQuery headerID blockNumber).args).map
          (List.map Scope.first) =
        .ok ((retrieveTxCIDsByHeaderID db headerID blockNumber).map TransactionCid.value) := by
  have hm : QueryMeans db.sqlTables [db.transactionTable]
      (fun t : TransactionCid => [(db.transactionTable, t.value)])
      (retrieveTxCIDsByHeaderIDQuery headerID blockNumber) ["eth.transaction_cids"]
      (some "index") none
      fun t => decide (t.headerId = headerID) && decide ((t.blockNumber : ℤ) = blockNumber) :=
    ⟨_, rfl, rfl, fun _ => rfl, fun _ _ => rfl⟩
  obtain ⟨sel, hp, hrun⟩ := hm.run rfl (crossRows_singleton rfl)
  refine ⟨sel, hp, ?_⟩
  have hk : (fun t : TransactionCid => orderKey "index" [(db.transactionTable, t.value)]) =
      TransactionCid.index := rfl
  rw [hrun, joinResult, orderRows, orderBy_map, hk]
  simp [Except.map, retrieveTxCIDsByHeaderID, Scope.first, Function.comp_def]

theorem retrieveReceiptCIDsByByHeaderIDAndTxIDsQuery_refines (db : BlockIndexDb)
    (headerID : String) (txHashes : List String) (blockNumber : ℤ) :
    ∃ sel, parseSql (retrieveReceiptCIDsByByHeaderIDAndTxIDsQuery headerID txHashes
        blockNumber).pgStr = some sel ∧
      (sel.run db.sqlTables (retrieveReceiptCIDsByByHeaderIDAndTxIDsQuery headerID txHashes
          blockNumber).args).map (List.map Scope.first) =
        .ok ((retrieveReceiptCIDsByByHeaderIDAndTxIDs db headerID txHashes blockNumber).map
          ReceiptCid.value) := by
  have hm : QueryMeans db.sqlTables [db.receiptTable, db.transactionTable]
      (fun p : ReceiptCid × TransactionCid =>
        [(db.receiptTable, p.1.value), (db.transactionTable, p.2.value)])
      (retrieveReceiptCIDsByByHeaderIDAndTxIDsQuery headerID txHashes blockNumber)
      ["eth.receipt_cids", "eth.transaction_cids"] (some "transaction_cids.index") none
      fun p => ((((txHashes.contains p.1.txId && p.1.txId == p.2.txHash) &&
        p.1.headerId == p.2.headerId) && (p.1.blockNumber : ℤ) == p.2.blockNumber) &&
        p.2.headerId == headerID) && (p.2.blockNumber : ℤ) == blockNumber :=
    ⟨_, rfl, rfl, fun _ => rfl, fun _ _ => rfl⟩
  obtain ⟨sel, hp, hrun⟩ := hm.run rfl (crossRows_cons rfl (crossRows_singleton rfl))
  refine ⟨sel, hp, ?_⟩
  let g : ReceiptCid × TransactionCid → ReceiptCid × ℕ := fun p => (p.1, p.2.index)
  have hk : (fun p : ReceiptCid × TransactionCid => orderKey "transaction_cids.index"
      [(db.receiptTable, p.1.value), (db.transactionTable, p.2.value)]) = fun p => (g p).2 := rfl
  have hg : Scope.first ∘ (fun p : ReceiptCid × TransactionCid =>
      [(db.receiptTable, p.1.value), (db.transactionTable, p.2.value)]) =
      ReceiptCid.value ∘ (Prod.fst ∘ g) := rfl
  rw [hrun, joinResult, orderRows, orderBy_map, hk]
  simp only [Except.map]
  rw [List.map_map, hg, ← List.map_map, ← List.map_map, ← orderBy_map Prod.snd g]
  delta retrieveReceiptCIDsByByHeaderIDAndTxIDs receiptTxRows
  simp [g, map_filter_eq_flatMap, List.flatMap_assoc, List.flatMap_map, List.map_flatMap,
    ReceiptCid.pk, TransactionCid.pk, and_assoc]

end IpldEthServer

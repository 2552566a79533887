import IpldEthServer.CidBlocks

namespace IpldEthServer

structure HeaderCIDRecord where
  header : HeaderCid
  transactionCIDs : List TransactionCid
  deriving DecidableEq, Repr

/-- gorm's `Preload("TransactionCIDs")`: one `SELECT` with no `ORDER BY`, so rows come in table
order. -/
def preloadTransactionCIDs (db : IndexDb) (headers : List HeaderCid) : List HeaderCIDRecord :=
  let rows := db.transactionCids.filter fun t => t.headerKey ∈ headers.map HeaderCid.pk
  headers.map fun h => ⟨h, rows.filter (·.headerKey = h.pk)⟩

/-- `RetrieveHeaderAndTxCIDsByBlockNumber`, in table order. -/
def retrieveHeaderAndTxCIDsByBlockNumber (db : IndexDb) (blockNumber : ℤ) :
    List HeaderCIDRecord :=
  preloadTransactionCIDs db (db.headerCids.filter fun h => (h.blockNumber : ℤ) = blockNumber)

/-- Modelled from the spec: the two errors, declared outside `src/`. -/
inductive HeaderRecordError where
  | headerHashNotFound
  | multipleHeadersForHash
  deriving DecidableEq, Repr

/-- Whether the error's text contains `not found`, as `AllEthHeaderCids` tests. -/
def HeaderRecordError.notFound : HeaderRecordError → Bool
  | .headerHashNotFound => true
  | .multipleHeadersForHash => false

/-- `RetrieveHeaderAndTxCIDsByBlockHash`: exactly one header with the hash (and height, if given).
-/
def retrieveHeaderAndTxCIDsByBlockHash (db : IndexDb) (blockHash : String)
    (blockNumber : Option ℤ) : Except HeaderRecordError HeaderCIDRecord :=
  match preloadTransactionCIDs db (db.headerCids.filter fun h =>
      h.blockHash = blockHash ∧ blockNumber.all fun n => (h.blockNumber : ℤ) = bigIntInt64 n) with
  | [] => .error .headerHashNotFound
  | [r] => .ok r
  | _ :: _ :: _ => .error .multipleHeadersForHash

structure EthHeaderCIDCondition where
  blockNumber : Option ℤ := none
  blockHash : Option String := none
  deriving DecidableEq, Repr

inductive AllEthHeaderCidsError where
  | retrieve (e : HeaderRecordError)
  /-- `provide block number or block hash`. -/
  | noCondition
  deriving DecidableEq, Repr

/-- `Resolver.AllEthHeaderCids(condition)`. -/
def allEthHeaderCids (db : IndexDb) (condition : EthHeaderCIDCondition) :
    Except AllEthHeaderCidsError (List HeaderCIDRecord) :=
  match condition.blockHash, condition.blockNumber with
  | some hash, number =>
    match retrieveHeaderAndTxCIDsByBlockHash db hash number with
    | .error e => if e.notFound then .ok [] else .error (.retrieve e)
    | .ok r => .ok [r]
  | none, some n => .ok (retrieveHeaderAndTxCIDsByBlockNumber db (bigIntInt64 n))
  | none, none => .error .noCondition

theorem preloadTransactionCIDs_spec (db : IndexDb) (headers : List HeaderCid) :
    ∀ r ∈ preloadTransactionCIDs db headers,
      r.header ∈ headers ∧ r.transactionCIDs = db.transactionCids.filter (·.headerKey = r.header.pk) := by
  intro r hr
  obtain ⟨h, hh, rfl⟩ := List.mem_map.mp hr
  refine ⟨hh, ?_⟩
  rw [List.filter_filter]
  exact List.filter_congr fun t _ => by
    by_cases hk : t.headerKey = h.pk <;> simp [hk, List.mem_map_of_mem HeaderCid.pk hh]

def reorderedTxDb : IndexDb where
  headerCids := [⟨1, "h"⟩]
  transactionCids := [{ blockNumber := 1, headerId := "h", txHash := "b", index := 1 },
    { blockNumber := 1, headerId := "h", txHash := "a", index := 0 }]

/-- Both gorm reads give a header its transactions in table order, not by index. -/
theorem preloaded_transactions_in_table_order :
    (∀ (db : IndexDb) (n : ℤ), ∀ r ∈ retrieveHeaderAndTxCIDsByBlockNumber db n,
        (r.header.blockNumber : ℤ) = n ∧
          r.transactionCIDs = db.transactionCids.filter (·.headerKey = r.header.pk)) ∧
      (∀ (db : IndexDb) (hash : String) (number : Option ℤ) (r : HeaderCIDRecord),
        retrieveHeaderAndTxCIDsByBlockHash db hash number = .ok r →
        r.header.blockHash = hash ∧
          r.transactionCIDs = db.transactionCids.filter (·.headerKey = r.header.pk)) ∧
      allEthHeaderCids reorderedTxDb { blockNumber := some 1 } =
        .ok [⟨⟨1, "h"⟩, reorderedTxDb.transactionCids⟩] ∧
      allEthHeaderCids reorderedTxDb { blockHash := some "h" } =
        .ok [⟨⟨1, "h"⟩, reorderedTxDb.transactionCids⟩] ∧
      reorderedTxDb.transactionCids.map (·.index) = [1, 0] := by
  refine ⟨fun db n r hr => ?_, fun db hash number r hr => ?_, rfl, rfl, rfl⟩
  · obtain ⟨hh, hr⟩ := preloadTransactionCIDs_spec db _ r hr
    exact ⟨of_decide_eq_true (List.mem_filter.mp hh).2, hr⟩
  · unfold retrieveHeaderAndTxCIDsByBlockHash at hr
    split at hr
    next => cases hr
    next r' hrs =>
      cases hr
      obtain ⟨hh, hr⟩ := preloadTransactionCIDs_spec db _ r (hrs ▸ List.mem_singleton_self r)
      exact ⟨(of_decide_eq_true (List.mem_filter.mp hh).2).1, hr⟩
    next => cases hr

end IpldEthServer

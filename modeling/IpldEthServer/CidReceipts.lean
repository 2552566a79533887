import IpldEthServer.CidLogs

namespace IpldEthServer

/-- The `WHERE` clause of `RetrieveRctCIDs` on one joined row. -/
def rctCIDsWhere (db : IndexDb) (rctFilter : ReceiptFilter) (blockNumber : ℤ)
    (blockHash : String) (txHashes : List String) (r : ReceiptCid) (t : TransactionCid)
    (h : HeaderCid) : Prop :=
  r.pk = t.pk ∧ t.headerKey = h.pk ∧ (0 < blockNumber → (h.blockNumber : ℤ) = blockNumber) ∧
    (blockHash ≠ "" → h.blockHash = blockHash) ∧
    receiptFilterMatches db rctFilter txHashes r = true

instance (db : IndexDb) (rctFilter : ReceiptFilter) (blockNumber : ℤ) (blockHash : String)
    (txHashes : List String) (r : ReceiptCid) (t : TransactionCid) (h : HeaderCid) :
    Decidable (rctCIDsWhere db rctFilter blockNumber blockHash txHashes r t h) := by
  unfold rctCIDsWhere; infer_instance

/-- `RetrieveRctCIDs`: the selected receipt rows, `ORDER BY transaction_cids.index`. -/
def retrieveRctCIDs (db : IndexDb) (rctFilter : ReceiptFilter) (blockNumber : ℤ)
    (blockHash : String) (txHashes : List String) : Except SqlError (List ReceiptCid) :=
  match undefinedTopicColumn rctFilter.topics with
  | some i => .error (topicColumnError i)
  | none => .ok <| (orderBy Prod.snd <|
      db.receiptCids.flatMap fun r => db.transactionCids.flatMap fun t =>
        db.headerCids.flatMap fun h =>
          if rctCIDsWhere db rctFilter blockNumber blockHash txHashes r t h then [(r, t.index)]
          else []).map Prod.fst

/-- Sibling headers at height 1 that both include transaction `t`; only `h2` has a log. -/
def siblingLogDb : IndexDb where
  headerCids := [⟨1, "h1"⟩, ⟨1, "h2"⟩]
  transactionCids := [{ blockNumber := 1, headerId := "h1", txHash := "t", index := 0 },
    { blockNumber := 1, headerId := "h2", txHash := "t", index := 0 }]
  receiptCids := [{ blockNumber := 1, headerId := "h1", txId := "t" },
    { blockNumber := 1, headerId := "h2", txId := "t" }]
  logCids := [{ blockNumber := 1, headerId := "h2", rctId := "t", index := 0, address := "a" }]

/-- The log sub-select reads the whole log table, so `h2`'s log selects `h1`'s receipt. -/
theorem rct_cids_selected_by_sibling_log :
    retrieveRctCIDs siblingLogDb { logAddresses := ["a"] } 0 "h1" [] =
        .ok [{ blockNumber := 1, headerId := "h1", txId := "t" }] ∧
      ∀ l ∈ siblingLogDb.logCids, l.receiptKey ≠ ("t", "h1", 1) := by
  refine ⟨rfl, ?_⟩
  decide

theorem LogCid.blockNumber_of_keys {l : LogCid} {r : ReceiptCid} (hlr : l.receiptKey = r.pk) :
    l.blockNumber = r.blockNumber :=
  congrArg (fun k => k.2.2) hlr

theorem ReceiptCid.blockNumber_of_keys {r : ReceiptCid} {t : TransactionCid} {h : HeaderCid}
    (hrt : r.pk = t.pk) (hth : t.headerKey = h.pk) : r.blockNumber = h.blockNumber :=
  (congrArg (fun k => k.2.2) hrt).trans (congrArg Prod.snd hth)

/-- A positive height and no hash restrict both queries to rows of that height. -/
theorem positive_height_restricts_rows (db : IndexDb) (rctFilter : ReceiptFilter) (n : ℤ)
    (hn : 0 < n) (txHashes : List String) :
    (∀ rs, retrieveFilteredLog db rctFilter n none = .ok rs →
        ∀ x ∈ rs, (x.log.blockNumber : ℤ) = n) ∧
      ∀ rs, retrieveRctCIDs db rctFilter n "" txHashes = .ok rs →
        ∀ r ∈ rs, (r.blockNumber : ℤ) = n := by
  constructor
  · intro rs hrs x hx
    rw [retrieveFilteredLog] at hrs
    split at hrs <;> cases hrs
    simp only [mem_orderBy, List.mem_flatMap, filteredLogJoin, List.mem_ite_nil_right,
      List.mem_singleton] at hx
    obtain ⟨l, -, r, -, t, -, h, -, ⟨hlr, hrt, hth, hnum, -⟩, rfl⟩ := hx
    rw [← hnum hn, LogCid.blockNumber_of_keys hlr, ReceiptCid.blockNumber_of_keys hrt hth]
  · intro rs hrs r hr
    rw [retrieveRctCIDs] at hrs
    split at hrs <;> cases hrs
    simp only [List.mem_map, mem_orderBy, List.mem_flatMap, List.mem_ite_nil_right,
      List.mem_singleton] at hr
    obtain ⟨_, ⟨r, -, t, -, h, -, ⟨hrt, hth, hnum, -⟩, rfl⟩, rfl⟩ := hr
    rw [← hnum hn, ReceiptCid.blockNumber_of_keys hrt hth]

def twoHeightDb : IndexDb where
  headerCids := [⟨5, "h5"⟩, ⟨6, "h6"⟩]
  transactionCids := [{ blockNumber := 5, headerId := "h5", txHash := "t5", index := 0 },
    { blockNumber := 6, headerId := "h6", txHash := "t6", index := 0 }]
  receiptCids := [{ blockNumber := 5, headerId := "h5", txId := "t5" },
    { blockNumber := 6, headerId := "h6", txId := "t6" }]
  logCids := [{ blockNumber := 5, headerId := "h5", rctId := "t5", index := 0, address := "a" },
    { blockNumber := 6, headerId := "h6", rctId := "t6", index := 0, address := "a" }]

theorem positive_height_restricts_rows_at_six :
    0 < (6 : ℤ) ∧
      ((∀ rs, retrieveFilteredLog twoHeightDb {} 6 none = .ok rs →
          ∀ x ∈ rs, (x.log.blockNumber : ℤ) = 6) ∧
        ∀ rs, retrieveRctCIDs twoHeightDb {} 6 "" [] = .ok rs → ∀ r ∈ rs, (r.blockNumber : ℤ) = 6) ∧
      retrieveRctCIDs twoHeightDb {} 6 "" [] =
        .ok [{ blockNumber := 6, headerId := "h6", txId := "t6" }] :=
  ⟨by decide, positive_height_restricts_rows twoHeightDb {} 6 (by decide) [], rfl⟩

def heightFiveDb : IndexDb where
  headerCids := [⟨5, "h"⟩]
  transactionCids := [{ blockNumber := 5, headerId := "h", txHash := "t", index := 0 }]
  receiptCids := [{ blockNumber := 5, headerId := "h", txId := "t" }]
  logCids := [{ blockNumber := 5, headerId := "h", rctId := "t", index := 0, address := "a" }]

/-- At height 0 the block restriction is dropped. -/
theorem genesis_height_returns_other_blocks :
    ∃ rs, retrieveFilteredLog heightFiveDb {} 0 none = .ok rs ∧
      ∃ x ∈ rs, x.log.blockNumber = 5 :=
  ⟨_, rfl, _, List.mem_singleton_self _, rfl⟩

end IpldEthServer

import IpldEthServer.CidFilters
import Mathlib.Data.List.Basic

namespace IpldEthServer

/-- The `WHERE` clause of `RetrieveFilteredLog` on one joined row. -/
def filteredLogWhere (rctFilter : ReceiptFilter) (blockNumber : ℤ) (blockHash : Option String)
    (l : LogCid) (r : ReceiptCid) (t : TransactionCid) (h : HeaderCid) : Prop :=
  l.receiptKey = r.pk ∧ r.pk = t.pk ∧ t.headerKey = h.pk ∧
    (0 < blockNumber → (h.blockNumber : ℤ) = blockNumber) ∧
    (blockHash.all fun hash => h.blockHash == hash) = true ∧ logFilterMatches rctFilter l = true

instance (rctFilter : ReceiptFilter) (blockNumber : ℤ) (blockHash : Option String) (l : LogCid)
    (r : ReceiptCid) (t : TransactionCid) (h : HeaderCid) :
    Decidable (filteredLogWhere rctFilter blockNumber blockHash l r t h) := by
  unfold filteredLogWhere; infer_instance

def filteredLogJoin (db : IndexDb) (rctFilter : ReceiptFilter) (blockNumber : ℤ)
    (blockHash : Option String) (l : LogCid) : List LogResult :=
  db.receiptCids.flatMap fun r => db.transactionCids.flatMap fun t => db.headerCids.flatMap fun h =>
    if filteredLogWhere rctFilter blockNumber blockHash l r t h then
      [{ log := l, txHash := t.txHash, txnIndex := t.index, rctCid := r.leafCid,
         postStatus := r.postStatus, blockHash := h.blockHash }]
    else []

/-- `RetrieveFilteredLog(tx, rctFilter, blockNumber, blockHash)`. -/
def retrieveFilteredLog (db : IndexDb) (rctFilter : ReceiptFilter) (blockNumber : ℤ)
    (blockHash : Option String) : Except SqlError (List LogResult) :=
  match undefinedTopicColumn rctFilter.topics with
  | some i => .error (topicColumnError i)
  | none => .ok <| orderBy (fun x => x.log.index) <|
      db.logCids.flatMap (filteredLogJoin db rctFilter blockNumber blockHash)

/-- The `WHERE` clause of `RetrieveFilteredGQLLogs` on one joined row. -/
def filteredGQLLogWhere (rctFilter : ReceiptFilter) (blockHash : String) (blockNumber : Option ℤ)
    (l : LogCid) (r : ReceiptCid) (b : IpldBlock) : Prop :=
  l.receiptKey = r.pk ∧ b.pk = (l.leafMhKey, l.blockNumber) ∧ r.headerId = blockHash ∧
    (blockNumber.all fun n => (r.blockNumber : ℤ) == bigIntInt64 n) = true ∧
    logFilterMatches rctFilter l = true

instance (rctFilter : ReceiptFilter) (blockHash : String) (blockNumber : Option ℤ) (l : LogCid)
    (r : ReceiptCid) (b : IpldBlock) :
    Decidable (filteredGQLLogWhere rctFilter blockHash blockNumber l r b) := by
  unfold filteredGQLLogWhere; infer_instance

def filteredGQLLogJoin (db : IndexDb) (rctFilter : ReceiptFilter) (blockHash : String)
    (blockNumber : Option ℤ) (l : LogCid) : List LogResult :=
  db.receiptCids.flatMap fun r => db.blocks.flatMap fun b =>
    if filteredGQLLogWhere rctFilter blockHash blockNumber l r b then
      [{ log := l, txHash := r.txId, rctCid := r.leafCid, postStatus := r.postStatus,
         blockHash := l.headerId, data := b.data }]
    else []

/-- `RetrieveFilteredGQLLogs(tx, rctFilter, &blockHash, blockNumber)`. -/
def retrieveFilteredGQLLogs (db : IndexDb) (rctFilter : ReceiptFilter) (blockHash : String)
    (blockNumber : Option ℤ) : Except SqlError (List LogResult) :=
  match undefinedTopicColumn rctFilter.topics with
  | some i => .error (topicColumnError i)
  | none => .ok <| orderBy (fun x => x.log.index) <|
      db.logCids.flatMap (filteredGQLLogJoin db rctFilter blockHash blockNumber)

/-- What a log query by block hash should return: the header's log rows passing the filter, by log
index. -/
def ExactLogsOf (db : IndexDb) (rctFilter : ReceiptFilter) (blockHash : String)
    (rs : List LogResult) : Prop :=
  (rs.map LogResult.log).Perm
      (db.logCids.filter fun l => l.headerId = blockHash ∧ LogFilterSpec rctFilter l) ∧
    rs.Sorted fun a b => a.log.index ≤ b.log.index

theorem flatMap_ite_singleton {α : Type*} (l : List α) (p : α → Prop) [DecidablePred p] :
    (l.flatMap fun x => if p x then [x] else []) = l.filter fun x => p x := by
  induction l with
  | nil => rfl
  | cons a as ih => by_cases h : p a <;> simp [h, ih, List.filter_cons]

theorem join₃_of_unique_keys {R T H γ κ₁ κ₂ κ₃ : Type*} {rs : List R} {ts : List T}
    {hs : List H} {pkR : R → κ₁} {pkT : T → κ₂} {pkH : H → κ₃} (hR : (rs.map pkR).Nodup)
    {r₀ : R} (hr₀ : r₀ ∈ rs) (hT : (ts.map pkT).Nodup) {t₀ : T} (ht₀ : t₀ ∈ ts)
    (hH : (hs.map pkH).Nodup) {h₀ : H} (hh₀ : h₀ ∈ hs) {W : R → T → H → Prop}
    [∀ r t h, Decidable (W r t h)]
    (hW : ∀ r t h, W r t h → pkR r = pkR r₀ ∧ pkT t = pkT t₀ ∧ pkH h = pkH h₀)
    (row : R → T → H → γ) :
    (rs.flatMap fun r => ts.flatMap fun t => hs.flatMap fun h =>
        if W r t h then [row r t h] else []) =
      if W r₀ t₀ h₀ then [row r₀ t₀ h₀] else [] := by
  rw [flatMap_of_unique_key hR hr₀ fun r _ hne => List.flatMap_eq_nil_iff.mpr fun t _ =>
        List.flatMap_eq_nil_iff.mpr fun h _ => if_neg fun hw => hne (hW r t h hw).1,
      flatMap_of_unique_key hT ht₀ fun t _ hne => List.flatMap_eq_nil_iff.mpr fun h _ =>
        if_neg fun hw => hne (hW r₀ t h hw).2.1,
      flatMap_of_unique_key hH hh₀ fun h _ hne => if_neg fun hw => hne (hW r₀ t₀ h hw).2.2]

/-- A join of keyed tables whose `WHERE` fixes each key meets one row of each. -/
theorem join₂_of_unique_keys {R B γ κ₁ κ₂ : Type*} {rs : List R} {bs : List B}
    {pkR : R → κ₁} {pkB : B → κ₂} (hR : (rs.map pkR).Nodup) {r₀ : R} (hr₀ : r₀ ∈ rs)
    (hB : (bs.map pkB).Nodup) {b₀ : B} (hb₀ : b₀ ∈ bs) {W : R → B → Prop}
    [∀ r b, Decidable (W r b)] (hW : ∀ r b, W r b → pkR r = pkR r₀ ∧ pkB b = pkB b₀)
    (row : R → B → γ) :
    (rs.flatMap fun r => bs.flatMap fun b => if W r b then [row r b] else []) =
      if W r₀ b₀ then [row r₀ b₀] else [] := by
  rw [flatMap_of_unique_key hR hr₀ fun r _ hne => List.flatMap_eq_nil_iff.mpr fun b _ =>
        if_neg fun hw => hne (hW r b hw).1,
      flatMap_of_unique_key hB hb₀ fun b _ hne => if_neg fun hw => hne (hW r₀ b hw).2]

theorem TransactionCid.headerKey_of_pk {t : TransactionCid} {l : LogCid}
    (h : t.pk = l.receiptKey) : t.headerKey = (l.headerId, l.blockNumber) := by
  simp only [TransactionCid.pk, LogCid.receiptKey, Prod.mk.injEq] at h
  simp [TransactionCid.headerKey, h]

/-- By hash, a log row contributes itself exactly when it lies on the header and passes the filter.
-/
theorem filteredLogJoin_log {db : IndexDb} (hdb : db.LogsReferenced) {l : LogCid}
    (hl : l ∈ db.logCids) (rctFilter : ReceiptFilter) (blockHash : String) :
    (filteredLogJoin db rctFilter 0 (some blockHash) l).map LogResult.log =
      if l.headerId = blockHash ∧ LogFilterSpec rctFilter l then [l] else [] := by
  obtain ⟨r₀, hr₀, hr⟩ := hdb.receipt l hl
  obtain ⟨t₀, ht₀, ht⟩ := hdb.transaction l hl
  obtain ⟨h₀, hh₀, hh⟩ := hdb.header l hl
  rw [filteredLogJoin, join₃_of_unique_keys db.receipt_key hr₀ db.transaction_key ht₀
    db.header_key hh₀ (W := filteredLogWhere rctFilter 0 (some blockHash) l)
    (fun r t h hw => ⟨hw.1.symm.trans hr.symm, hw.2.1.symm.trans (hw.1.symm.trans ht.symm),
      hw.2.2.1.symm.trans ((TransactionCid.headerKey_of_pk (hw.2.1.symm.trans
        hw.1.symm)).trans hh.symm)⟩)]
  have hhash : h₀.blockHash = l.headerId := congrArg Prod.fst hh
  have hW : filteredLogWhere rctFilter 0 (some blockHash) l r₀ t₀ h₀ ↔
      l.headerId = blockHash ∧ LogFilterSpec rctFilter l := by
    simp only [filteredLogWhere, hr, ht, TransactionCid.headerKey_of_pk ht, hh, hhash,
      Option.all_some, beq_iff_eq, logFilterMatches_iff, lt_irrefl, false_implies, true_and]
  by_cases hc : l.headerId = blockHash ∧ LogFilterSpec rctFilter l
  · rw [if_pos (hW.mpr hc), if_pos hc]; rfl
  · rw [if_neg (mt hW.mp hc), if_neg hc]; rfl

theorem filteredGQLLogJoin_log {db : IndexDb} (hdb : db.LogsReferenced) {l : LogCid}
    (hl : l ∈ db.logCids) (rctFilter : ReceiptFilter) (blockHash : String) :
    (filteredGQLLogJoin db rctFilter blockHash none l).map LogResult.log =
      if l.headerId = blockHash ∧ LogFilterSpec rctFilter l then [l] else [] := by
  obtain ⟨r₀, hr₀, hr⟩ := hdb.receipt l hl
  obtain ⟨b₀, hb₀, hb⟩ := hdb.block l hl
  rw [filteredGQLLogJoin, join₂_of_unique_keys db.receipt_key hr₀ db.block_key hb₀
    (W := filteredGQLLogWhere rctFilter blockHash none l)
    (fun r b hw => ⟨hw.1.symm.trans hr.symm, hw.2.1.trans hb.symm⟩)]
  have hheader : r₀.headerId = l.headerId := congrArg (fun k => k.2.1) hr
  have hW : filteredGQLLogWhere rctFilter blockHash none l r₀ b₀ ↔
      l.headerId = blockHash ∧ LogFilterSpec rctFilter l := by
    simp only [filteredGQLLogWhere, hr, hb, hheader, Option.all_none, logFilterMatches_iff,
      true_and]
  by_cases hc : l.headerId = blockHash ∧ LogFilterSpec rctFilter l
  · rw [if_pos (hW.mpr hc), if_pos hc]; rfl
  · rw [if_neg (mt hW.mp hc), if_neg hc]; rfl

theorem orderBy_join_exact {db : IndexDb} {rctFilter : ReceiptFilter} {blockHash : String}
    {join : LogCid → List LogResult}
    (hjoin : ∀ l ∈ db.logCids, (join l).map LogResult.log =
      if l.headerId = blockHash ∧ LogFilterSpec rctFilter l then [l] else []) :
    ExactLogsOf db rctFilter blockHash
      (orderBy (fun x => x.log.index) (db.logCids.flatMap join)) := by
  have hmap : (db.logCids.flatMap join).map LogResult.log =
      db.logCids.filter fun l => l.headerId = blockHash ∧ LogFilterSpec rctFilter l := by
    rw [List.map_flatMap, List.flatMap_congr hjoin, flatMap_ite_singleton]
  exact ⟨hmap ▸ (orderBy_perm _ _).map _, orderBy_sorted _ _⟩

/-- Both log queries by block hash return exactly the header's log rows that pass the filter, by log
index. -/
theorem filtered_logs_by_hash_exact (db : IndexDb) (hdb : db.LogsReferenced)
    (rctFilter : ReceiptFilter) (htopics : rctFilter.topics.length ≤ 4) (blockHash : String) :
    (∃ rs, retrieveFilteredLog db rctFilter 0 (some blockHash) = .ok rs ∧
        ExactLogsOf db rctFilter blockHash rs) ∧
      ∃ rs, retrieveFilteredGQLLogs db rctFilter blockHash none = .ok rs ∧
        ExactLogsOf db rctFilter blockHash rs := by
  simp only [retrieveFilteredLog, retrieveFilteredGQLLogs, undefinedTopicColumn_of_length htopics,
    Except.ok.injEq, exists_eq_left']
  exact ⟨orderBy_join_exact fun l hl => filteredLogJoin_log hdb hl rctFilter blockHash,
    orderBy_join_exact fun l hl => filteredGQLLogJoin_log hdb hl rctFilter blockHash⟩

/-- Sibling headers `h` and `g`; `h` has logs with addresses `a` and `b` (topic `x`), `g` one with
`b`. -/
def twoLogDb : IndexDb where
  headerCids := [⟨5, "h"⟩, ⟨5, "g"⟩]
  transactionCids := [{ blockNumber := 5, headerId := "h", txHash := "t", index := 0 },
    { blockNumber := 5, headerId := "g", txHash := "t", index := 0 }]
  receiptCids := [{ blockNumber := 5, headerId := "h", txId := "t" },
    { blockNumber := 5, headerId := "g", txId := "t" }]
  logCids := [{ blockNumber := 5, headerId := "h", rctId := "t", index := 0, address := "a" },
    { blockNumber := 5, headerId := "h", rctId := "t", index := 1, address := "b",
      topic0 := some "x" },
    { blockNumber := 5, headerId := "g", rctId := "t", index := 0, address := "b" }]
  blocks := [⟨5, "", []⟩]

theorem filtered_logs_by_hash_exact_on_two_logs :
    twoLogDb.LogsReferenced ∧
      ({ logAddresses := ["b"], topics := [["x"]] } : ReceiptFilter).topics.length ≤ 4 ∧
      ((∃ rs, retrieveFilteredLog twoLogDb { logAddresses := ["b"], topics := [["x"]] } 0
            (some "h") = .ok rs ∧
          ExactLogsOf twoLogDb { logAddresses := ["b"], topics := [["x"]] } "h" rs) ∧
        ∃ rs, retrieveFilteredGQLLogs twoLogDb { logAddresses := ["b"], topics := [["x"]] } "h"
            none = .ok rs ∧
          ExactLogsOf twoLogDb { logAddresses := ["b"], topics := [["x"]] } "h" rs) ∧
      (retrieveFilteredLog twoLogDb { logAddresses := ["b"], topics := [["x"]] } 0
          (some "h")).map (List.map LogResult.log) =
        .ok [{ blockNumber := 5, headerId := "h", rctId := "t", index := 1, address := "b",
               topic0 := some "x" }] :=
  have hdb : twoLogDb.LogsReferenced := by constructor <;> decide
  ⟨hdb, by decide, filtered_logs_by_hash_exact twoLogDb hdb _ (by decide) "h", rfl⟩

end IpldEthServer

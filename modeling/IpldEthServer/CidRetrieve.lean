import IpldEthServer.CidBlocks
import IpldEthServer.Serve

namespace IpldEthServer

variable (keccak256Hex : String → String)

structure StorageNodeWithStateKey where
  storage : StorageNodeCid
  stateLeafKey : String
  deriving DecidableEq, Repr

/-- `RetrieveTxCIDs(tx, txFilter, headerID)`: the header is found by its hash alone. -/
def retrieveTxCIDs (db : BlockIndexDb) (txFilter : TxFilter) (headerID : String) :
    List TransactionCid :=
  orderBy TransactionCid.index <| db.transactionCids.flatMap fun t => db.headerCids.flatMap fun h =>
    if t.headerKey = h.pk ∧ h.blockHash = headerID ∧ (txFilter.dst ≠ [] → t.dst ∈ txFilter.dst) ∧
        (txFilter.src ≠ [] → t.src ∈ txFilter.src) then [t] else []

/-- `RetrieveStateCIDs(tx, stateFilter, headerID)`. -/
def retrieveStateCIDs (db : BlockIndexDb) (stateFilter : StateFilter) (headerID : String) :
    List StateNodeCid :=
  db.stateCids.flatMap fun s => db.headerCids.flatMap fun h =>
    if s.headerKey = h.pk ∧ h.blockHash = headerID ∧
        (stateFilter.addresses ≠ [] → s.stateLeafKey ∈ stateFilter.addresses.map keccak256Hex) ∧
        (!stateFilter.intermediateNodes → s.nodeType = 2) then [s] else []

/-- `RetrieveStorageCIDs(tx, storageFilter, headerID)`. -/
def retrieveStorageCIDs (db : BlockIndexDb) (storageFilter : StorageFilter) (headerID : String) :
    List StorageNodeWithStateKey :=
  db.storageCids.flatMap fun st => db.stateCids.flatMap fun s => db.headerCids.flatMap fun h =>
    if st.headerId = s.headerId ∧ st.statePath = s.statePath ∧ st.blockNumber = s.blockNumber ∧
        s.headerKey = h.pk ∧ h.blockHash = headerID ∧
        (storageFilter.addresses ≠ [] →
          s.stateLeafKey ∈ storageFilter.addresses.map keccak256Hex) ∧
        (storageFilter.storageKeys ≠ [] → st.storageLeafKey ∈ storageFilter.storageKeys) ∧
        (!storageFilter.intermediateNodes → st.nodeType = 2)
    then [⟨st, s.stateLeafKey⟩] else []

/-- A `CIDWrapper`; `header` is `none` for the zero `HeaderModel`. -/
structure CIDWrapper where
  blockNumber : ℤ
  header : Option HeaderCid
  uncles : List UncleCid
  transactions : List TransactionCid
  receipts : List ReceiptCid
  stateNodes : List StateNodeCid
  storageNodes : List StorageNodeWithStateKey
  deriving DecidableEq, Repr

/-- The receipts of a pass: `RetrieveRctCIDs` at height 0, when the receipt filter is on. -/
def retrieveWrapperReceipts (db : BlockIndexDb) (filter : SubscriptionSettings)
    (header : HeaderCid) (txs : List TransactionCid) : Except SqlError (List ReceiptCid) :=
  if filter.receiptFilter.off then pure [] else
    retrieveRctCIDs db.toIndexDb filter.receiptFilter 0 header.blockHash (txs.map (·.txHash))

/-- One pass of `Retrieve`'s loop: the wrapper, and whether it clears `empty`. -/
def retrieveWrapper (db : BlockIndexDb) (filter : SubscriptionSettings) (blockNumber : ℤ)
    (header : HeaderCid) : Except SqlError (CIDWrapper × Bool) := do
  let uncles := if !filter.headerFilter.off && filter.headerFilter.uncles then
    retrieveUncleCIDsByHeaderID db header.blockHash else []
  let txs := if filter.txFilter.off then [] else retrieveTxCIDs db filter.txFilter header.blockHash
  let rcts ← retrieveWrapperReceipts db filter header txs
  let state := if filter.stateFilter.off then [] else
    retrieveStateCIDs keccak256Hex db filter.stateFilter header.blockHash
  let storage := if filter.storageFilter.off then [] else
    retrieveStorageCIDs keccak256Hex db filter.storageFilter header.blockHash
  pure (⟨blockNumber, if filter.headerFilter.off then none else some header, uncles, txs, rcts,
      state, storage⟩,
    !filter.headerFilter.off || !txs.isEmpty || !rcts.isEmpty || !state.isEmpty ||
      !storage.isEmpty)

def retrieveWrappers (db : BlockIndexDb) (filter : SubscriptionSettings) (blockNumber : ℤ) :
    List HeaderCid → Except SqlError (List CIDWrapper × Bool)
  | [] => pure ([], true)
  | header :: headers => do
    let (cw, cleared) ← retrieveWrapper keccak256Hex db filter blockNumber header
    let (cws, empty) ← retrieveWrappers db filter blockNumber headers
    pure (cw :: cws, !cleared && empty)

/-- `CIDRetriever.Retrieve(filter, blockNumber)`: the wrappers and the flag `empty`. -/
def retrieve (db : BlockIndexDb) (filter : SubscriptionSettings) (blockNumber : ℤ) :
    Except SqlError (List CIDWrapper × Bool) :=
  retrieveWrappers keccak256Hex db filter blockNumber (retrieveHeaderCIDs db blockNumber)

/-- What the backfill loop makes of `Retrieve`'s answer; it skips the height when `empty` is set. -/
def retrieveOutcome (fetch : CIDWrapper → WrapperOutcome) :
    Except SqlError (List CIDWrapper × Bool) → RetrieveOutcome
  | .error _ => .error
  | .ok (cws, empty) => if empty then .empty else .wrappers (cws.map fetch)

section Components

variable {keccak256Hex} {db : BlockIndexDb} (hu : db.HashesUnique) {h : HeaderCid}
  (hh : h ∈ db.headerCids)
include hu hh

theorem headerKey_of_mem_retrieveTxCIDs {txFilter : TxFilter} {t : TransactionCid}
    (hmem : t ∈ retrieveTxCIDs db txFilter h.blockHash) : t.headerKey = h.pk := by
  simp only [retrieveTxCIDs, mem_orderBy, List.mem_flatMap, List.mem_ite_nil_right,
    List.mem_singleton] at hmem
  obtain ⟨_, _, h', hh', ⟨hk, he, _⟩, rfl⟩ := hmem
  rw [hk, hu.eq hh hh' he]

theorem headerKey_of_mem_retrieveStateCIDs {stateFilter : StateFilter} {s : StateNodeCid}
    (hmem : s ∈ retrieveStateCIDs keccak256Hex db stateFilter h.blockHash) : s.headerKey = h.pk := by
  simp only [retrieveStateCIDs, List.mem_flatMap, List.mem_ite_nil_right,
    List.mem_singleton] at hmem
  obtain ⟨_, _, h', hh', ⟨hk, he, _⟩, rfl⟩ := hmem
  rw [hk, hu.eq hh hh' he]

theorem headerKey_of_mem_retrieveStorageCIDs {storageFilter : StorageFilter}
    {x : StorageNodeWithStateKey}
    (hmem : x ∈ retrieveStorageCIDs keccak256Hex db storageFilter h.blockHash) :
    x.storage.headerKey = h.pk := by
  simp only [retrieveStorageCIDs, List.mem_flatMap, List.mem_ite_nil_right,
    List.mem_singleton] at hmem
  obtain ⟨st, _, s, _, h', hh', ⟨hid, _, hn, hk, he, _⟩, rfl⟩ := hmem
  have hs : st.headerKey = s.headerKey := by
    simp [StorageNodeCid.headerKey, StateNodeCid.headerKey, hid, hn]
  rw [hs, hk, hu.eq hh hh' he]

theorem header_of_mem_retrieveRctCIDs (hne : h.blockHash ≠ "") {rctFilter : ReceiptFilter}
    {txHashes : List String} {rs : List ReceiptCid}
    (hrs : retrieveRctCIDs db.toIndexDb rctFilter 0 h.blockHash txHashes = .ok rs) {r : ReceiptCid}
    (hmem : r ∈ rs) : (r.headerId, r.blockNumber) = h.pk := by
  unfold retrieveRctCIDs at hrs
  split at hrs
  · cases hrs
  · cases hrs
    simp only [List.mem_map, mem_orderBy, List.mem_flatMap, List.mem_ite_nil_right,
      List.mem_singleton] at hmem
    obtain ⟨_, ⟨r, _, t, _, h', hh', ⟨hrt, htk, _, he, _⟩, rfl⟩, rfl⟩ := hmem
    exact (congrArg Prod.snd hrt).trans (htk.trans (by rw [hu.eq hh hh' (he hne)]))

end Components

/-- What the spec asks of the wrapper of header `h`: its height, the header if asked, its own rows.
-/
structure WrapperOf (filter : SubscriptionSettings) (h : HeaderCid) (w : CIDWrapper) : Prop where
  blockNumber : w.blockNumber = h.blockNumber
  header : w.header = if filter.headerFilter.off then none else some h
  uncles : ∀ u ∈ w.uncles, u.headerKey = h.pk
  transactions : ∀ t ∈ w.transactions, t.headerKey = h.pk
  receipts : ∀ r ∈ w.receipts, (r.headerId, r.blockNumber) = h.pk
  stateNodes : ∀ s ∈ w.stateNodes, s.headerKey = h.pk
  storageNodes : ∀ x ∈ w.storageNodes, x.storage.headerKey = h.pk

def CIDWrapper.CarriesNothing (w : CIDWrapper) : Prop :=
  w.header = none ∧ w.transactions = [] ∧ w.receipts = [] ∧ w.stateNodes = [] ∧
    w.storageNodes = []

instance : DecidablePred CIDWrapper.CarriesNothing := fun w => by
  unfold CIDWrapper.CarriesNothing; infer_instance

section Wrappers

variable {keccak256Hex} {db : BlockIndexDb} (hu : db.HashesUnique) (hun : db.UnclesReferenced)
include hu hun

theorem retrieveWrapper_spec {h : HeaderCid} (hh : h ∈ db.headerCids) (hne : h.blockHash ≠ "")
    {filter : SubscriptionSettings} {n : ℤ} (hn : (h.blockNumber : ℤ) = n) {w : CIDWrapper}
    {cleared : Bool} (hw : retrieveWrapper keccak256Hex db filter n h = .ok (w, cleared)) :
    WrapperOf filter h w ∧ (cleared = false ↔ w.CarriesNothing) := by
  simp only [retrieveWrapper, bind, Except.bind, pure, Except.pure] at hw
  split at hw
  · cases hw
  next rcts hrcts =>
    cases hw
    refine ⟨⟨hn.symm, rfl, fun u hu' => ?_, fun t ht => ?_, fun r hr => ?_, fun s hs => ?_,
      fun x hx => ?_⟩, ?_⟩
    · exact headerKey_of_mem_retrieveUncleCIDsByHeaderID hu hun hh (List.mem_ite_nil_right.mp hu').2
    · exact headerKey_of_mem_retrieveTxCIDs hu hh (List.mem_ite_nil_left.mp ht).2
    · unfold retrieveWrapperReceipts at hrcts
      split at hrcts
      · cases hrcts; cases hr
      · exact header_of_mem_retrieveRctCIDs hu hh hne hrcts hr
    · exact headerKey_of_mem_retrieveStateCIDs hu hh (List.mem_ite_nil_left.mp hs).2
    · exact headerKey_of_mem_retrieveStorageCIDs hu hh (List.mem_ite_nil_left.mp hx).2
    · simp [CIDWrapper.CarriesNothing, and_assoc]

theorem retrieveWrappers_spec (hne : ∀ h ∈ db.headerCids, h.blockHash ≠ "")
    (filter : SubscriptionSettings) (n : ℤ) :
    ∀ (hs : List HeaderCid) (ws : List CIDWrapper) (empty : Bool),
      (∀ h ∈ hs, h ∈ db.headerCids ∧ (h.blockNumber : ℤ) = n) →
      retrieveWrappers keccak256Hex db filter n hs = .ok (ws, empty) →
      List.Forall₂ (WrapperOf filter) hs ws ∧ (empty = true ↔ ∀ w ∈ ws, w.CarriesNothing)
  | [], ws, empty, _, hr => by
    cases hr
    exact ⟨.nil, by simp⟩
  | h :: hs, ws, empty, hhs, hr => by
    obtain ⟨hh, hn⟩ := hhs h (List.mem_cons_self h hs)
    simp only [retrieveWrappers, bind, Except.bind, pure, Except.pure] at hr
    split at hr
    · cases hr
    next p hp =>
      split at hr
      · cases hr
      next q hq =>
        cases hr
        obtain ⟨hw, hc⟩ := retrieveWrapper_spec hu hun hh (hne h hh) hn hp
        obtain ⟨hws, he⟩ :=
          retrieveWrappers_spec hne filter n hs q.1 q.2 (fun h' hm => hhs h' (.tail _ hm)) hq
        refine ⟨.cons hw hws, ?_⟩
        simp [he, ← hc]

end Wrappers

def siblingsWithUncleDb : BlockIndexDb where
  headerCids := [⟨1, "h1"⟩, ⟨1, "h2"⟩]
  uncleCids := [⟨1, "h1", "u"⟩]
  transactionCids := [{ blockNumber := 1, headerId := "h1", txHash := "t1", index := 0 },
    { blockNumber := 1, headerId := "h2", txHash := "t2", index := 0 }]
  receiptCids := [{ blockNumber := 1, headerId := "h1", txId := "t1" },
    { blockNumber := 1, headerId := "h2", txId := "t2" }]

def oneHeaderBlockDb : BlockIndexDb where
  headerCids := [⟨1, "h"⟩]
  transactionCids := [{ blockNumber := 1, headerId := "h", txHash := "t", index := 0 }]
  receiptCids := [{ blockNumber := 1, headerId := "h", txId := "t" }]

/-- The block hash `h` names headers at heights 1 and 2; one transaction is under the second. -/
def sharedHashDb : BlockIndexDb where
  headerCids := [⟨1, "h"⟩, ⟨2, "h"⟩]
  transactionCids := [{ blockNumber := 2, headerId := "h", txHash := "t", index := 0 }]

end IpldEthServer
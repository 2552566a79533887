import IpldEthServer.CidLogs
import IpldEthServer.CidReceipts

namespace IpldEthServer

/-- A row of `eth.uncle_cids`. -/
structure UncleCid where
  blockNumber : ℕ
  headerId : String
  blockHash : String
  deriving DecidableEq, Repr

def UncleCid.headerKey (u : UncleCid) : String × ℕ := (u.headerId, u.blockNumber)

/-- A row of `eth.state_cids`. -/
structure StateNodeCid where
  blockNumber : ℕ
  headerId : String
  stateLeafKey : String
  nodeType : ℕ
  statePath : List UInt8
  deriving DecidableEq, Repr

def StateNodeCid.headerKey (s : StateNodeCid) : String × ℕ := (s.headerId, s.blockNumber)

/-- A row of `eth.storage_cids`. -/
structure StorageNodeCid where
  blockNumber : ℕ
  headerId : String
  storageLeafKey : String
  nodeType : ℕ
  statePath : List UInt8
  storagePath : List UInt8
  deriving DecidableEq, Repr

def StorageNodeCid.headerKey (s : StorageNodeCid) : String × ℕ := (s.headerId, s.blockNumber)

/-- The index with the tables beyond `IndexDb` and `canonical_header_hash`, which is modelled from
the spec (it is outside `src/`). -/
structure BlockIndexDb extends IndexDb where
  uncleCids : List UncleCid := []
  stateCids : List StateNodeCid := []
  storageCids : List StorageNodeCid := []
  canonicalHeaderHash : ℕ → Option String := fun _ => none
  canonical_mem : ∀ n hash, canonicalHeaderHash n = some hash →
    (hash, n) ∈ headerCids.map HeaderCid.pk := by simp

/-- A block hash names one header row (else `MultipleHeadersForHash`). -/
def BlockIndexDb.HashesUnique (db : BlockIndexDb) : Prop :=
  (db.headerCids.map HeaderCid.blockHash).Nodup

def BlockIndexDb.UnclesReferenced (db : BlockIndexDb) : Prop :=
  ∀ u ∈ db.uncleCids, u.headerKey ∈ db.headerCids.map HeaderCid.pk

instance (db : BlockIndexDb) : Decidable db.HashesUnique :=
  inferInstanceAs (Decidable (List.Nodup _))

instance (db : BlockIndexDb) : Decidable db.UnclesReferenced :=
  inferInstanceAs (Decidable (∀ u ∈ db.uncleCids, _))

/-- `RetrieveHeaderCIDs`: every header row at the height, siblings included, in table order. -/
def retrieveHeaderCIDs (db : BlockIndexDb) (blockNumber : ℤ) : List HeaderCid :=
  db.headerCids.filter fun h => (h.blockNumber : ℤ) = blockNumber

/-- `RetrieveUncleCIDsByHeaderID`: `WHERE header_id = $1`. -/
def retrieveUncleCIDsByHeaderID (db : BlockIndexDb) (headerID : String) : List UncleCid :=
  db.uncleCids.filter (·.headerId = headerID)

/-- `RetrieveHeaderCIDByHash`: `Get` of `WHERE block_hash = $1`. -/
def retrieveHeaderCIDByHash (db : BlockIndexDb) (blockHash : String) :
    Except SqlError HeaderCid :=
  match db.headerCids.filter (·.blockHash = blockHash) with
  | [] => .error .noRows
  | h :: _ => .ok h

/-- `RetrieveTxCIDsByHeaderID`: `WHERE header_id = $1 AND block_number = $2 ORDER BY index`. -/
def retrieveTxCIDsByHeaderID (db : BlockIndexDb) (headerID : String) (blockNumber : ℤ) :
    List TransactionCid :=
  orderBy TransactionCid.index <|
    db.transactionCids.filter fun t => t.headerId = headerID ∧ (t.blockNumber : ℤ) = blockNumber

def receiptTxRows (db : BlockIndexDb) (headerID : String) (txHashes : List String)
    (blockNumber : ℤ) (r : ReceiptCid) : List (ReceiptCid × ℕ) :=
  db.transactionCids.flatMap fun t =>
    if r.txId ∈ txHashes ∧ r.pk = t.pk ∧ t.headerId = headerID ∧ (t.blockNumber : ℤ) = blockNumber
    then [(r, t.index)] else []

/-- `RetrieveReceiptCIDsByByHeaderIDAndTxIDs`, `ORDER BY transaction_cids.index`. -/
def retrieveReceiptCIDsByByHeaderIDAndTxIDs (db : BlockIndexDb) (headerID : String)
    (txHashes : List String) (blockNumber : ℤ) : List ReceiptCid :=
  (orderBy Prod.snd <| db.receiptCids.flatMap (receiptTxRows db headerID txHashes blockNumber)).map
    Prod.fst

structure BlockCids where
  header : HeaderCid
  uncles : List UncleCid
  txs : List TransactionCid
  rcts : List ReceiptCid
  deriving DecidableEq, Repr

/-- The queries both block retrievers make once they hold a header row. -/
def blockCidsAt (db : BlockIndexDb) (h : HeaderCid) (blockNumber : ℤ) : BlockCids :=
  let txs := retrieveTxCIDsByHeaderID db h.blockHash blockNumber
  { header := h
    uncles := retrieveUncleCIDsByHeaderID db h.blockHash
    txs := txs
    rcts := retrieveReceiptCIDsByByHeaderIDAndTxIDs db h.blockHash (txs.map (·.txHash))
      blockNumber }

/-- `RetrieveBlockByHash`; `strconv.ParseInt` succeeds on a stored height. -/
def retrieveBlockByHash (db : BlockIndexDb) (blockHash : String) : Except SqlError BlockCids :=
  (retrieveHeaderCIDByHash db blockHash).map fun h => blockCidsAt db h h.blockNumber

/-- `RetrieveBlockByNumber`: the first row of `RetrieveHeaderCIDs`. -/
def retrieveBlockByNumber (db : BlockIndexDb) (blockNumber : ℤ) : Except String BlockCids :=
  match retrieveHeaderCIDs db blockNumber with
  | [] => .error ("header cid retrieval error, no header CIDs found at block " ++
      toString blockNumber)
  | h :: _ => .ok (blockCidsAt db h blockNumber)

theorem filter_key_eq_singleton {β κ : Type*} [DecidableEq κ] {xs : List β} {pk : β → κ}
    (hnd : (xs.map pk).Nodup) {x₀ : β} (hx₀ : x₀ ∈ xs) :
    xs.filter (fun x => pk x = pk x₀) = [x₀] := by
  rw [← flatMap_ite_singleton, flatMap_of_unique_key hnd hx₀ fun x _ hne => if_neg hne,
    if_pos rfl]

theorem retrieveHeaderCIDs_of_first {db : BlockIndexDb} {n : ℤ} {h : HeaderCid}
    {rest : List HeaderCid} (hfirst : retrieveHeaderCIDs db n = h :: rest) :
    h ∈ db.headerCids ∧ (h.blockNumber : ℤ) = n := by
  have hmem : h ∈ retrieveHeaderCIDs db n := hfirst ▸ List.mem_cons_self h rest
  simpa [retrieveHeaderCIDs] using hmem

theorem BlockIndexDb.HashesUnique.eq {db : BlockIndexDb} (hu : db.HashesUnique) {h h' : HeaderCid}
    (hh : h ∈ db.headerCids) (hh' : h' ∈ db.headerCids) (he : h'.blockHash = h.blockHash) :
    h' = h :=
  List.inj_on_of_nodup_map hu hh' hh he

theorem headerKey_of_mem_retrieveUncleCIDsByHeaderID {db : BlockIndexDb} (hu : db.HashesUnique)
    (hun : db.UnclesReferenced) {h : HeaderCid} (hh : h ∈ db.headerCids) {u : UncleCid}
    (hmem : u ∈ retrieveUncleCIDsByHeaderID db h.blockHash) : u.headerKey = h.pk := by
  obtain ⟨hu', he⟩ := List.mem_filter.mp hmem
  obtain ⟨h', hh', hk⟩ := List.mem_map.mp (hun u hu')
  rw [← hk, hu.eq hh hh' ((congrArg Prod.fst hk).trans (of_decide_eq_true he))]

/-- `RetrieveBlockByNumber` reads whichever header row at the height comes first as by its hash. -/
theorem retrieveBlockByNumber_of_first (db : BlockIndexDb) {n : ℤ} {h : HeaderCid}
    {rest : List HeaderCid} (hfirst : retrieveHeaderCIDs db n = h :: rest) :
    retrieveBlockByNumber db n = .ok (blockCidsAt db h h.blockNumber) := by
  rw [retrieveBlockByNumber, hfirst, (retrieveHeaderCIDs_of_first hfirst).2]

theorem retrieveBlockByHash_of_mem {db : BlockIndexDb} (hu : db.HashesUnique) {h : HeaderCid}
    (hh : h ∈ db.headerCids) :
    retrieveBlockByHash db h.blockHash = .ok (blockCidsAt db h h.blockNumber) := by
  simp only [retrieveBlockByHash, retrieveHeaderCIDByHash, filter_key_eq_singleton hu hh]
  rfl

def txIndexOf (db : IndexDb) (r : ReceiptCid) : ℕ :=
  ((db.transactionCids.find? (·.pk = r.pk)).map TransactionCid.index).getD 0

/-- What the spec asks of the components of header `h`: its uncles, its transactions by index, their
receipts. -/
structure ExactBlockCids (db : BlockIndexDb) (h : HeaderCid) (c : BlockCids) : Prop where
  header : c.header = h
  uncles : ∀ u, u ∈ c.uncles ↔ u ∈ db.uncleCids ∧ u.headerKey = h.pk
  txs : c.txs.Perm (db.transactionCids.filter (·.headerKey = h.pk))
  txs_sorted : c.txs.Sorted fun a b => a.index ≤ b.index
  rcts : c.rcts.Perm
    (db.receiptCids.filter fun r => ∃ t ∈ db.transactionCids, t.headerKey = h.pk ∧ r.pk = t.pk)
  rcts_sorted : (c.rcts.map (txIndexOf db.toIndexDb)).Sorted (· ≤ ·)

theorem txIndexOf_of_mem {db : IndexDb} {t : TransactionCid} (ht : t ∈ db.transactionCids)
    {r : ReceiptCid} (hrt : r.pk = t.pk) : txIndexOf db r = t.index := by
  rw [txIndexOf, hrt, ← List.filter_head?, filter_key_eq_singleton db.transaction_key ht]
  rfl

/-- A receipt contributes itself once when a transaction of the header has its key. -/
theorem receiptTxRows_fst (db : BlockIndexDb) (h : HeaderCid) (r : ReceiptCid) :
    (receiptTxRows db h.blockHash
        ((retrieveTxCIDsByHeaderID db h.blockHash h.blockNumber).map (·.txHash)) h.blockNumber
        r).map Prod.fst =
      if ∃ t ∈ db.transactionCids, t.headerKey = h.pk ∧ r.pk = t.pk then [r] else [] := by
  have hcond : ∀ t ∈ db.transactionCids,
      (r.txId ∈ (retrieveTxCIDsByHeaderID db h.blockHash h.blockNumber).map (·.txHash) ∧
          r.pk = t.pk ∧ t.headerId = h.blockHash ∧ (t.blockNumber : ℤ) = h.blockNumber) ↔
        t.headerKey = h.pk ∧ r.pk = t.pk := by
    intro t ht
    simp only [TransactionCid.headerKey, HeaderCid.pk, Prod.mk.injEq, Int.ofNat_inj]
    refine ⟨fun ⟨_, hrt, hh, hn⟩ => ⟨⟨hh, hn⟩, hrt⟩, fun ⟨⟨hh, hn⟩, hrt⟩ => ⟨?_, hrt, hh, hn⟩⟩
    refine List.mem_map.mpr ⟨t, ?_, (congrArg Prod.fst hrt).symm⟩
    simp [retrieveTxCIDsByHeaderID, ht, hh, hn]
  rw [receiptTxRows, List.map_flatMap]
  by_cases hex : ∃ t ∈ db.transactionCids, t.pk = r.pk
  · obtain ⟨t₀, ht₀, hpk⟩ := hex
    rw [flatMap_of_unique_key db.transaction_key ht₀ fun t _ hne => ?_]
    · simp only [apply_ite (List.map Prod.fst), List.map_cons, List.map_nil]
      refine if_congr ((hcond t₀ ht₀).trans ⟨fun h => ⟨t₀, ht₀, h⟩, ?_⟩) rfl rfl
      rintro ⟨t, ht, hk, hrt⟩
      obtain rfl : t = t₀ := List.inj_on_of_nodup_map db.transaction_key ht ht₀ (hrt ▸ hpk).symm
      exact ⟨hk, hrt⟩
    · dsimp only
      split_ifs with hc
      · exact absurd (hc.2.1.symm.trans hpk.symm) hne
      · rfl
  · push_neg at hex
    rw [List.flatMap_eq_nil_iff.mpr fun t ht => ?_, if_neg fun ⟨t, ht, _, hrt⟩ => hex t ht hrt.symm]
    dsimp only
    rw [if_neg fun hc => hex t ht hc.2.1.symm, List.map_nil]

theorem blockCidsAt_exact {db : BlockIndexDb} (hu : db.HashesUnique)
    (hun : db.UnclesReferenced) {h : HeaderCid} (hh : h ∈ db.headerCids) :
    ExactBlockCids db h (blockCidsAt db h h.blockNumber) where
  header := rfl
  uncles u := ⟨fun hmem => ⟨(List.mem_filter.mp hmem).1,
      headerKey_of_mem_retrieveUncleCIDsByHeaderID hu hun hh hmem⟩,
    fun ⟨hu', hk⟩ => List.mem_filter.mpr ⟨hu', decide_eq_true (congrArg Prod.fst hk)⟩⟩
  txs := by
    refine (orderBy_perm _ _).trans (List.Perm.of_eq (List.filter_congr fun t _ => ?_))
    simp [TransactionCid.headerKey, HeaderCid.pk, Int.ofNat_inj]
  txs_sorted := orderBy_sorted _ _
  rcts := by
    refine ((orderBy_perm _ _).map _).trans (List.Perm.of_eq ?_)
    rw [List.map_flatMap, List.flatMap_congr fun r _ => receiptTxRows_fst db h r,
      flatMap_ite_singleton]
  rcts_sorted := by
    simp only [blockCidsAt, retrieveReceiptCIDsByByHeaderIDAndTxIDs, List.map_map]
    rw [List.map_congr_left fun x hx => ?_]
    · exact List.pairwise_map.mpr (orderBy_sorted _ _)
    simp only [mem_orderBy, List.mem_flatMap, receiptTxRows] at hx
    obtain ⟨r, _, t, ht, hx⟩ := hx
    split_ifs at hx with hc
    · obtain rfl := List.mem_singleton.mp hx
      exact txIndexOf_of_mem ht hc.2.1
    · cases hx

/-- Sibling headers at height 1, `h2` stored first; `canonical_header_hash(1)` is `h1`. -/
def siblingBlockDb : BlockIndexDb where
  headerCids := [⟨1, "h2"⟩, ⟨1, "h1"⟩]
  canonicalHeaderHash n := if n = 1 then some "h1" else none
  canonical_mem n hash hc := by
    dsimp only at hc
    split_ifs at hc with hn
    · cases hc; subst hn; decide

/-- Both block retrievers read a header's own components; by number, the first row need not be
canonical. -/
theorem block_by_number_reads_first_sibling :
    (∀ (db : BlockIndexDb) (h : HeaderCid), db.HashesUnique → db.UnclesReferenced →
        h ∈ db.headerCids →
        ∃ c, retrieveBlockByHash db h.blockHash = .ok c ∧ ExactBlockCids db h c) ∧
      (∀ (db : BlockIndexDb) (n : ℤ) (h : HeaderCid) (rest : List HeaderCid),
        db.HashesUnique → db.UnclesReferenced → retrieveHeaderCIDs db n = h :: rest →
        ∃ c, retrieveBlockByNumber db n = .ok c ∧ ExactBlockCids db h c) ∧
      retrieveHeaderCIDs siblingBlockDb 1 = [⟨1, "h2"⟩, ⟨1, "h1"⟩] ∧
      siblingBlockDb.canonicalHeaderHash 1 = some "h1" ∧
      ∃ c, retrieveBlockByNumber siblingBlockDb 1 = .ok c ∧ c.header = ⟨1, "h2"⟩ :=
  ⟨fun _ _ hu hun hh => ⟨_, retrieveBlockByHash_of_mem hu hh, blockCidsAt_exact hu hun hh⟩,
    fun db _ _ _ hu hun hfirst => ⟨_, retrieveBlockByNumber_of_first db hfirst,
      blockCidsAt_exact hu hun (retrieveHeaderCIDs_of_first hfirst).1⟩,
    rfl, rfl, _, rfl, rfl⟩

end IpldEthServer
import IpldEthServer.Rlp
import IpldEthServer.StateIndex

namespace IpldEthServer

open StateIndex

variable (keccak256Hex : String → String)

inductive RetrieveError where
  | sql (e : SqlError)
  /-- `error decoding <node> leaf node rlp: <e>`. -/
  | decodeLeaf (node : String) (e : RlpError)
  /-- `eth IPLDRetriever expected <node> leaf node rlp to decode into two elements`. -/
  | leafNotTwoElements (node : String)
  deriving DecidableEq, Repr

/-- How a reader call ends: it returns a value, returns an error, or panics. -/
inductive Outcome (α : Type) where
  | ret (a : α)
  | err (e : RetrieveError)
  | panic (msg : String)
  deriving DecidableEq, Repr

def Outcome.map {α β : Type} (f : α → β) : Outcome α → Outcome β
  | .ret a => .ret (f a)
  | .err e => .err e
  | .panic msg => .panic msg

/-- The runtime panic of the unchecked assertion `i[1].([]byte)` on a nested list. -/
def assertionPanic : String :=
  "interface conversion: interface \x7b\x7d is []interface \x7b\x7d, not []uint8"

/-- Decode a leaf and take its second element; a nested list there panics on `i[1].([]byte)`. -/
def leafValue (node : String) (data : List UInt8) : Outcome (List UInt8) :=
  match decodeBytes data with
  | .error e => .err (.decodeLeaf node e)
  | .ok [_, .bytes v] => .ret v
  | .ok [_, .list _] => .panic assertionPanic
  | .ok _ => .err (.leafNotTwoElements node)

/-- `RetrieveAccountByAddressAndBlockHash`. -/
def retrieveAccountByAddressAndBlockHash (db : Db) (address hash : String) :
    Outcome (String × List UInt8) :=
  match retrieveAccountByLeafKeyAndBlockHash db (keccak256Hex address) hash with
  | .error e => .err (.sql e)
  | .ok row => (leafValue "state" row.data).map (row.cid, ·)

/-- `RetrieveAccountByAddressAndBlockNumber`. -/
def retrieveAccountByAddressAndBlockNumber (db : Db) (address : String) (number : ℕ) :
    Outcome (String × List UInt8) :=
  match retrieveAccountByLeafKeyAndBlockNumber db (keccak256Hex address) number with
  | .error e => .err (.sql e)
  | .ok row => (leafValue "state" row.data).map (row.cid, ·)

/-- `RetrieveStorageAtByAddressAndStorageKeyAndBlockNumber`. -/
def retrieveStorageAtByAddressAndStorageKeyAndBlockNumber (db : Db)
    (address storageLeafKey : String) (number : ℕ) : Outcome (String × List UInt8) :=
  match retrieveStorageLeafByBlockNumber db (keccak256Hex address) storageLeafKey number with
  | .error e => .err (.sql e)
  | .ok row => (leafValue "storage" row.data).map (row.cid, ·)

inductive TxEnd where
  | commit
  | rollback
  deriving DecidableEq, Repr

/-- The body of `RetrieveStorageAtByAddressAndStorageKeyAndBlockHash` after `Beginx`: errors
returned through an inner `err :=` leave the outer `err` nil, so they commit. -/
def storageAtByHashFlow (info : Except SqlError StorageLeafRow)
    (deleted : StorageLeafRow → Except SqlError Bool) : Outcome (String × List UInt8) × TxEnd :=
  match info with
  | .error e => (.err (.sql e), .commit)
  | .ok row =>
    match deleted row with
    | .error e => (.err (.sql e), .commit)
    | .ok true => (.ret ("", []), .commit)
    | .ok false =>
      match decodeBytes row.data with
      | .error e => (.err (.decodeLeaf "storage" e), .commit)
      | .ok [_, .bytes v] => (.ret (row.cid, v), .commit)
      | .ok [_, .list _] => (.panic assertionPanic, .rollback)
      | .ok _ => (.err (.leafNotTwoElements "storage"), .rollback)

/-- `RetrieveStorageAtByAddressAndStorageKeyAndBlockHash`. -/
def retrieveStorageAtByAddressAndStorageKeyAndBlockHash (db : Db)
    (address storageLeafKey hash : String) : Outcome (String × List UInt8) × TxEnd :=
  storageAtByHashFlow (retrieveStorageInfo db (keccak256Hex address) storageLeafKey hash)
    fun row => wasNodeDeleted db row.storagePath row.blockNumber hash

theorem storageAtByHashFlow_not_deleted (row : StorageLeafRow)
    {deleted : StorageLeafRow → Except SqlError Bool} (h : deleted row = .ok false) :
    (storageAtByHashFlow (.ok row) deleted).1 = (leafValue "storage" row.data).map (row.cid, ·) := by
  simp only [storageAtByHashFlow, h, leafValue]
  split <;> rfl

/-- The contract's only state row is a removal whose IPLD block holds `[0x01, 0x02]`. -/
def removedAccountDb (stateLeafKey : String) : Db where
  headerCids := [⟨1, 1, "h1"⟩]
  stateCids := [⟨1, 1, stateLeafKey, "r", "r", 3⟩]
  blocks := [⟨"r", [0xC2, 0x01, 0x02]⟩]
  canonicalHeader := fun n => if n = 1 then some 1 else none

/-- Reading an account whose newest canonical state row is a removal returns the removal's blob. -/
theorem removed_account_reads_removal_blob :
    ∀ keccak256Hex : String → String, retrieveAccountByAddressAndBlockHash keccak256Hex
      (removedAccountDb (keccak256Hex "A")) "A" "h1" = .ret ("r", [0x02]) := by
  intro k
  simp [retrieveAccountByAddressAndBlockHash, retrieveAccountByLeafKeyAndBlockHash,
    removedAccountDb, heightOfHash, stateLeafRows, Db.IsCanonical, atOrBelow, newest, orderByDesc]
  rfl

/-- The reader by hash reads a slot as empty after any removal row on the leaf's storage path, in
any contract. -/
theorem storage_at_by_hash_empty_of_path_removal (db : Db) (address storageLeafKey hash : String)
    {row : StorageLeafRow}
    (hrow : retrieveStorageInfo db (keccak256Hex address) storageLeafKey hash = .ok row) {n : ℕ}
    (hn : heightOfHash db hash = .ok (some n)) {d : StorageCid} (hd : d ∈ db.storageCids)
    {s : StateCid} (hs : s ∈ db.stateCids) (hjoin : d.stateId = s.id)
    (hpath : d.storagePath = row.storagePath) (hremoved : d.nodeType = 3)
    {h : StateIndex.HeaderCid} (hh : h ∈ db.headerCids) (habove : row.blockNumber < h.blockNumber)
    (hbelow : h.blockNumber ≤ n) :
    retrieveStorageAtByAddressAndStorageKeyAndBlockHash keccak256Hex db address storageLeafKey hash =
      (.ret ("", []), .commit) := by
  have hdel : wasNodeDeleted db row.storagePath row.blockNumber hash = .ok true := by
    simp only [wasNodeDeleted, hn, bind, Except.bind, List.any_eq_true, decide_eq_true_eq]
    exact congrArg Except.ok (by
      simpa using ⟨d, hd, s, hs, h, hh, hjoin, hpath, habove, ⟨n, rfl, hbelow⟩, hremoved⟩)
  simp only [retrieveStorageAtByAddressAndStorageKeyAndBlockHash, hrow, storageAtByHashFlow, hdel]

/-- A slot of `A` removed at height 0 and set again to `0x01` at height 1. -/
def recreatedSlotDb (stateLeafKey : String) : Db where
  headerCids := [⟨0, 0, "h0"⟩, ⟨1, 1, "h1"⟩, ⟨2, 2, "h2"⟩]
  stateCids := [⟨0, 0, stateLeafKey, "s0", "s0", 2⟩, ⟨1, 1, stateLeafKey, "s1", "s1", 2⟩]
  storageCids := [⟨0, 0, "K", "d", "d", [0x02], 3⟩, ⟨1, 1, "K", "v", "v", [0x02], 2⟩]
  blocks := [⟨"d", [0x80]⟩, ⟨"v", [0xC2, 0x80, 0x01]⟩]
  canonicalHeader := some

theorem recreated_slot_reads_empty :
    ∀ keccak256Hex : String → String,
      retrieveStorageInfo (recreatedSlotDb (keccak256Hex "A")) (keccak256Hex "A") "K" "h2" =
          .ok ⟨"v", [0xC2, 0x80, 0x01], [0x02], 1⟩ ∧
        leafValue "storage" [0xC2, 0x80, 0x01] = .ret [0x01] ∧
        (retrieveStorageAtByAddressAndStorageKeyAndBlockHash keccak256Hex
          (recreatedSlotDb (keccak256Hex "A")) "A" "K" "h2").1 = .ret ("", []) := by
  intro k
  have hrow : retrieveStorageInfo (recreatedSlotDb (k "A")) (k "A") "K" "h2" =
      .ok ⟨"v", [0xC2, 0x80, 0x01], [0x02], 1⟩ := by
    simp [retrieveStorageInfo, recreatedSlotDb, heightOfHash, storageLeafRows, Db.IsCanonical,
      atOrBelow, newest, orderByDesc, bind, Except.bind, pure, Except.pure]
  refine ⟨hrow, rfl, ?_⟩
  rw [storage_at_by_hash_empty_of_path_removal k _ "A" "K" "h2" hrow (n := 2) rfl
    (d := ⟨0, 0, "K", "d", "d", [0x02], 3⟩) (by simp [recreatedSlotDb])
    (s := ⟨0, 0, k "A", "s0", "s0", 2⟩) (by simp [recreatedSlotDb]) rfl rfl rfl
    (h := ⟨2, 2, "h2"⟩) (by simp [recreatedSlotDb]) (by decide) le_rfl]

theorem stateLeafRows_congr {db : Db} {stateLeafKey : String}
    {c₁ c₂ : StateIndex.HeaderCid → Prop} [DecidablePred c₁] [DecidablePred c₂]
    (hc : ∀ s ∈ db.stateCids, ∀ h ∈ db.headerCids, s.headerId = h.id →
      s.stateLeafKey = stateLeafKey → (c₁ h ↔ c₂ h)) :
    stateLeafRows db stateLeafKey c₁ = stateLeafRows db stateLeafKey c₂ := by
  refine List.flatMap_congr fun s hs => List.flatMap_congr fun h hh =>
    List.flatMap_congr fun b _ => if_congr ?_ rfl rfl
  exact ⟨fun ⟨h1, h2, h3, h4⟩ => ⟨h1, h2, h3, (hc s hs h hh h1 h3).mp h4⟩,
    fun ⟨h1, h2, h3, h4⟩ => ⟨h1, h2, h3, (hc s hs h hh h1 h3).mpr h4⟩⟩

theorem storageLeafRows_congr {db : Db} {stateLeafKey storageLeafKey : String}
    {c₁ c₂ : StateIndex.HeaderCid → Prop} [DecidablePred c₁] [DecidablePred c₂]
    (hc : ∀ st ∈ db.storageCids, ∀ s ∈ db.stateCids, ∀ h ∈ db.headerCids,
      st.stateId = s.id → s.headerId = h.id → s.stateLeafKey = stateLeafKey →
      st.storageLeafKey = storageLeafKey → (c₁ h ↔ c₂ h)) :
    storageLeafRows db stateLeafKey storageLeafKey c₁ =
      storageLeafRows db stateLeafKey storageLeafKey c₂ := by
  refine List.flatMap_congr fun st hst => List.flatMap_congr fun s hs =>
    List.flatMap_congr fun h hh => List.flatMap_congr fun b _ => if_congr ?_ rfl rfl
  exact ⟨fun ⟨h1, h2, h3, h4, h5, h6⟩ =>
      ⟨h1, h2, h3, h4, h5, (hc st hst s hs h hh h1 h2 h4 h5).mp h6⟩,
    fun ⟨h1, h2, h3, h4, h5, h6⟩ => ⟨h1, h2, h3, h4, h5, (hc st hst s hs h hh h1 h2 h4 h5).mpr h6⟩⟩

theorem atOrBelow_canonical_iff {db : Db} {n : ℕ} {h : StateIndex.HeaderCid}
    (hcanon : h.blockNumber ≤ n → db.IsCanonical h) :
    h.blockNumber ≤ n ↔ atOrBelow (some n) h ∧ db.IsCanonical h :=
  ⟨fun hle => ⟨⟨n, rfl, hle⟩, hcanon hle⟩,
    fun ⟨⟨_, hm, hle⟩, _⟩ => Option.some_inj.mp hm ▸ hle⟩

theorem heightOfHash_of_unique {db : Db} {hash : String} {n : ℕ}
    (hhash : (db.headerCids.filter fun h => h.blockHash = hash).map StateIndex.HeaderCid.blockNumber =
      [n]) :
    heightOfHash db hash = .ok (some n) := by
  simp only [heightOfHash, hhash]

def canonicalRowsDb (stateLeafKey : String) : Db where
  headerCids := [⟨1, 1, "h1"⟩, ⟨2, 2, "h2"⟩]
  stateCids := [⟨1, 1, stateLeafKey, "s1", "s1", 2⟩, ⟨2, 2, stateLeafKey, "s2", "s2", 2⟩]
  storageCids := [⟨1, 1, "K", "v1", "v1", [0x02], 2⟩, ⟨2, 2, "K", "v2", "v2", [0x02], 2⟩]
  blocks := [⟨"s1", [0xC2, 0x80, 0x01]⟩, ⟨"s2", [0xC2, 0x80, 0x02]⟩,
    ⟨"v1", [0xC2, 0x80, 0x03]⟩, ⟨"v2", [0xC2, 0x80, 0x04]⟩]
  canonicalHeader := some

def siblingAccountDb (stateLeafKey : String) : Db where
  headerCids := [⟨1, 1, "h1"⟩, ⟨2, 1, "h2"⟩]
  stateCids := [⟨1, 2, stateLeafKey, "s", "s", 2⟩]
  blocks := [⟨"s", [0xC2, 0x80, 0x01]⟩]
  canonicalHeader := fun _ => some 1

end IpldEthServer

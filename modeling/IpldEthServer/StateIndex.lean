import IpldEthServer.Basic

/-! The tables `ipld_retriever.go` reads for accounts and storage. In the schema its queries
are written against, rows are joined on serial ids (`state_cids.header_id = header_cids.id`,
`storage_cids.state_id = state_cids.id`), only `header_cids` carries `block_number`, and
`public.blocks` is keyed by `key` alone. Canonicity is the index's function
`canonical_header(height)`, which names the id of the header it picks at a height. -/
namespace IpldEthServer.StateIndex

structure HeaderCid where
  id : ℕ
  blockNumber : ℕ
  blockHash : String
  deriving DecidableEq, Repr

/-- A row of `eth.state_cids`; `node_type = 3` records a removal. -/
structure StateCid where
  id : ℕ
  headerId : ℕ
  stateLeafKey : String
  cid : String
  mhKey : String
  nodeType : ℕ
  deriving DecidableEq, Repr

/-- A row of `eth.storage_cids`; `node_type = 3` records a removal. -/
structure StorageCid where
  id : ℕ
  stateId : ℕ
  storageLeafKey : String
  cid : String
  mhKey : String
  storagePath : List UInt8
  nodeType : ℕ
  deriving DecidableEq, Repr

structure Block where
  key : String
  data : List UInt8
  deriving DecidableEq, Repr

/-- The index: its tables and its `canonical_header` function; no query below needs the schema's
keys. -/
structure Db where
  headerCids : List HeaderCid := []
  stateCids : List StateCid := []
  storageCids : List StorageCid := []
  blocks : List Block := []
  canonicalHeader : ℕ → Option ℕ := fun _ => none

/-- `header_cids.id = (SELECT canonical_header(block_number))`. -/
def Db.IsCanonical (db : Db) (h : HeaderCid) : Prop := db.canonicalHeader h.blockNumber = some h.id

instance (db : Db) (h : HeaderCid) : Decidable (db.IsCanonical h) :=
  inferInstanceAs (Decidable (_ = _))

/-- The scalar sub-query `(SELECT block_number … WHERE block_hash = $n)`: `NULL` for no header, an
error for several. -/
def heightOfHash (db : Db) (hash : String) : Except SqlError (Option ℕ) :=
  match (db.headerCids.filter fun h => h.blockHash = hash).map HeaderCid.blockNumber with
  | [] => .ok none
  | [n] => .ok (some n)
  | _ => .error .subqueryMultipleRows

/-- `block_number <= (sub-query)`; a comparison with `NULL` holds for no row. -/
def atOrBelow (height : Option ℕ) (h : HeaderCid) : Prop := ∃ n ∈ height, h.blockNumber ≤ n

instance (height : Option ℕ) (h : HeaderCid) : Decidable (atOrBelow height h) := by
  unfold atOrBelow; infer_instance

structure StateLeafRow where
  cid : String
  data : List UInt8
  blockNumber : ℕ
  deriving DecidableEq, Repr

/-- `FROM eth.state_cids, eth.header_cids, public.blocks` for one leaf key, under a condition on the
header. -/
def stateLeafRows (db : Db) (stateLeafKey : String) (cond : HeaderCid → Prop)
    [DecidablePred cond] : List StateLeafRow :=
  db.stateCids.flatMap fun s => db.headerCids.flatMap fun h => db.blocks.flatMap fun b =>
    if s.headerId = h.id ∧ s.mhKey = b.key ∧ s.stateLeafKey = stateLeafKey ∧ cond h then
      [⟨s.cid, b.data, h.blockNumber⟩]
    else []

/-- `RetrieveAccountByLeafKeyAndBlockHashPgStr` with `Get`: the newest canonical row at or below the
hash's height. -/
def retrieveAccountByLeafKeyAndBlockHash (db : Db) (stateLeafKey hash : String) :
    Except SqlError StateLeafRow := do
  let height ← heightOfHash db hash
  newest StateLeafRow.blockNumber
    (stateLeafRows db stateLeafKey fun h => atOrBelow height h ∧ db.IsCanonical h)

/-- `RetrieveAccountByLeafKeyAndBlockNumberPgStr` with `Get`: the newest row at or below the height.
-/
def retrieveAccountByLeafKeyAndBlockNumber (db : Db) (stateLeafKey : String) (number : ℕ) :
    Except SqlError StateLeafRow :=
  newest StateLeafRow.blockNumber (stateLeafRows db stateLeafKey fun h => h.blockNumber ≤ number)

structure StorageLeafRow where
  cid : String
  data : List UInt8
  storagePath : List UInt8
  blockNumber : ℕ
  deriving DecidableEq, Repr

/-- The four-table join of the storage queries for one pair of leaf keys, under a condition on the
header. -/
def storageLeafRows (db : Db) (stateLeafKey storageLeafKey : String) (cond : HeaderCid → Prop)
    [DecidablePred cond] : List StorageLeafRow :=
  db.storageCids.flatMap fun st => db.stateCids.flatMap fun s => db.headerCids.flatMap fun h =>
    db.blocks.flatMap fun b =>
      if st.stateId = s.id ∧ s.headerId = h.id ∧ st.mhKey = b.key ∧
          s.stateLeafKey = stateLeafKey ∧ st.storageLeafKey = storageLeafKey ∧ cond h then
        [⟨st.cid, b.data, st.storagePath, h.blockNumber⟩]
      else []

/-- `retrieveStorageInfoPgStr` with `Get`: the newest canonical row at or below the hash's height.
-/
def retrieveStorageInfo (db : Db) (stateLeafKey storageLeafKey hash : String) :
    Except SqlError StorageLeafRow := do
  let height ← heightOfHash db hash
  newest StorageLeafRow.blockNumber
    (storageLeafRows db stateLeafKey storageLeafKey fun h => atOrBelow height h ∧ db.IsCanonical h)

/-- `RetrieveStorageLeafByAddressHashAndLeafKeyAndBlockNumberPgStr` with `Get`. -/
def retrieveStorageLeafByBlockNumber (db : Db) (stateLeafKey storageLeafKey : String)
    (number : ℕ) : Except SqlError StorageLeafRow :=
  newest StorageLeafRow.blockNumber
    (storageLeafRows db stateLeafKey storageLeafKey fun h => h.blockNumber ≤ number)

/-- `wasNodeDeletedpgStr`: no condition ties the storage or state row to the header row it ranges
over. -/
def wasNodeDeleted (db : Db) (storagePath : List UInt8) (blockNumber : ℕ) (hash : String) :
    Except SqlError Bool := do
  let height ← heightOfHash db hash
  .ok <| db.storageCids.any fun st => db.stateCids.any fun s => db.headerCids.any fun h =>
    decide (st.stateId = s.id ∧ st.storagePath = storagePath ∧ blockNumber < h.blockNumber ∧
      atOrBelow height h ∧ st.nodeType = 3)

end IpldEthServer.StateIndex

import IpldEthServer.IpldRetriever
import IpldEthServer.ServeBackfill

namespace IpldEthServer

/-- Modelled from the spec: `eth.EmptyNodeValue`, declared outside `src/`. -/
def emptyNodeValue : List UInt8 := List.replicate 32 0

structure StorageResult where
  value : List UInt8
  cid : String
  ipldBlock : List UInt8
  deriving DecidableEq, Repr

inductive GetStorageAtOutcome where
  | ret (r : StorageResult)
  | retrieveError (e : RetrieveError)
  | decodeError (e : RlpError)
  | panic (msg : String)
  deriving DecidableEq, Repr

/-- `Resolver.GetStorageAt`: `sql.ErrNoRows` reads as empty; any other value is decoded and asserted
`[]byte`. -/
def getStorageAt (retrieved : Except RetrieveError (String × List UInt8 × List UInt8)) :
    GetStorageAtOutcome :=
  match retrieved with
  | .error (.sql .noRows) => .ret ⟨[], "", []⟩
  | .error e => .retrieveError e
  | .ok (cid, ipldBlock, rlpValue) =>
    if rlpValue = emptyNodeValue then .ret ⟨emptyNodeValue, cid, ipldBlock⟩
    else
      match decodeValue rlpValue with
      | .error e => .decodeError e
      | .ok (.bytes v) => .ret ⟨v, cid, ipldBlock⟩
      | .ok (.list _) => .panic assertionPanic

/-- State and storage leaves `[0x, []]`, whose second element is a list. -/
def listLeafDb (stateLeafKey : String) : StateIndex.Db where
  headerCids := [⟨1, 1, "h1"⟩]
  stateCids := [⟨1, 1, stateLeafKey, "s", "l", 2⟩]
  storageCids := [⟨1, 1, "K", "v", "l", [0x02], 2⟩]
  blocks := [⟨"l", [0xC2, 0x80, 0xC0]⟩]
  canonicalHeader := fun n => if n = 1 then some 1 else none

/-- The four readers and `GetStorageAt` panic on a leaf value that is a list. -/
theorem list_leaf_value_panics :
    ∀ keccak256Hex : String → String,
      retrieveAccountByAddressAndBlockHash keccak256Hex (listLeafDb (keccak256Hex "A")) "A" "h1" =
          .panic assertionPanic ∧
        retrieveAccountByAddressAndBlockNumber keccak256Hex (listLeafDb (keccak256Hex "A")) "A" 1 =
          .panic assertionPanic ∧
        (retrieveStorageAtByAddressAndStorageKeyAndBlockHash keccak256Hex
          (listLeafDb (keccak256Hex "A")) "A" "K" "h1").1 = .panic assertionPanic ∧
        retrieveStorageAtByAddressAndStorageKeyAndBlockNumber keccak256Hex
          (listLeafDb (keccak256Hex "A")) "A" "K" 1 = .panic assertionPanic ∧
        getStorageAt (.ok ("c", [], [0xC0])) = .panic assertionPanic := by
  intro k
  refine ⟨?_, ?_, ?_, ?_, rfl⟩ <;>
    simp [retrieveAccountByAddressAndBlockHash, retrieveAccountByAddressAndBlockNumber,
      retrieveStorageAtByAddressAndStorageKeyAndBlockHash,
      retrieveStorageAtByAddressAndStorageKeyAndBlockNumber, storageAtByHashFlow,
      StateIndex.retrieveAccountByLeafKeyAndBlockHash,
      StateIndex.retrieveAccountByLeafKeyAndBlockNumber, StateIndex.retrieveStorageInfo,
      StateIndex.retrieveStorageLeafByBlockNumber, StateIndex.wasNodeDeleted, listLeafDb,
      StateIndex.heightOfHash, StateIndex.stateLeafRows, StateIndex.storageLeafRows,
      StateIndex.Db.IsCanonical, StateIndex.atOrBelow, newest, orderByDesc, bind, Except.bind,
      pure, Except.pure] <;>
    rfl

def makesliceCapOutOfRange : String := "makeslice: cap out of range"

/-- The loop `for i := from; i <= to; i++` of `Blocks` on `int64`, for at most `fuel` passes. -/
def blocksLoop : ℕ → ℤ → ℤ → List ℤ → Option (List ℤ)
  | 0, _, _, _ => none
  | fuel + 1, i, last, ret =>
    if i ≤ last then blocksLoop fuel (int64Succ i) last (ret ++ [i]) else some ret

/-- `Resolver.Blocks(From, To)`, each bound read as an `int64`; `none` while the loop runs. -/
def blocks (fuel : ℕ) (fromBlock : ℕ) (toBlock : Option ℕ) (current : Except String ℤ) :
    Option (Outcome (List ℤ)) :=
  let f := bigIntInt64 fromBlock
  let last : Except String ℤ :=
    match toBlock with
    | some t => .ok (bigIntInt64 t)
    | none => current.map bigIntInt64
  match last with
  | .error _ => some (.ret [])
  | .ok t =>
    if t < f then some (.ret [])
    else
      let cap := bigIntInt64 (t - f + 1)
      if cap < 0 ∨ 2 ^ 45 < cap then some (.panic makesliceCapOutOfRange)
      else (blocksLoop fuel f t []).map .ret

/-- With `to` the largest `int64`, `i++` wraps and the loop never exits. -/
theorem blocksLoop_at_max (fuel : ℕ) :
    ∀ (i : ℤ) (ret : List ℤ), i < 2 ^ 63 → blocksLoop fuel i (2 ^ 63 - 1) ret = none := by
  induction fuel with
  | zero => intro _ _ _; rfl
  | succ fuel ih =>
    intro i ret hi
    rw [blocksLoop, if_pos (by omega)]
    exact ih _ _ (bigIntInt64_lt _)

theorem blocksLoop_spec {last : ℤ} (hlast : last < 2 ^ 63 - 1) :
    ∀ (m : ℕ) (i : ℤ) (ret : List ℤ), -2 ^ 63 ≤ i → m = (last + 1 - i).toNat →
      blocksLoop (m + 1) i last ret = some (ret ++ heightsFrom i last) := by
  intro m
  induction m with
  | zero =>
    intro i ret _ hm
    have hlt : last < i := by omega
    rw [blocksLoop, if_neg (by omega), heightsFrom_of_lt hlt, List.append_nil]
  | succ m ih =>
    intro i ret hi hm
    have hle : i ≤ last := by omega
    rw [blocksLoop, if_pos hle, int64Succ, bigIntInt64_of_lt (by omega) (by omega),
      ih _ _ (by omega) (by omega), heightsFrom_of_le hle, List.append_assoc, List.singleton_append]

/-- `Blocks` returns `From` to `To` below the largest `int64`, and never exits at it. -/
theorem blocks_never_exits_at_max_int64 :
    (∀ (fromBlock toBlock : ℕ) (current : Except String ℤ), fromBlock ≤ toBlock →
        toBlock < 2 ^ 63 - 1 → toBlock - fromBlock < 2 ^ 45 →
        ∃ fuel, blocks fuel fromBlock (some toBlock) current =
          some (.ret (heightsFrom fromBlock toBlock))) ∧
      (∀ (fromBlock toBlock fuel : ℕ) (current : Except String ℤ), toBlock < fromBlock →
        fromBlock < 2 ^ 63 → blocks fuel fromBlock (some toBlock) current = some (.ret [])) ∧
      (∀ (current : Except String ℤ) (fuel : ℕ),
        blocks fuel (2 ^ 63 - 1) (some (2 ^ 63 - 1)) current = none) ∧
      ∀ current : Except String ℤ,
        blocks 2 (2 ^ 64 - 1) (some (2 ^ 64 - 1)) current = some (.ret [-1]) := by
  refine ⟨fun f t current hle hto hcap => ?_, fun f t fuel current hlt hf => ?_,
    fun current fuel => ?_, fun current => rfl⟩
  · have hf : bigIntInt64 f = f := bigIntInt64_of_lt (by omega) (by omega)
    have ht : bigIntInt64 t = t := bigIntInt64_of_lt (by omega) (by omega)
    have hc : bigIntInt64 ((t : ℤ) - f + 1) = (t : ℤ) - f + 1 :=
      bigIntInt64_of_lt (by omega) (by omega)
    refine ⟨((t : ℤ) + 1 - f).toNat + 1, ?_⟩
    simp only [blocks, hf, ht, hc, if_neg (show ¬((t : ℤ) < f) by omega),
      if_neg (show ¬((t : ℤ) - f + 1 < 0 ∨ 2 ^ 45 < (t : ℤ) - f + 1) by omega)]
    rw [blocksLoop_spec (by omega) _ _ _ (by omega) rfl, List.nil_append]
    rfl
  · simp only [blocks, bigIntInt64_of_lt (show -2 ^ 63 ≤ (f : ℤ) by omega) (by omega),
      bigIntInt64_of_lt (show -2 ^ 63 ≤ (t : ℤ) by omega) (by omega),
      if_pos (show (t : ℤ) < f by omega)]
  · simp only [blocks, show bigIntInt64 (2 ^ 63 - 1 : ℕ) = 2 ^ 63 - 1 by decide]
    rw [if_neg (lt_irrefl _), if_neg (by decide), blocksLoop_at_max _ _ _ (by decide)]
    rfl

end IpldEthServer

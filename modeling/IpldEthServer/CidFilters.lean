import IpldEthServer.CidIndex

namespace IpldEthServer

def hasTopics (topics : List (List String)) : Bool := topics.any fun set => !set.isEmpty

/-- The conjunction `topicFilterCondition` appends, read on a log row. -/
def topicFilterMatches (l : LogCid) : ℕ → List (List String) → Bool
  | _, [] => true
  | i, set :: rest => (set.isEmpty || anyOf (l.topic i) set) && topicFilterMatches l (i + 1) rest

/-- The first position past `topic3` with a non-empty set, where the column `topic%d` is missing. -/
def undefinedTopicColumn (topics : List (List String)) : Option ℕ :=
  let k := (topics.drop 4).findIdx fun set => !set.isEmpty
  if k < (topics.drop 4).length then some (4 + k) else none

def topicColumnError (i : ℕ) : SqlError := .undefinedColumn ("eth.log_cids.topic" ++ toString i)

/-- The conditions `logFilterCondition` appends, read on a log row. -/
def logFilterMatches (rctFilter : ReceiptFilter) (l : LogCid) : Bool :=
  (rctFilter.logAddresses.isEmpty || rctFilter.logAddresses.contains l.address) &&
    (!hasTopics rctFilter.topics || topicFilterMatches l 0 rctFilter.topics)

/-- `SELECT rct_id FROM eth.log_cids WHERE cond`, over the whole log table. -/
def logRctIds (db : IndexDb) (cond : LogCid → Bool) : List String :=
  (db.logCids.filter cond).map LogCid.rctId

/-- The condition `receiptFilterConditions` appends, read on a receipt row. -/
def receiptFilterMatches (db : IndexDb) (rctFilter : ReceiptFilter) (txHashes : List String)
    (r : ReceiptCid) : Bool :=
  let byTx := rctFilter.matchTxs && !txHashes.isEmpty
  if !rctFilter.logAddresses.isEmpty then
    (logRctIds db fun l => rctFilter.logAddresses.contains l.address &&
        (!hasTopics rctFilter.topics || topicFilterMatches l 0 rctFilter.topics)).contains r.txId ||
      (byTx && txHashes.contains r.txId)
  else if hasTopics rctFilter.topics then
    (logRctIds db fun l => topicFilterMatches l 0 rctFilter.topics).contains r.txId ||
      (byTx && txHashes.contains r.txId)
  else if byTx then txHashes.contains r.txId
  else true

/-- The log filter of §4.1.a on one log row. -/
def LogFilterSpec (rctFilter : ReceiptFilter) (l : LogCid) : Prop :=
  (rctFilter.logAddresses = [] ∨ l.address ∈ rctFilter.logAddresses) ∧
    ∀ i set, rctFilter.topics[i]? = some set → set ≠ [] → ∃ t, l.topic i = some t ∧ t ∈ set

theorem topicFilterMatches_iff (l : LogCid) (i : ℕ) (topics : List (List String)) :
    topicFilterMatches l i topics = true ↔
      ∀ j set, topics[j]? = some set → set ≠ [] → ∃ t, l.topic (i + j) = some t ∧ t ∈ set := by
  induction topics generalizing i with
  | nil => simp [topicFilterMatches]
  | cons s rest ih =>
    simp only [topicFilterMatches, Bool.and_eq_true, Bool.or_eq_true, List.isEmpty_iff,
      anyOf_iff, ih]
    constructor
    · rintro ⟨h0, hrest⟩ j set hj hs
      cases j with
      | zero =>
        rw [List.getElem?_cons_zero, Option.some.injEq] at hj
        subst hj
        simpa using h0.resolve_left hs
      | succ j =>
        rw [List.getElem?_cons_succ] at hj
        rw [show i + (j + 1) = i + 1 + j by omega]
        exact hrest j set hj hs
    · intro h
      refine ⟨(em (s = [])).imp id fun hs => by simpa using h 0 s List.getElem?_cons_zero hs,
        fun j set hj hs => ?_⟩
      rw [show i + 1 + j = i + (j + 1) by omega]
      exact h (j + 1) set (by rwa [List.getElem?_cons_succ]) hs

theorem hasTopics_eq_false {topics : List (List String)} :
    hasTopics topics = false ↔ ∀ set ∈ topics, set = [] := by
  simp [hasTopics]

theorem logFilterMatches_iff (rctFilter : ReceiptFilter) (l : LogCid) :
    logFilterMatches rctFilter l = true ↔ LogFilterSpec rctFilter l := by
  have htopics : (!hasTopics rctFilter.topics || topicFilterMatches l 0 rctFilter.topics) = true ↔
      ∀ i set, rctFilter.topics[i]? = some set → set ≠ [] →
        ∃ t, l.topic i = some t ∧ t ∈ set := by
    rw [Bool.or_eq_true, topicFilterMatches_iff]
    simp only [Nat.zero_add, Bool.not_eq_true']
    refine ⟨fun h => h.elim (fun hn i set hi hs => ?_) id, Or.inr⟩
    exact absurd (hasTopics_eq_false.mp hn set (List.getElem?_mem hi)) hs
  simp only [logFilterMatches, LogFilterSpec, Bool.and_eq_true, htopics, Bool.or_eq_true,
    List.isEmpty_iff, List.elem_iff, List.contains]

instance (rctFilter : ReceiptFilter) : DecidablePred (LogFilterSpec rctFilter) :=
  fun l => decidable_of_iff _ (logFilterMatches_iff rctFilter l)

theorem undefinedTopicColumn_of_length {topics : List (List String)} (h : topics.length ≤ 4) :
    undefinedTopicColumn topics = none := by
  simp [undefinedTopicColumn, List.drop_eq_nil_of_le h]

end IpldEthServer

import IpldEthServer.SqlLexer

namespace IpldEthServer

/-- The columns the log conditions compare, each with its value: addresses, and each topic
position's set. -/
def logColumns (rctFilter : ReceiptFilter) : List (String × SqlArg) :=
  ("eth.log_cids.address", .array rctFilter.logAddresses) ::
    rctFilter.topics.enum.map fun p => ("eth.log_cids.topic" ++ toString p.1, .array p.2)

def txColumns (txFilter : TxFilter) (headerID : String) : List (String × SqlArg) :=
  [("header_cids.block_hash", .text headerID), ("transaction_cids.dst", .array txFilter.dst),
    ("transaction_cids.src", .array txFilter.src)]

def rctColumns (rctFilter : ReceiptFilter) (blockNumber : ℤ) (blockHash : String)
    (txHashes : List String) : List (String × SqlArg) :=
  ("header_cids.block_number", .int blockNumber) :: ("header_cids.block_hash", .text blockHash) ::
    ("receipt_cids.tx_id", .array txHashes) :: logColumns rctFilter

def filteredLogColumns (rctFilter : ReceiptFilter) (blockNumber : ℤ) (blockHash : Option String) :
    List (String × SqlArg) :=
  ("header_cids.block_number", .int blockNumber) ::
    (blockHash.map fun h => ("header_cids.block_hash", SqlArg.text h)).toList ++
      logColumns rctFilter

def gqlLogColumns (rctFilter : ReceiptFilter) (blockHash : String) (blockNumber : Option ℤ) :
    List (String × SqlArg) :=
  ("receipt_cids.header_id", .text blockHash) ::
    (blockNumber.map fun n => ("receipt_cids.block_number", SqlArg.int (bigIntInt64 n))).toList ++
      logColumns rctFilter

def stateColumns (keccak256Hex : String → String) (stateFilter : StateFilter) (headerID : String) :
    List (String × SqlArg) :=
  [("header_cids.block_hash", .text headerID),
    ("state_cids.state_leaf_key", .array (stateFilter.addresses.map keccak256Hex))]

def storageColumns (keccak256Hex : String → String) (storageFilter : StorageFilter)
    (headerID : String) : List (String × SqlArg) :=
  [("header_cids.block_hash", .text headerID),
    ("state_cids.state_leaf_key", .array (storageFilter.addresses.map keccak256Hex)),
    ("storage_cids.storage_leaf_key", .array storageFilter.storageKeys)]

/-- What `RetrieveRctCIDs` joins by `OR`: the transaction hashes, when a log condition comes before
them. -/
def receiptAlternatives (rctFilter : ReceiptFilter) (txHashes : List String) : List String :=
  if (!rctFilter.logAddresses.isEmpty || hasTopics rctFilter.topics) && rctFilter.matchTxs &&
    !txHashes.isEmpty then ["receipt_cids.tx_id"] else []

/-- A query reads well: placeholders `$1 … $k` in order, each on its column's value, connectives in
place. -/
structure SqlWellFormed (columns : List (String × SqlArg)) (alts : List String) (q : PgQuery) :
    Prop where
  numbered : ((sqlEvents q.pgStr).filterMap SqlEvent.placeholder?).map Prod.snd =
    (List.range q.args.length).map fun j => toString (j + 1)
  bound : List.Forall₂ (fun p a => (p.1, a) ∈ columns)
    ((sqlEvents q.pgStr).filterMap SqlEvent.placeholder?) q.args
  alternatives : (sqlEvents q.pgStr).filterMap SqlEvent.alternative? = alts
  placed : SqlEvent.misplaced ∉ sqlEvents q.pgStr
  balanced : SqlEvent.unbalanced ∉ sqlEvents q.pgStr

/-- The text so far reads well, and the scanner stops after a token of role `last`, `depth` open. -/
structure ReadsWell (columns : List (String × SqlArg)) (q : PgQuery) (alts : List String)
    (last : TokenRole) (depth : ℕ) : Prop where
  last_eq : (readFrom {} q.pgStr).2.last = last
  depth_eq : (readFrom {} q.pgStr).2.depth = depth
  numbered : ((readFrom {} q.pgStr).1.filterMap SqlEvent.placeholder?).map Prod.snd =
    (List.range q.args.length).map fun j => toString (j + 1)
  bound : List.Forall₂ (fun p a => (p.1, a) ∈ columns)
    ((readFrom {} q.pgStr).1.filterMap SqlEvent.placeholder?) q.args
  alternatives : (readFrom {} q.pgStr).1.filterMap SqlEvent.alternative? = alts
  placed : SqlEvent.misplaced ∉ (readFrom {} q.pgStr).1
  balanced : SqlEvent.unbalanced ∉ (readFrom {} q.pgStr).1

/-- Reading `s` after a role `l` with `d` open reports `evs` and stops after role `l'` with `d'`
open. -/
structure PieceReads (s : String) (l : TokenRole) (d : ℕ) (evs : List SqlEvent) (l' : TokenRole)
    (d' : ℕ) : Prop where
  head : ∃ c, s.data.head? = some c ∧ wordChar c = false
  reads : ∀ b cand col, ∃ st', readFrom ⟨b, l, cand, col, d⟩ s = (evs, st') ∧ st'.last = l' ∧
    st'.depth = d'

section Pieces

variable {C : List (String × SqlArg)} {q : PgQuery} {alts : List String} {l l' : TokenRole}
  {d d' : ℕ} {s : String}

theorem readFrom_append_piece (h : ReadsWell C q alts l d) (hs : PieceReads s l d evs l' d') :
    ∃ st', readFrom {} (q.pgStr ++ s) = ((readFrom {} q.pgStr).1 ++ evs, st') ∧ st'.last = l' ∧
      st'.depth = d' := by
  obtain ⟨c, hc, hw⟩ := hs.head
  obtain ⟨st', hr, hl, hd⟩ := hs.reads (readFrom {} q.pgStr).2.before
    (readFrom {} q.pgStr).2.candidate (readFrom {} q.pgStr).2.column
  refine ⟨st', ?_, hl, hd⟩
  rw [readFrom_append _ _ _ hc hw, ← h.last_eq, ← h.depth_eq] at *
  rw [hr]

/-- A piece with no report keeps the text reading well. -/
theorem ReadsWell.add (h : ReadsWell C q alts l d) (hs : PieceReads s l d [] l' d') :
    ReadsWell C (q.add s) alts l' d' := by
  obtain ⟨st', hr, hl, hd⟩ := readFrom_append_piece h hs
  exact ⟨by simp [hr, hl], by simp [hr, hd], by simpa [hr] using h.numbered,
    by simpa [hr] using h.bound, by simpa [hr] using h.alternatives,
    by simpa [hr] using h.placed, by simpa [hr] using h.balanced⟩

/-- A piece holding the next placeholder, on the column of the value bound to it, keeps reading
well. -/
theorem ReadsWell.addBind (h : ReadsWell C q alts l d) {col : String} {a : SqlArg}
    (hcol : (col, a) ∈ C) {n : ℕ} (hn : n = q.args.length + 1) (alt : List String)
    (hs : PieceReads s l d (alt.map .alternative ++ [.placeholder col (toString n)]) l' d') :
    ReadsWell C ((q.add s).bind a) (alts ++ alt) l' d' := by
  subst hn
  obtain ⟨st', hr, hl, hd⟩ := readFrom_append_piece h hs
  constructor <;> simp only [PgQuery.bind_pgStr, PgQuery.add_pgStr, PgQuery.bind_args,
    PgQuery.add_args, hr, List.filterMap_append, List.filterMap_map, Function.comp_def]
  · exact hl
  · exact hd
  · simp [List.range_succ, h.numbered]
  · have hn : alt.filterMap (fun _ => (none : Option (String × String))) = [] := by simp
    exact List.rel_append h.bound (by simpa [hn] using hcol)
  · simp [h.alternatives]
  · simp [h.placed]
  · simp [h.balanced]

theorem ReadsWell.addPlaceholder (h : ReadsWell C q alts l d) {col : String} {a : SqlArg}
    (hcol : (col, a) ∈ C) {n : ℕ} (hn : n = q.args.length + 1)
    (hs : PieceReads s l d [.placeholder col (toString n)] l' d') :
    ReadsWell C ((q.add s).bind a) alts l' d' := by
  simpa using h.addBind hcol hn [] hs

theorem ReadsWell.next (h : ReadsWell C q alts l d) : ReadsWell C q.next alts l d :=
  ⟨h.last_eq, h.depth_eq, h.numbered, h.bound, h.alternatives, h.placed, h.balanced⟩

/-- A text that reads well and ends a condition with every parenthesis closed is well formed. -/
theorem ReadsWell.sqlWellFormed (h : ReadsWell C q alts l 0) (hl : l.awaitsCondition = false) :
    SqlWellFormed C alts q := by
  have he : sqlEvents q.pgStr = (readFrom {} q.pgStr).1 := by
    simp [sqlEvents, closingEvents, h.last_eq, h.depth_eq, hl]
  constructor <;> rw [he]
  exacts [h.numbered, h.bound, h.alternatives, h.placed, h.balanced]

/-- A text whose reading reports only its placeholders, bound as `columns` says, reads well. -/
theorem ReadsWell.start {args : List SqlArg} {id : ℕ} (ps : List (String × String))
    (hr : (readFrom {} s).1 = ps.map fun p => .placeholder p.1 p.2)
    (hn : ps.map Prod.snd = (List.range args.length).map fun j => toString (j + 1))
    (hb : List.Forall₂ (fun p a => (p.1, a) ∈ C) ps args) :
    ReadsWell C ⟨s, args, id⟩ [] (readFrom {} s).2.last (readFrom {} s).2.depth := by
  have hp : (readFrom {} s).1.filterMap SqlEvent.placeholder? = ps := by
    simp [hr, List.filterMap_map, Function.comp_def]
  exact ⟨rfl, rfl, by rw [hp]; exact hn, by rw [hp]; exact hb,
    by simp [hr, List.filterMap_map, Function.comp_def], by simp [hr], by simp [hr]⟩

end Pieces

theorem lex_topicColumn (i : ℕ) :
    lex (" eth.log_cids.topic" ++ toString i) = [.word ("eth.log_cids.topic" ++ toString i)] := by
  obtain ⟨dg, ds, h, hd⟩ := toString_data_decimal i
  have hw : ∀ c ∈ 'e' :: ("th.log_cids.topic".data ++ (toString i).data), wordChar c := by
    intro c hc
    rcases List.mem_cons.mp hc with rfl | hc
    · rfl
    rcases List.mem_append.mp hc with hc | hc
    · exact (by decide : ∀ c ∈ "th.log_cids.topic".data, wordChar c) c hc
    · rw [h] at hc
      exact (decimalDigits_wordChar c (hd c hc)).1
  rw [lex_cons_of_sqlSpace (s := " eth.log_cids.topic" ++ toString i)
      (t := "eth.log_cids.topic" ++ toString i) rfl,
    lex_of_name (s := "eth.log_cids.topic" ++ toString i) (c := 'e') rfl rfl hw]

section AfterCondition

variable {l : TokenRole} (hl : l.awaitsCondition = false) (d n : ℕ)
include hl

theorem pieceReads_and : PieceReads " AND" l d [] .opener d := by
  refine ⟨⟨' ', rfl, rfl⟩, fun b cand col => ?_⟩
  cases l <;> first | exact ⟨_, rfl, rfl, rfl⟩ | cases hl

theorem pieceReads_logAddress :
    PieceReads (" AND eth.log_cids.address = ANY ($" ++ toString n ++ ")") l d
      [.placeholder "eth.log_cids.address" (toString n)] .other d := by
  refine ⟨⟨' ', rfl, rfl⟩, fun b cand col => ?_⟩
  rw [readFrom_numeral _ (by decide) n ")" rfl rfl, readFrom_kw _ hl]
  exacts [⟨_, rfl, rfl, rfl⟩, ⟨_, _, _, rfl⟩]

theorem pieceReads_receiptAddress :
    PieceReads (" AND (receipt_cids.tx_id = ANY ( " ++ " " ++ "SELECT rct_id FROM eth.log_cids WHERE" ++
      " eth.log_cids.address = ANY ($" ++ toString n ++ ")") l d
      [.placeholder "eth.log_cids.address" (toString n)] .other (d + 2) := by
  refine ⟨⟨' ', rfl, rfl⟩, fun b cand col => ?_⟩
  rw [readFrom_numeral _ (by decide) n ")" rfl rfl, readFrom_kw _ hl]
  exacts [⟨_, rfl, rfl, rfl⟩, ⟨_, _, _, rfl⟩]

theorem pieceReads_receiptTopics :
    PieceReads (" AND (receipt_cids.tx_id = ANY ( " ++ "SELECT rct_id FROM eth.log_cids WHERE") l d []
      .opener (d + 2) := by
  refine ⟨⟨' ', rfl, rfl⟩, fun b cand col => ?_⟩
  rw [readFrom_kw _ hl]
  exacts [⟨_, rfl, rfl, rfl⟩, ⟨_, _, _, rfl⟩]

theorem pieceReads_receiptTxIds :
    PieceReads (" AND receipt_cids.tx_id = ANY($" ++ toString n ++ ")") l d
      [.placeholder "receipt_cids.tx_id" (toString n)] .other d := by
  refine ⟨⟨' ', rfl, rfl⟩, fun b cand col => ?_⟩
  rw [readFrom_numeral _ (by decide) n ")" rfl rfl, readFrom_kw _ hl]
  exacts [⟨_, rfl, rfl, rfl⟩, ⟨_, _, _, rfl⟩]

theorem pieceReads_blockNumber :
    PieceReads (" AND header_cids.block_number = $" ++ toString n) l d
      [.placeholder "header_cids.block_number" (toString n)] .name d := by
  refine ⟨⟨' ', rfl, rfl⟩, fun b cand col => ?_⟩
  rw [readFrom_append_toString _ (by decide), readFrom_kw _ hl]
  exacts [⟨_, rfl, rfl, rfl⟩, ⟨_, _, _, rfl⟩]

theorem pieceReads_blockHash :
    PieceReads (" AND header_cids.block_hash = $" ++ toString n) l d
      [.placeholder "header_cids.block_hash" (toString n)] .name d := by
  refine ⟨⟨' ', rfl, rfl⟩, fun b cand col => ?_⟩
  rw [readFrom_append_toString _ (by decide), readFrom_kw _ hl]
  exacts [⟨_, rfl, rfl, rfl⟩, ⟨_, _, _, rfl⟩]

theorem pieceReads_gqlBlockNumber :
    PieceReads " AND receipt_cids.block_number = $2" l d
      [.placeholder "receipt_cids.block_number" (toString 2)] .name d := by
  refine ⟨⟨' ', rfl, rfl⟩, fun b cand col => ?_⟩
  rw [readFrom_kw _ hl]
  exacts [⟨_, rfl, rfl, rfl⟩, ⟨_, _, _, rfl⟩]

theorem pieceReads_orderByTxIndex : PieceReads " ORDER BY transaction_cids.index" l d [] .name d := by
  refine ⟨⟨' ', rfl, rfl⟩, fun b cand col => ?_⟩
  rw [readFrom_kw _ hl]
  exacts [⟨_, rfl, rfl, rfl⟩, ⟨_, _, _, rfl⟩]

theorem pieceReads_orderByLogIndex : PieceReads " ORDER BY log_cids.index" l d [] .name d := by
  refine ⟨⟨' ', rfl, rfl⟩, fun b cand col => ?_⟩
  rw [readFrom_kw _ hl]
  exacts [⟨_, rfl, rfl, rfl⟩, ⟨_, _, _, rfl⟩]

theorem pieceReads_dst :
    PieceReads (" AND transaction_cids.dst = ANY($" ++ toString n ++ "::VARCHAR(66)[])") l d
      [.placeholder "transaction_cids.dst" (toString n)] .other d := by
  refine ⟨⟨' ', rfl, rfl⟩, fun b cand col => ?_⟩
  rw [readFrom_numeral _ (by decide) n "::VARCHAR(66)[])" rfl rfl, readFrom_kw _ hl]
  exacts [⟨_, rfl, rfl, rfl⟩, ⟨_, _, _, rfl⟩]

theorem pieceReads_src :
    PieceReads (" AND transaction_cids.src = ANY($" ++ toString n ++ "::VARCHAR(66)[])") l d
      [.placeholder "transaction_cids.src" (toString n)] .other d := by
  refine ⟨⟨' ', rfl, rfl⟩, fun b cand col => ?_⟩
  rw [readFrom_numeral _ (by decide) n "::VARCHAR(66)[])" rfl rfl, readFrom_kw _ hl]
  exacts [⟨_, rfl, rfl, rfl⟩, ⟨_, _, _, rfl⟩]

theorem pieceReads_stateLeafKey :
    PieceReads " AND state_cids.state_leaf_key = ANY($2::VARCHAR(66)[])" l d
      [.placeholder "state_cids.state_leaf_key" (toString 2)] .other d := by
  refine ⟨⟨' ', rfl, rfl⟩, fun b cand col => ?_⟩
  rw [readFrom_kw _ hl]
  exacts [⟨_, rfl, rfl, rfl⟩, ⟨_, _, _, rfl⟩]

theorem pieceReads_stateNodeType : PieceReads " AND state_cids.node_type = 2" l d [] .name d := by
  refine ⟨⟨' ', rfl, rfl⟩, fun b cand col => ?_⟩
  rw [readFrom_kw _ hl]
  exacts [⟨_, rfl, rfl, rfl⟩, ⟨_, _, _, rfl⟩]

theorem pieceReads_storageStateLeafKey :
    PieceReads (" AND state_cids.state_leaf_key = ANY($" ++ toString n ++ "::VARCHAR(66)[])") l d
      [.placeholder "state_cids.state_leaf_key" (toString n)] .other d := by
  refine ⟨⟨' ', rfl, rfl⟩, fun b cand col => ?_⟩
  rw [readFrom_numeral _ (by decide) n "::VARCHAR(66)[])" rfl rfl, readFrom_kw _ hl]
  exacts [⟨_, rfl, rfl, rfl⟩, ⟨_, _, _, rfl⟩]

theorem pieceReads_storageLeafKey :
    PieceReads (" AND storage_cids.storage_leaf_key = ANY($" ++ toString n ++ "::VARCHAR(66)[])") l d
      [.placeholder "storage_cids.storage_leaf_key" (toString n)] .other d := by
  refine ⟨⟨' ', rfl, rfl⟩, fun b cand col => ?_⟩
  rw [readFrom_numeral _ (by decide) n "::VARCHAR(66)[])" rfl rfl, readFrom_kw _ hl]
  exacts [⟨_, rfl, rfl, rfl⟩, ⟨_, _, _, rfl⟩]

theorem pieceReads_storageNodeType : PieceReads " AND storage_cids.node_type = 2" l d [] .name d := by
  refine ⟨⟨' ', rfl, rfl⟩, fun b cand col => ?_⟩
  rw [readFrom_kw _ hl]
  exacts [⟨_, rfl, rfl, rfl⟩, ⟨_, _, _, rfl⟩]

theorem pieceReads_close : PieceReads ")" l (d + 1) [] .other d := by
  refine ⟨⟨')', rfl, rfl⟩, fun b cand col => ?_⟩
  cases l <;> first | exact ⟨_, rfl, rfl, rfl⟩ | cases hl

theorem pieceReads_matchTxs :
    PieceReads (" OR receipt_cids.tx_id = ANY($" ++ toString n ++ ")") l d
      (["receipt_cids.tx_id"].map .alternative ++ [.placeholder "receipt_cids.tx_id" (toString n)])
      .other d := by
  refine ⟨⟨' ', rfl, rfl⟩, fun b cand col => ?_⟩
  rw [readFrom_numeral _ (by decide) n ")" rfl rfl, readFrom_kw _ hl]
  exacts [⟨_, rfl, rfl, rfl⟩, ⟨_, _, _, rfl⟩]

end AfterCondition

theorem pieceReads_topic (d n i : ℕ) :
    PieceReads (" eth.log_cids.topic" ++ toString i ++ " = ANY ($" ++ toString n ++ ")") .opener d
      [.placeholder ("eth.log_cids.topic" ++ toString i) (toString n)] .other d := by
  have hpre : (lexRun [] (" eth.log_cids.topic" ++ toString i ++ " = ANY ($").data).2 = [] := by
    rw [String.data_append, lexRun_append]
    rfl
  refine ⟨⟨' ', rfl, rfl⟩, fun b cand col => ?_⟩
  rw [readFrom_numeral _ hpre n ")" rfl rfl, readFrom_append _ _ " = ANY ($" rfl rfl, readFrom,
    lex_topicColumn]
  exact ⟨_, rfl, rfl, rfl⟩

section Helpers

variable {C : List (String × SqlArg)}

/-- The topic loop keeps the text reading well, binding each non-empty set to its position's column.
-/
theorem topicFilterConditionFrom_readsWell : ∀ (topics : List (List String)) (i : ℕ) (q : PgQuery)
    (first : Bool) {alts : List String} {l : TokenRole} {d : ℕ},
    ReadsWell C q alts l d → q.id = q.args.length + 1 →
    (if first then l = .opener else l.awaitsCondition = false) →
    (∀ p ∈ topics.enumFrom i, ("eth.log_cids.topic" ++ toString p.1, SqlArg.array p.2) ∈ C) →
    ReadsWell C (topicFilterConditionFrom i topics q first) alts
        (if hasTopics topics then .other else l) d ∧
      (topicFilterConditionFrom i topics q first).id =
        (topicFilterConditionFrom i topics q first).args.length + 1
  | [], _, _, _, _, _, _, h, hid, _, _ => ⟨h, hid⟩
  | t :: ts, i, q, first, alts, l, d, h, hid, hfirst, hcols => by
    simp only [List.enumFrom_cons, List.mem_cons, forall_eq_or_imp] at hcols
    by_cases ht : t.isEmpty
    · have hts : hasTopics (t :: ts) = hasTopics ts := by simp [hasTopics, ht]
      simpa only [topicFilterConditionFrom, ht, if_true, hts] using
        topicFilterConditionFrom_readsWell ts (i + 1) q first h hid hfirst hcols.2
    · obtain ⟨q₁, hq₁, h₁, hid₁⟩ : ∃ q₁, (if !first then q.add " AND" else q) = q₁ ∧
          ReadsWell C q₁ alts .opener d ∧ q₁.id = q₁.args.length + 1 := by
        cases first
        · exact ⟨_, rfl, h.add (pieceReads_and hfirst d), hid⟩
        · obtain rfl : l = .opener := hfirst
          exact ⟨_, rfl, h, hid⟩
      have h₂ := h₁.addPlaceholder hcols.1 hid₁ (pieceReads_topic d q₁.id i)
      have ih := topicFilterConditionFrom_readsWell ts (i + 1) _ false h₂.next (by simp [hid₁]) rfl
        hcols.2
      have hts : hasTopics (t :: ts) = true := by simp [hasTopics, ht]
      simp only [topicFilterConditionFrom, ht, Bool.false_eq_true, if_false, hq₁, hts, if_true]
      simpa only [ite_self] using ih

/-- A text read up to the end of a condition, with `d` parentheses open. -/
def EndsCondition (C : List (String × SqlArg)) (q : PgQuery) (alts : List String) (d : ℕ) : Prop :=
  ∃ l, l.awaitsCondition = false ∧ ReadsWell C q alts l d

/-- Read up to the end of a condition, the counter one past the arguments: where a condition may
follow. -/
def BetweenConditions (C : List (String × SqlArg)) (q : PgQuery) (alts : List String) (d : ℕ) :
    Prop :=
  EndsCondition C q alts d ∧ q.id = q.args.length + 1

section Steps

variable {q : PgQuery} {alts : List String} {d d' : ℕ} {s : String} {l' : TokenRole}

theorem EndsCondition.add (h : EndsCondition C q alts d)
    (hs : ∀ l : TokenRole, l.awaitsCondition = false → PieceReads s l d [] l' d')
    (hl' : l'.awaitsCondition = false) : EndsCondition C (q.add s) alts d' :=
  let ⟨l, hl, hr⟩ := h
  ⟨l', hl', hr.add (hs l hl)⟩

theorem BetweenConditions.add (h : BetweenConditions C q alts d)
    (hs : ∀ l : TokenRole, l.awaitsCondition = false → PieceReads s l d [] l' d')
    (hl' : l'.awaitsCondition = false) : BetweenConditions C (q.add s) alts d' :=
  ⟨h.1.add hs hl', h.2⟩

/-- A text that reads as its placeholders and ends a condition with every parenthesis closed. -/
theorem EndsCondition.start {args : List SqlArg} {id : ℕ} (ps : List (String × String))
    (hr : ∃ st : ScanState, readFrom {} s = (ps.map fun p => .placeholder p.1 p.2, st) ∧
      st.last.awaitsCondition = false ∧ st.depth = 0)
    (hn : ps.map Prod.snd = (List.range args.length).map fun j => toString (j + 1))
    (hb : List.Forall₂ (fun p a => (p.1, a) ∈ C) ps args) : EndsCondition C ⟨s, args, id⟩ [] 0 := by
  obtain ⟨st, hst, hl, hd⟩ := hr
  have h : ReadsWell C ⟨s, args, id⟩ [] _ _ := ReadsWell.start ps (by rw [hst]) hn hb
  rw [hst, hd] at h
  exact ⟨_, hl, h⟩

/-- A condition holding the placeholder `$n`, one past the arguments, on its value's column. -/
theorem EndsCondition.clause (h : EndsCondition C q alts d) {col : String} {a : SqlArg}
    (hcol : (col, a) ∈ C) {n : ℕ} (hn : n = q.args.length + 1) (alt : List String)
    (hs : ∀ l : TokenRole, l.awaitsCondition = false →
      PieceReads s l d (alt.map .alternative ++ [.placeholder col (toString n)]) l' d')
    (hl' : l'.awaitsCondition = false) : EndsCondition C ((q.add s).bind a) (alts ++ alt) d' :=
  let ⟨l, hl, hr⟩ := h
  ⟨l', hl', hr.addBind hcol hn alt (hs l hl)⟩

theorem EndsCondition.optional (h : EndsCondition C q alts d) (c : Prop) [Decidable c]
    {col : String} {a : SqlArg} (hcol : (col, a) ∈ C) {n : ℕ} (hn : n = q.args.length + 1)
    (hs : ∀ l : TokenRole, l.awaitsCondition = false →
      PieceReads s l d [.placeholder col (toString n)] l' d)
    (hl' : l'.awaitsCondition = false) :
    EndsCondition C (if c then (q.add s).bind a else q) alts d := by
  split
  exacts [by simpa using h.clause hcol hn [] hs hl', h]

theorem EndsCondition.addIf (h : EndsCondition C q alts d) (c : Prop) [Decidable c]
    (hs : ∀ l : TokenRole, l.awaitsCondition = false → PieceReads s l d [] l' d)
    (hl' : l'.awaitsCondition = false) : EndsCondition C (if c then q.add s else q) alts d := by
  split
  exacts [h.add hs hl', h]

/-- A condition holding the next placeholder, on a column paired with the value bound to it. -/
theorem BetweenConditions.clause (h : BetweenConditions C q alts d) {col : String} {a : SqlArg}
    (hcol : (col, a) ∈ C) (alt : List String)
    (hs : ∀ l : TokenRole, l.awaitsCondition = false →
      PieceReads s l d (alt.map .alternative ++ [.placeholder col (toString q.id)]) l' d')
    (hl' : l'.awaitsCondition = false) : EndsCondition C ((q.add s).bind a) (alts ++ alt) d' :=
  h.1.clause hcol h.2 alt hs hl'

theorem BetweenConditions.clauseNext (h : BetweenConditions C q alts d) {col : String}
    {a : SqlArg} (hcol : (col, a) ∈ C)
    (hs : ∀ l : TokenRole, l.awaitsCondition = false →
      PieceReads s l d [.placeholder col (toString q.id)] l' d')
    (hl' : l'.awaitsCondition = false) : BetweenConditions C ((q.add s).bind a).next alts d' :=
  let ⟨l, hl, hr⟩ := h.clause hcol [] hs hl'
  ⟨⟨l, hl, by simpa using hr.next⟩, by simp [h.2]⟩

theorem BetweenConditions.optional (h : BetweenConditions C q alts d) (c : Prop) [Decidable c]
    {col : String} {a : SqlArg} (hcol : (col, a) ∈ C)
    (hs : ∀ l : TokenRole, l.awaitsCondition = false →
      PieceReads s l d [.placeholder col (toString q.id)] l' d)
    (hl' : l'.awaitsCondition = false) :
    BetweenConditions C (if c then ((q.add s).bind a).next else q) alts d := by
  split
  exacts [h.clauseNext hcol hs hl', h]

/-- The topic loop after a condition, when some position has a set, keeps a text between conditions.
-/
theorem BetweenConditions.topics (h : BetweenConditions C q alts d) (topics : List (List String))
    (hcols : ∀ p ∈ topics.enumFrom 0, ("eth.log_cids.topic" ++ toString p.1, SqlArg.array p.2) ∈ C) :
    BetweenConditions C (if hasTopics topics then topicFilterConditionFrom 0 topics q false else q)
      alts d := by
  split
  · next hT =>
    obtain ⟨⟨l, hl, hr⟩, hid⟩ := h
    obtain ⟨hr', hid'⟩ := topicFilterConditionFrom_readsWell topics 0 q false hr hid hl hcols
    exact ⟨⟨.other, rfl, by simpa [hT] using hr'⟩, hid'⟩
  · exact h

theorem EndsCondition.sqlWellFormed (h : EndsCondition C q alts 0) : SqlWellFormed C alts q :=
  let ⟨_, hl, hr⟩ := h
  hr.sqlWellFormed hl

end Steps

theorem topicColumns_mem_logColumns (rctFilter : ReceiptFilter) :
    ∀ p ∈ rctFilter.topics.enumFrom 0,
      ("eth.log_cids.topic" ++ toString p.1, SqlArg.array p.2) ∈ logColumns rctFilter :=
  fun _ hp => List.mem_cons_of_mem _ (List.mem_map_of_mem _ hp)

/-- The log conditions keep a text between conditions. -/
theorem logFilterCondition_between {q : PgQuery} {alts : List String} {d : ℕ}
    {rctFilter : ReceiptFilter} (h : BetweenConditions C q alts d)
    (hC : ∀ p ∈ logColumns rctFilter, p ∈ C) :
    BetweenConditions C (logFilterCondition q rctFilter) alts d :=
  (h.optional _ (hC _ (List.mem_cons_self _ _)) (fun _ hl => pieceReads_logAddress hl d q.id)
    rfl).topics rctFilter.topics fun p hp => hC _ (topicColumns_mem_logColumns rctFilter p hp)

/-- The alternative on transaction hashes, after a condition. -/
theorem matchTxsCondition_ends {q : PgQuery} {alts : List String} {d : ℕ}
    {rctFilter : ReceiptFilter} {txHashes : List String} (h : BetweenConditions C q alts d)
    (htx : ("receipt_cids.tx_id", SqlArg.array txHashes) ∈ C) :
    EndsCondition C (matchTxsCondition q rctFilter txHashes)
      (alts ++ if rctFilter.matchTxs && !txHashes.isEmpty then ["receipt_cids.tx_id"] else []) d := by
  unfold matchTxsCondition
  split_ifs
  · exact h.clause htx _ (fun _ hl => pieceReads_matchTxs hl d q.id) rfl
  · simpa using h.1

/-- The receipt conditions keep the text reading well and end it after a condition. -/
theorem receiptFilterConditions_ends {q : PgQuery} {d : ℕ} {rctFilter : ReceiptFilter}
    {txHashes : List String} (h : BetweenConditions C q [] d)
    (hC : ∀ p ∈ logColumns rctFilter, p ∈ C)
    (htx : ("receipt_cids.tx_id", SqlArg.array txHashes) ∈ C) :
    EndsCondition C (receiptFilterConditions q rctFilter txHashes)
      (receiptAlternatives rctFilter txHashes) d := by
  have htopics := fun p hp => hC _ (topicColumns_mem_logColumns rctFilter p hp)
  have tail : ∀ q' : PgQuery, BetweenConditions C q' [] (d + 2) →
      EndsCondition C ((matchTxsCondition (q'.add ")") rctFilter txHashes).add ")")
        (if rctFilter.matchTxs && !txHashes.isEmpty then ["receipt_cids.tx_id"] else []) d :=
    fun q' h' => by
      simpa using (matchTxsCondition_ends (h'.add (fun _ hl => pieceReads_close hl (d + 1)) rfl)
        htx).add (fun _ hl => pieceReads_close hl d) rfl
  simp only [receiptFilterConditions, topicFilterCondition, receiptAlternatives]
  split
  · next hA =>
    have h₁ := h.clauseNext (hC _ (List.mem_cons_self _ _))
      (fun _ hl => pieceReads_receiptAddress hl d q.id) rfl
    simpa [hA] using tail _ (h₁.topics rctFilter.topics htopics)
  · next hA =>
    split
    · next hT =>
      obtain ⟨⟨l, hl, hr⟩, hid⟩ := h
      obtain ⟨h₂, hid₂⟩ := topicFilterConditionFrom_readsWell rctFilter.topics 0 _ true
        (hr.add (pieceReads_receiptTopics hl d)) hid rfl htopics
      simpa [hA, hT] using tail _ ⟨⟨.other, rfl, by simpa [hT] using h₂⟩, hid₂⟩
    · next hT =>
      split
      · simpa [hA, hT] using h.clause htx [] (fun _ hl => pieceReads_receiptTxIds hl d q.id) rfl
      · simpa [hA, hT] using h.1

end Helpers

section Builders

/-- `RetrieveTxCIDs` numbers its placeholders in order and binds each to its column's value. -/
theorem retrieveTxCIDsQuery_sqlWellFormed (txFilter : TxFilter) (headerID : String) :
    SqlWellFormed (txColumns txFilter headerID) [] (retrieveTxCIDsQuery txFilter headerID) := by
  have h₀ : BetweenConditions (txColumns txFilter headerID)
      ⟨retrieveTxCIDsSelect ++ toString 1, [.text headerID], 2⟩ [] 0 :=
    ⟨.start [("header_cids.block_hash", "1")] ⟨_, rfl, rfl, rfl⟩ rfl
      (.cons (.head _) .nil), rfl⟩
  have h₁ := h₀.optional (!txFilter.dst.isEmpty) (.tail _ (.head _))
    (fun _ hl => pieceReads_dst hl 0 _) rfl
  have h₂ := h₁.1.optional (!txFilter.src.isEmpty) (.tail _ (.tail _ (.head _))) h₁.2
    (fun _ hl => pieceReads_src hl 0 _) rfl
  exact (h₂.add (fun _ hl => pieceReads_orderByTxIndex hl 0) rfl).sqlWellFormed

/-- `RetrieveRctCIDs` reads well; what it joins by `OR` is the comparison on transaction hashes. -/
theorem retrieveRctCIDsQuery_sqlWellFormed (rctFilter : ReceiptFilter) (blockNumber : ℤ)
    (blockHash : String) (txHashes : List String) :
    SqlWellFormed (rctColumns rctFilter blockNumber blockHash txHashes)
      (receiptAlternatives rctFilter txHashes)
      (retrieveRctCIDsQuery rctFilter blockNumber blockHash txHashes) := by
  have h₀ : BetweenConditions (rctColumns rctFilter blockNumber blockHash txHashes)
      ⟨retrieveRctCIDsSelect, [], 1⟩ [] 0 :=
    ⟨.start [] ⟨_, rfl, rfl, rfl⟩ rfl .nil, rfl⟩
  have h₁ := h₀.optional (blockNumber > 0) (.head _) (fun _ hl => pieceReads_blockNumber hl 0 _) rfl
  have h₂ := h₁.optional (blockHash ≠ "") (.tail _ (.head _))
    (fun _ hl => pieceReads_blockHash hl 0 _) rfl
  have h₃ := receiptFilterConditions_ends h₂ (fun _ hp => .tail _ (.tail _ (.tail _ hp)))
    (.tail _ (.tail _ (.head _)))
  exact (h₃.add (fun _ hl => pieceReads_orderByTxIndex hl 0) rfl).sqlWellFormed

set_option maxRecDepth 2000 in
theorem retrieveFilteredLogQuery_sqlWellFormed (rctFilter : ReceiptFilter) (blockNumber : ℤ)
    (blockHash : Option String) :
    SqlWellFormed (filteredLogColumns rctFilter blockNumber blockHash) []
      (retrieveFilteredLogQuery rctFilter blockNumber blockHash) := by
  have tail : ∀ q, BetweenConditions (filteredLogColumns rctFilter blockNumber blockHash) q [] 0 →
      SqlWellFormed (filteredLogColumns rctFilter blockNumber blockHash) []
        ((logFilterCondition q rctFilter).add " ORDER BY log_cids.index") := fun q h =>
    ((logFilterCondition_between h fun p hp => by simp [filteredLogColumns, hp]).1.add
      (fun _ hl => pieceReads_orderByLogIndex hl 0) rfl).sqlWellFormed
  have h₀ : BetweenConditions (filteredLogColumns rctFilter blockNumber blockHash)
      ⟨retrieveFilteredLogSelect, [], 1⟩ [] 0 :=
    ⟨.start [] ⟨_, rfl, rfl, rfl⟩ rfl .nil, rfl⟩
  have h₁ := h₀.optional (blockNumber > 0) (.head _) (fun _ hl => pieceReads_blockNumber hl 0 _) rfl
  cases blockHash with
  | none => exact tail _ h₁
  | some h =>
    exact tail _ (h₁.clauseNext (.tail _ (.head _)) (fun _ hl => pieceReads_blockHash hl 0 _) rfl)

set_option maxRecDepth 2000 in
theorem retrieveFilteredGQLLogsQuery_sqlWellFormed (rctFilter : ReceiptFilter) (blockHash : String)
    (blockNumber : Option ℤ) :
    SqlWellFormed (gqlLogColumns rctFilter blockHash blockNumber) []
      (retrieveFilteredGQLLogsQuery rctFilter blockHash blockNumber) := by
  have tail : ∀ q, BetweenConditions (gqlLogColumns rctFilter blockHash blockNumber) q [] 0 →
      SqlWellFormed (gqlLogColumns rctFilter blockHash blockNumber) []
        ((logFilterCondition q rctFilter).add " ORDER BY log_cids.index") := fun q h =>
    ((logFilterCondition_between h fun p hp => by simp [gqlLogColumns, hp]).1.add
      (fun _ hl => pieceReads_orderByLogIndex hl 0) rfl).sqlWellFormed
  have h₀ : BetweenConditions (gqlLogColumns rctFilter blockHash blockNumber)
      ⟨retrieveFilteredGQLLogsSelect, [.text blockHash], 2⟩ [] 0 :=
    ⟨.start [("receipt_cids.header_id", "1")] ⟨_, rfl, rfl, rfl⟩ rfl
      (.cons (.head _) .nil), rfl⟩
  cases blockNumber with
  | none => exact tail _ h₀
  | some n =>
    exact tail _ (h₀.clauseNext (.tail _ (.head _)) (fun _ hl => pieceReads_gqlBlockNumber hl 0) rfl)

theorem retrieveStateCIDsQuery_sqlWellFormed (keccak256Hex : String → String)
    (stateFilter : StateFilter) (headerID : String) :
    SqlWellFormed (stateColumns keccak256Hex stateFilter headerID) []
      (retrieveStateCIDsQuery keccak256Hex stateFilter headerID) := by
  have h₀ : EndsCondition (stateColumns keccak256Hex stateFilter headerID)
      ⟨retrieveStateCIDsSelect, [.text headerID], 1⟩ [] 0 :=
    .start [("header_cids.block_hash", "1")] ⟨_, rfl, rfl, rfl⟩ rfl
      (.cons (.head _) .nil)
  have h₁ := h₀.optional (!stateFilter.addresses.isEmpty) (.tail _ (.head _)) (n := 2) rfl
    (fun _ hl => pieceReads_stateLeafKey hl 0) rfl
  exact (h₁.addIf (!stateFilter.intermediateNodes) (fun _ hl => pieceReads_stateNodeType hl 0)
    rfl).sqlWellFormed

theorem retrieveStorageCIDsQuery_sqlWellFormed (keccak256Hex : String → String)
    (storageFilter : StorageFilter) (headerID : String) :
    SqlWellFormed (storageColumns keccak256Hex storageFilter headerID) []
      (retrieveStorageCIDsQuery keccak256Hex storageFilter headerID) := by
  have h₀ : BetweenConditions (storageColumns keccak256Hex storageFilter headerID)
      ⟨retrieveStorageCIDsSelect, [.text headerID], 2⟩ [] 0 :=
    ⟨.start [("header_cids.block_hash", "1")] ⟨_, rfl, rfl, rfl⟩ rfl
      (.cons (.head _) .nil), rfl⟩
  have h₁ := h₀.optional (!storageFilter.addresses.isEmpty) (.tail _ (.head _))
    (fun _ hl => pieceReads_storageStateLeafKey hl 0 _) rfl
  have h₂ := h₁.1.optional (!storageFilter.storageKeys.isEmpty) (.tail _ (.tail _ (.head _))) h₁.2
    (fun _ hl => pieceReads_storageLeafKey hl 0 _) rfl
  exact (h₂.addIf (!storageFilter.intermediateNodes) (fun _ hl => pieceReads_storageNodeType hl 0)
    rfl).sqlWellFormed

end Builders

/-- Each builder of `cid_retriever.go` writes a query that reads well. -/
theorem sql_text_numbered_bound_and_joined :
    (∀ (txFilter : TxFilter) (headerID : String),
      SqlWellFormed (txColumns txFilter headerID) [] (retrieveTxCIDsQuery txFilter headerID)) ∧
    (∀ (rctFilter : ReceiptFilter) (blockNumber : ℤ) (blockHash : String) (txHashes : List String),
      SqlWellFormed (rctColumns rctFilter blockNumber blockHash txHashes)
        (receiptAlternatives rctFilter txHashes)
        (retrieveRctCIDsQuery rctFilter blockNumber blockHash txHashes)) ∧
    (∀ (rctFilter : ReceiptFilter) (blockNumber : ℤ) (blockHash : Option String),
      SqlWellFormed (filteredLogColumns rctFilter blockNumber blockHash) []
        (retrieveFilteredLogQuery rctFilter blockNumber blockHash)) ∧
    (∀ (rctFilter : ReceiptFilter) (blockHash : String) (blockNumber : Option ℤ),
      SqlWellFormed (gqlLogColumns rctFilter blockHash blockNumber) []
        (retrieveFilteredGQLLogsQuery rctFilter blockHash blockNumber)) ∧
    (∀ (keccak256Hex : String → String) (stateFilter : StateFilter) (headerID : String),
      SqlWellFormed (stateColumns keccak256Hex stateFilter headerID) []
        (retrieveStateCIDsQuery keccak256Hex stateFilter headerID)) ∧
    ∀ (keccak256Hex : String → String) (storageFilter : StorageFilter) (headerID : String),
      SqlWellFormed (storageColumns keccak256Hex storageFilter headerID) []
        (retrieveStorageCIDsQuery keccak256Hex storageFilter headerID) :=
  ⟨retrieveTxCIDsQuery_sqlWellFormed, retrieveRctCIDsQuery_sqlWellFormed,
    retrieveFilteredLogQuery_sqlWellFormed, retrieveFilteredGQLLogsQuery_sqlWellFormed,
    retrieveStateCIDsQuery_sqlWellFormed, retrieveStorageCIDsQuery_sqlWellFormed⟩

set_option maxRecDepth 2000 in
/-- With an address, `MatchTxs` and a hash, `RetrieveRctCIDs` joins the hashes to the logs by `OR`.
-/
theorem rct_cids_joins_tx_hashes_by_or :
    (retrieveRctCIDsQuery { logAddresses := ["0xa"], matchTxs := true } 0 "" ["0xt"]).pgStr =
        retrieveRctCIDsSelect ++ " AND (receipt_cids.tx_id = ANY (  SELECT rct_id FROM " ++
          "eth.log_cids WHERE eth.log_cids.address = ANY ($1)) OR receipt_cids.tx_id = ANY($2)) " ++
          "ORDER BY transaction_cids.index" ∧
      (sqlEvents (retrieveRctCIDsQuery { logAddresses := ["0xa"], matchTxs := true } 0 ""
        ["0xt"]).pgStr).filterMap SqlEvent.alternative? = ["receipt_cids.tx_id"] :=
  ⟨rfl, (retrieveRctCIDsQuery_sqlWellFormed _ _ _ _).alternatives.trans (by decide)⟩

end IpldEthServer

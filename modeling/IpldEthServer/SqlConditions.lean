import IpldEthServer.SqlMeaning
import IpldEthServer.SqlReading

namespace IpldEthServer

theorem not_dot_toString (i : ℕ) : '.' ∉ (toString i).data := by
  obtain ⟨d, ds, h, hd⟩ := toString_data_decimal i
  rw [h]
  exact fun hm => absurd (hd _ hm) (by decide)

theorem splitRef_topic (i : ℕ) :
    splitRef ("eth.log_cids.topic" ++ toString i) = ("eth.log_cids", "topic" ++ toString i) := by
  rw [splitRef_append_of_not_dot _ _ (not_dot_toString i)]
  rfl

/-- `eth.log_cids` has the columns `topic0` to `topic3` and no other `topic%d`. -/
theorem topic_mem_logTableColumns {i : ℕ} : "topic" ++ toString i ∈ logTableColumns ↔ i < 4 := by
  constructor
  · intro h
    have key : ∀ c ∈ logTableColumns, c.data.take 5 = "topic".data →
        decimalValue (c.data.drop 5) < 4 := by decide
    simpa [String.data_append] using key _ h (by simp [String.data_append])
  · intro h
    interval_cases i <;> decide

theorem LogCid.value_topic (l : LogCid) {i : ℕ} (hi : i < 4) :
    l.value ("topic" ++ toString i) = .ofOption (l.topic i) := by
  interval_cases i <;> rfl

theorem LogCid.topic_of_le (l : LogCid) {i : ℕ} (hi : 4 ≤ i) : l.topic i = none := by
  obtain ⟨k, rfl⟩ := Nat.exists_eq_add_of_le' hi
  rfl

/-- The first position from `i` past `topic3` with a set: where the loop names a missing column. -/
def topicColumnFrom : ℕ → List (List String) → Option ℕ
  | _, [] => none
  | i, set :: topics => if !set.isEmpty && 4 ≤ i then some i else topicColumnFrom (i + 1) topics

theorem topicColumnFrom_of_lt {i : ℕ} (hi : i < 4) (set : List String)
    (topics : List (List String)) :
    topicColumnFrom i (set :: topics) = topicColumnFrom (i + 1) topics := by
  simp [topicColumnFrom, Nat.not_le.2 hi]

theorem topicColumnFrom_four_add (topics : List (List String)) (j : ℕ) :
    topicColumnFrom (4 + j) topics =
      let k := topics.findIdx fun set => !set.isEmpty
      if k < topics.length then some (4 + j + k) else none := by
  induction topics generalizing j with
  | nil => rfl
  | cons set topics ih =>
    cases h : set.isEmpty
    · simp [topicColumnFrom, h, List.findIdx_cons]
    · simp only [topicColumnFrom, h, Bool.not_true, Bool.false_and, Bool.false_eq_true, if_false,
        show 4 + j + 1 = 4 + (j + 1) by omega, ih, List.findIdx_cons, List.length_cons, cond_false]
      split <;> split <;> first | rfl | omega | (congr 1; omega)

theorem topicColumnFrom_of_not_hasTopics {topics : List (List String)}
    (h : hasTopics topics = false) (i : ℕ) : topicColumnFrom i topics = none := by
  induction topics generalizing i with
  | nil => rfl
  | cons set topics ih =>
    simp only [hasTopics, List.any_cons, Bool.or_eq_false_iff, Bool.not_eq_false'] at h
    simp [topicColumnFrom, h.1, ih h.2]

theorem topicColumnFrom_zero (topics : List (List String)) :
    topicColumnFrom 0 topics = undefinedTopicColumn topics := by
  match topics with
  | [] | [_] | [_, _] | [_, _, _] => simp [topicColumnFrom, undefinedTopicColumn]
  | a :: b :: c :: d :: rest =>
    rw [topicColumnFrom_of_lt (by decide), topicColumnFrom_of_lt (by decide),
      topicColumnFrom_of_lt (by decide), topicColumnFrom_of_lt (by decide),
      show 0 + 1 + 1 + 1 + 1 = 4 + 0 from rfl, topicColumnFrom_four_add]
    rfl

/-- The arguments the topic loop binds: one array per non-empty set, in order. -/
theorem topicFilterConditionFrom_args (i : ℕ) (topics : List (List String)) (q : PgQuery)
    (first : Bool) :
    (topicFilterConditionFrom i topics q first).args =
      q.args ++ (topics.filter fun set => !set.isEmpty).map SqlArg.array := by
  induction topics generalizing i q first with
  | nil => simp [topicFilterConditionFrom]
  | cons set topics ih =>
    rw [topicFilterConditionFrom]
    cases hs : set.isEmpty with
    | true => simp [ih, hs]
    | false =>
      rw [if_neg (by simp [hs]), ih]
      split <;> simp [hs]

section LogConditions

variable {α : Type} {db : IndexDb} {D : SqlDb} {ls : List (List SqlTable)} {σ : α → Scope}
  {logOf : α → LogCid}

/-- Scopes whose first row is a log row of `db`, no other table answering to `eth.log_cids`. -/
structure LogScope (db : IndexDb) (ls : List (List SqlTable)) (σ : α → Scope) (logOf : α → LogCid) :
    Prop where
  tables : ∃ rts ls', ls = (db.logTable :: rts) :: ls' ∧ ∀ t ∈ rts, t.answers "eth.log_cids" = false
  scope : ∀ a, ∃ rest, σ a = (db.logTable, (logOf a).value) :: rest ∧
    ∀ e ∈ rest, e.1.answers "eth.log_cids" = false

theorem LogScope.resolve_eq (h : LogScope db ls σ logOf) {ref : String}
    (hq : (splitRef ref).1 = "eth.log_cids") (a : α) :
    resolve (σ a) ref = if (splitRef ref).2 ∈ logTableColumns
      then some ((logOf a).value (splitRef ref).2) else none := by
  obtain ⟨rest, hσ, hrest⟩ := h.scope a
  have hans : db.logTable.answers (splitRef ref).1 = true := by rw [hq]; rfl
  rw [hσ, resolve_cons, SqlTable.names, hans, Bool.true_and]
  by_cases hm : (splitRef ref).2 ∈ logTableColumns
  · rw [if_pos (by simpa [IndexDb.logTable] using hm), if_pos hm]
  · rw [if_neg (by simpa [IndexDb.logTable] using hm), if_neg hm]
    exact resolve_of_not_answers (hq ▸ hrest)

/-- A name of the log table binds to it, and is an undefined column unless the table has it. -/
theorem LogScope.refError_eq (h : LogScope db ls σ logOf) {ref : String}
    (hq : (splitRef ref).1 = "eth.log_cids") :
    refError ls ref =
      if (splitRef ref).2 ∈ logTableColumns then none else some (.undefinedColumn ref) := by
  obtain ⟨rts, ls', rfl, hrts⟩ := h.tables
  have hf : (db.logTable :: rts).filter (·.answers (splitRef ref).1) = [db.logTable] := by
    rw [hq, List.filter_cons_of_pos rfl, List.filter_eq_nil_iff.2 fun t ht => by simp [hrts t ht]]
  rw [refError_of_answers ls' (by rw [hq]; decide) hf]
  simp [IndexDb.logTable]

theorem LogScope.address_means (h : LogScope db ls σ logOf) {n : String} {args : List SqlArg}
    {set : List String} (hn : decimalValue n.data = args.length + 1) :
    CondMeans D ls σ (args ++ [.array set]) (.eqAny "eth.log_cids.address" n) none
      fun a => set.contains (logOf a).address :=
  have hq : (splitRef "eth.log_cids.address").1 = "eth.log_cids" := rfl
  CondMeans.eqAny (fun a => by rw [h.resolve_eq hq, if_pos (by decide)]; rfl)
    (by rw [h.refError_eq hq, if_pos (by decide)]) hn

/-- `eth.log_cids.topic%d = ANY ($n)`: the topic is in the set; past `topic3` a missing column. -/
theorem LogScope.topic_means (h : LogScope db ls σ logOf) (i : ℕ) {n : String}
    {args : List SqlArg} {set : List String} (hn : decimalValue n.data = args.length + 1) :
    CondMeans D ls σ (args ++ [.array set]) (.eqAny ("eth.log_cids.topic" ++ toString i) n)
      (if i < 4 then none else some (topicColumnError i))
      fun a => anyOf ((logOf a).topic i) set := by
  have hq : (splitRef ("eth.log_cids.topic" ++ toString i)).1 = "eth.log_cids" := by
    rw [splitRef_topic]
  by_cases hi : i < 4
  · rw [if_pos hi]
    refine CondMeans.eqAnyNullable (fun a => ?_) ?_ hn
    · rw [h.resolve_eq hq, splitRef_topic, if_pos (topic_mem_logTableColumns.2 hi),
        LogCid.value_topic _ hi]
    · rw [h.refError_eq hq, splitRef_topic, if_pos (topic_mem_logTableColumns.2 hi)]
  · rw [if_neg hi]
    refine ⟨?_, fun _ => rfl, fun a more => ?_⟩
    · simp [SqlCond.unresolved, h.refError_eq hq, splitRef_topic, topic_mem_logTableColumns, hi,
        topicColumnError]
    · rw [SqlCond.eval, h.resolve_eq hq, splitRef_topic,
        if_neg (mt topic_mem_logTableColumns.1 hi), LogCid.topic_of_le _ (by omega)]
      rfl

/-- The comparison `topicFilterCondition` appends at position `i`, after a connective. -/
theorem parseRun_topicPiece (names : List String) (fs : List Frame) (x : Option SqlCond)
    (i k : ℕ) :
    parseRun (.cond names false ⟨none, x, .start, fs⟩)
        (lex (" eth.log_cids.topic" ++ toString i ++ " = ANY ($" ++ toString k ++ ")")) =
      condReading names fs
        (some (SqlCond.andOpt x (.eqAny ("eth.log_cids.topic" ++ toString i) (toString k)))) := by
  have hpre : (lexRun [] (" eth.log_cids.topic" ++ toString i ++ " = ANY ($").data).2 = [] := by
    rw [lexRun_append_snd _ " = ANY ($" rfl rfl]
    rfl
  rw [parseRun_lex_numeral _ hpre k ")" rfl rfl,
    parseRun_lex_append _ (" eth.log_cids.topic" ++ toString i) " = ANY ($" rfl rfl, lex_topicColumn]
  rfl

variable {names : List String} {fs : List Frame} {q : PgQuery} {x : Option SqlCond}
  {U : Option SqlError} {P : α → Bool}

theorem Building.addTopic (h : Building D ls σ names fs q x U P) (hlog : LogScope db ls σ logOf)
    (hid : q.id = q.args.length + 1) (i : ℕ) (set : List String) :
    Building D ls σ names fs
      (((if !x.isNone then q.add " AND" else q).add (" eth.log_cids.topic" ++ toString i ++
        " = ANY ($" ++ toString (if !x.isNone then q.add " AND" else q).id ++ ")")).bind
          (.array set)).next
      (some (SqlCond.andOpt x (.eqAny ("eth.log_cids.topic" ++ toString i) (toString q.id))))
      (U <|> if i < 4 then none else some (topicColumnError i))
      fun a => P a && anyOf ((logOf a).topic i) set := by
  have hq : (if !x.isNone then q.add " AND" else q).id = q.id := by split <;> rfl
  have hstart : parseRun .start (lex (if !x.isNone then q.add " AND" else q).pgStr) =
      .cond names false ⟨none, x, .start, fs⟩ := by
    cases x with
    | none => exact h.reads
    | some c =>
      show parseRun .start (lex (q.pgStr ++ " AND")) = _
      rw [parseRun_lex_append _ q.pgStr " AND" rfl rfl, h.reads]
      rfl
  refine ⟨?_, ?_⟩
  · rw [hq, PgQuery.next_pgStr, PgQuery.bind_pgStr, PgQuery.add_pgStr,
      parseRun_lex_append _ _ (" eth.log_cids.topic" ++ toString i ++ " = ANY ($" ++
        toString q.id ++ ")") rfl rfl, hstart, parseRun_topicPiece]
  · have hargs : (if !x.isNone then q.add " AND" else q).args = q.args := by split <;> rfl
    simp only [PgQuery.next_args, PgQuery.bind_args, PgQuery.add_args, hargs]
    exact (h.means.append _).andOpt (hlog.topic_means i (by rw [decimalValue_toString, hid]))

/-- The topic loop reads one comparison per non-empty set and means `topicFilterMatches` from `i`.
-/
theorem Building.topicLoop (hlog : LogScope db ls σ logOf) :
    ∀ (topics : List (List String)) (i : ℕ) {q : PgQuery} {x : Option SqlCond}
      {U : Option SqlError} {P : α → Bool}, Building D ls σ names fs q x U P →
      q.id = q.args.length + 1 →
      (topicFilterConditionFrom i topics q x.isNone).id =
          (topicFilterConditionFrom i topics q x.isNone).args.length + 1 ∧
        ∃ x', x'.isSome = (x.isSome || hasTopics topics) ∧
          Building D ls σ names fs (topicFilterConditionFrom i topics q x.isNone) x'
            (U <|> (topicColumnFrom i topics).map topicColumnError)
            fun a => P a && topicFilterMatches (logOf a) i topics
  | [], i, q, x, U, P, h, hid =>
    ⟨hid, x, by simp [hasTopics], by
      cases U <;> simpa [topicColumnFrom, topicFilterMatches] using h⟩
  | set :: topics, i, q, x, U, P, h, hid => by
    cases hs : set.isEmpty with
    | true =>
      obtain ⟨hid', x', hx', h'⟩ := Building.topicLoop hlog topics (i + 1) h hid
      rw [topicFilterConditionFrom, if_pos hs]
      refine ⟨hid', x', by simp [hx', hasTopics, hs], ?_⟩
      simpa [topicColumnFrom, topicFilterMatches, hs] using h'
    | false =>
      have hid1 : (((if !x.isNone then q.add " AND" else q).add (" eth.log_cids.topic" ++
          toString i ++ " = ANY ($" ++ toString (if !x.isNone then q.add " AND" else q).id ++
          ")")).bind (.array set)).next.id = (((if !x.isNone then q.add " AND" else q).add
          (" eth.log_cids.topic" ++ toString i ++ " = ANY ($" ++
          toString (if !x.isNone then q.add " AND" else q).id ++ ")")).bind
          (.array set)).next.args.length + 1 := by
        split <;> simp [hid]
      obtain ⟨hid', x', hx', h'⟩ :=
        Building.topicLoop hlog topics (i + 1) (h.addTopic hlog hid i set) hid1
      rw [topicFilterConditionFrom, if_neg (by simp [hs])]
      refine ⟨hid', x', by simp [hx', hasTopics, hs], ?_⟩
      have hU : ((U <|> if i < 4 then none else some (topicColumnError i)) <|>
          (topicColumnFrom (i + 1) topics).map topicColumnError) =
          (U <|> (topicColumnFrom i (set :: topics)).map topicColumnError) := by
        by_cases hi : i < 4 <;> cases U <;> simp [topicColumnFrom, hs, hi, Nat.not_le.2, Nat.le_of_not_lt]
      rw [hU] at h'
      exact h'.congr fun a => by simp [topicFilterMatches, hs, Bool.and_assoc]

theorem Building.logAddress {c : SqlCond} (h : Building D ls σ names fs q (some c) U P)
    (hlog : LogScope db ls σ logOf) (hid : q.id = q.args.length + 1) (addrs : List String) :
    (if !addrs.isEmpty then ((q.add (" AND eth.log_cids.address = ANY ($" ++ toString q.id ++
        ")")).bind (.array addrs)).next else q).id =
      (if !addrs.isEmpty then ((q.add (" AND eth.log_cids.address = ANY ($" ++ toString q.id ++
        ")")).bind (.array addrs)).next else q).args.length + 1 ∧
    ∃ c', Building D ls σ names fs (if !addrs.isEmpty then ((q.add
        (" AND eth.log_cids.address = ANY ($" ++ toString q.id ++ ")")).bind
          (.array addrs)).next else q) (some c') U
      fun a => P a && (addrs.isEmpty || addrs.contains (logOf a).address) := by
  refine ⟨by split <;> simp [hid], ?_⟩
  refine Exists.imp (fun c h => Building.congr h fun a => ?_) (Building.ite ⟨c, h⟩
    fun _ h _ => ⟨_, Building.next (h.andParam (hlog.address_means
      (by rw [decimalValue_toString]; exact hid)) rfl rfl rfl rfl fun _ => rfl)⟩)
  simp only [Bool.decide_eq_true, Bool.not_not]

/-- The topic conditions, appended when some set is non-empty. -/
theorem Building.topicsIfAny {c : SqlCond} (h : Building D ls σ names fs q (some c) none P)
    (hlog : LogScope db ls σ logOf) (hid : q.id = q.args.length + 1)
    (topics : List (List String)) :
    (if hasTopics topics then topicFilterCondition q topics false else q).id =
        (if hasTopics topics then topicFilterCondition q topics false else q).args.length + 1 ∧
      (∃ extra, (if hasTopics topics then topicFilterCondition q topics false else q).args =
        q.args ++ extra) ∧
      ∃ c', Building D ls σ names fs
        (if hasTopics topics then topicFilterCondition q topics false else q) (some c')
        ((undefinedTopicColumn topics).map topicColumnError)
        fun a => P a && (!hasTopics topics || topicFilterMatches (logOf a) 0 topics) := by
  cases ht : hasTopics topics with
  | false =>
    simp only [Bool.false_eq_true, if_false, ← topicColumnFrom_zero,
      topicColumnFrom_of_not_hasTopics ht, Option.map_none']
    exact ⟨hid, ⟨[], (List.append_nil _).symm⟩, c, h.congr fun a => by simp⟩
  | true =>
    obtain ⟨hid', x', hx', h'⟩ := Building.topicLoop hlog topics 0 h hid
    obtain ⟨c', rfl⟩ := Option.isSome_iff_exists.1 (by simpa using hx')
    simp only [if_true, topicFilterCondition]
    refine ⟨hid', ⟨_, topicFilterConditionFrom_args 0 topics q false⟩, c', ?_⟩
    rw [← topicColumnFrom_zero]
    exact h'.congr fun a => by simp

/-- `logFilterCondition` means `logFilterMatches`, and fails where `undefinedTopicColumn` says. -/
theorem Building.logFilterCondition {rctFilter : ReceiptFilter}
    (h : ∃ c, Building D ls σ names fs q (some c) none P) (hlog : LogScope db ls σ logOf)
    (hid : q.id = q.args.length + 1) :
    ∃ c', Building D ls σ names fs (logFilterCondition q rctFilter) (some c')
      ((undefinedTopicColumn rctFilter.topics).map topicColumnError)
      fun a => P a && logFilterMatches rctFilter (logOf a) := by
  obtain ⟨c, h⟩ := h
  obtain ⟨hid₁, c₁, h₁⟩ := h.logAddress hlog hid rctFilter.logAddresses
  obtain ⟨-, -, c', h'⟩ := h₁.topicsIfAny hlog hid₁ rctFilter.topics
  exact ⟨c', h'.congr fun a => by simp [logFilterMatches, Bool.and_assoc]⟩

end LogConditions

theorem contains_map_rctId_filter (ls : List LogCid) (cond : LogCid → Bool) (s : String) :
    ((ls.filter cond).map LogCid.rctId).contains s = ls.any fun l => cond l && s == l.rctId := by
  induction ls with
  | nil => rfl
  | cons l ls ih =>
    cases h : cond l <;> simp only [List.filter_cons, h, if_true, if_false, Bool.false_eq_true,
      List.map_cons, List.contains_cons, ih, List.any_cons, Bool.true_and, Bool.false_and,
      Bool.false_or]

/-- `SELECT rct_id FROM eth.log_cids WHERE cond` holds the hashes of the log rows meeting `cond`. -/
theorem logRctIds_contains (db : IndexDb) (cond : LogCid → Bool) (s : String) :
    (logRctIds db cond).contains s = db.logCids.any fun l => cond l && s == l.rctId :=
  contains_map_rctId_filter _ _ _

section ReceiptConditions

variable {α : Type} {db : IndexDb} {D : SqlDb} {ls : List (List SqlTable)} {σ : α → Scope}
  {args : List SqlArg} {U : Option SqlError}

/-- `lhs = ANY (SELECT col FROM tbl WHERE c)`: some row of `tbl` meeting `c` has `col` equal to
`lhs`. -/
theorem CondMeans.inSelect {β : Type} {lhs col tbl : String} {c : SqlCond} {t : SqlTable}
    {rows : List β} {f : β → String → SqlValue} {v : α → SqlValue} {w : β → SqlValue}
    {R : β × α → Bool} (hlhs : ∀ a, resolve (σ a) lhs = some (v a))
    (hres : refError ls lhs = none) (hlookup : D.lookup tbl = some t) (ht : t.rows = rows.map f)
    (hcol : ∀ b a, resolve ((t, f b) :: σ a) col = some (w b))
    (hcolres : refError ([t] :: ls) col = none)
    (hc : CondMeans D ([t] :: ls) (fun p : β × α => (t, f p.1) :: σ p.2) args c U R) :
    CondMeans D ls σ args (.inSelect lhs col tbl c) U
      fun a => rows.any fun b => R (b, a) && (v a).eqv (w b) := by
  refine ⟨by simp [SqlCond.unresolved, hres, hlookup, hcolres, hc.unresolved_eq],
    fun more => by rw [SqlCond.manyRows, hc.single_eq], fun a more => ?_⟩
  rw [SqlCond.eval, hlhs, hlookup]
  dsimp only
  rw [ht, any_map_eq]
  refine congrArg rows.any (funext fun b => ?_)
  rw [hc.eval_eq (b, a) more, hcol]
  rfl

theorem LogScope.subSelect (hσ : ∀ a, ∀ e ∈ σ a, e.1.answers "eth.log_cids" = false) :
    LogScope db ([db.logTable] :: ls) (fun p : LogCid × α => (db.logTable, p.1.value) :: σ p.2)
      Prod.fst :=
  ⟨⟨[], ls, rfl, fun _ h => absurd h (List.not_mem_nil _)⟩, fun p => ⟨σ p.2, rfl, hσ p.2⟩⟩

def rctSubSelectFrame : Frame :=
  ⟨.subSelect "receipt_cids.tx_id" "rct_id" "eth.log_cids", none, none⟩

variable {names : List String} {q : PgQuery} {c : SqlCond} {P : α → Bool}
  {rctOf : α → ReceiptCid}

/-- With log addresses, `receiptFilterConditions` opens a group and the log sub-select. -/
theorem Building.openAddressSubSelect {β : Type} {ls' : List (List SqlTable)} {σ' : β → Scope}
    {logOf : β → LogCid} (h : Building D ls σ names [] q (some c) none P)
    (hlog : LogScope db ls' σ' logOf) (hid : q.id = q.args.length + 1) (addrs : List String) :
    Building D ls' σ' names [rctSubSelectFrame, ⟨.group, none, some c⟩]
      ((q.add (" AND (receipt_cids.tx_id = ANY ( " ++ " " ++
        "SELECT rct_id FROM eth.log_cids WHERE" ++ " eth.log_cids.address = ANY ($" ++
        toString q.id ++ ")")).bind (.array addrs)).next
      (some (.eqAny "eth.log_cids.address" (toString q.id))) none
      fun b => addrs.contains (logOf b).address :=
  Building.next (Building.param h.reads (hlog.address_means (by rw [decimalValue_toString]; exact hid))
    rfl rfl rfl rfl fun _ => rfl)

theorem Building.openTopicSubSelect {β : Type} {ls' : List (List SqlTable)} {σ' : β → Scope}
    (h : Building D ls σ names [] q (some c) none P) :
    Building D ls' σ' names [rctSubSelectFrame, ⟨.group, none, some c⟩]
      (q.add (" AND (receipt_cids.tx_id = ANY ( " ++ "SELECT rct_id FROM eth.log_cids WHERE"))
      none none fun _ => true :=
  ⟨by rw [PgQuery.add_pgStr, parseRun_lex_append _ _
    (" AND (receipt_cids.tx_id = ANY ( " ++ "SELECT rct_id FROM eth.log_cids WHERE") rfl rfl,
    h.reads]; rfl, rfl, fun _ => rfl⟩

/-- `)` closes the sub-select: the receipt's hash is among the selected logs' `rct_id`s. -/
theorem Building.closeLogSubSelect {fs : List Frame} {x : SqlCond} {R : LogCid × α → Bool}
    (hin : Building D ([db.logTable] :: ls) (fun p : LogCid × α => (db.logTable, p.1.value) :: σ p.2)
      names (rctSubSelectFrame :: fs) q (some x) U R)
    (hlookup : D.lookup "eth.log_cids" = some db.logTable)
    (hrct : ∀ a, resolve (σ a) "receipt_cids.tx_id" = some (.text (rctOf a).txId))
    (hres : refError ls "receipt_cids.tx_id" = none) :
    Building D ls σ names fs (q.add ")")
      (some (.inSelect "receipt_cids.tx_id" "rct_id" "eth.log_cids" x)) U
      fun a => db.logCids.any fun l => R (l, a) && (rctOf a).txId == l.rctId := by
  have hm : CondMeans D ls σ q.args (.inSelect "receipt_cids.tx_id" "rct_id" "eth.log_cids" x) U
      fun a => db.logCids.any fun l => R (l, a) && (SqlValue.text (rctOf a).txId).eqv
        (.text l.rctId) :=
    CondMeans.inSelect hrct hres hlookup rfl (fun _ _ => rfl) rfl hin.means
  exact ⟨by rw [PgQuery.add_pgStr, parseRun_lex_append _ _ ")" rfl rfl, hin.reads]; rfl, hm⟩

/-- `matchTxsCondition` and the `)` closing the group: the sub-select, or the hash among `txHashes`.
-/
theorem Building.closeRctGroup {y : SqlCond} {V : Option SqlError} {Q : α → Bool}
    (h : Building D ls σ names [⟨.group, none, some c⟩] q (some y) V Q)
    (hc : CondMeans D ls σ q.args c none P) (hid : q.id = q.args.length + 1)
    (hrct : ∀ a, resolve (σ a) "receipt_cids.tx_id" = some (.text (rctOf a).txId))
    (hres : refError ls "receipt_cids.tx_id" = none) (rctFilter : ReceiptFilter)
    (txHashes : List String) :
    ∃ y', Building D ls σ names [] ((matchTxsCondition q rctFilter txHashes).add ")") (some y') V
      fun a => P a && (Q a || (rctFilter.matchTxs && !txHashes.isEmpty) &&
        txHashes.contains (rctOf a).txId) := by
  unfold matchTxsCondition
  cases rctFilter.matchTxs && !txHashes.isEmpty with
  | false =>
    have h' : Building D ls σ names [] (q.add ")") (some (.and c y)) V fun a => P a && Q a :=
      ⟨by rw [PgQuery.add_pgStr, parseRun_lex_append _ _ ")" rfl rfl, h.reads]; rfl,
        hc.and h.means⟩
    exact ⟨_, h'.congr fun a => by simp⟩
  | true =>
    have he : CondMeans D ls σ (q.args ++ [.array txHashes])
        (.eqAny "receipt_cids.tx_id" (toString q.id)) none fun a => txHashes.contains (rctOf a).txId :=
      CondMeans.eqAny hrct hres (by rw [decimalValue_toString, hid])
    have h' : Building D ls σ names []
        (((q.add (" OR receipt_cids.tx_id = ANY($" ++ toString q.id ++ ")")).bind
          (.array txHashes)).add ")")
        (some (.and c (.or y (.eqAny "receipt_cids.tx_id" (toString q.id))))) V
        fun a => P a && (Q a || txHashes.contains (rctOf a).txId) := by
      refine ⟨?_, ?_⟩
      · rw [PgQuery.add_pgStr, PgQuery.bind_pgStr, PgQuery.add_pgStr,
          parseRun_lex_append _ _ ")" rfl rfl,
          parseRun_lex_append _ _ (" OR receipt_cids.tx_id = ANY($" ++ toString q.id ++ ")") rfl rfl,
          h.reads, @parseRun_lex_numeral _ " OR receipt_cids.tx_id = ANY($" rfl _ ")" _ rfl rfl]
        rfl
      · cases V <;> exact (hc.append _).and ((h.means.append _).or he)
    exact ⟨_, h'.congr fun a => by simp⟩

/-- `receiptFilterConditions` means `receiptFilterMatches`, and fails where `undefinedTopicColumn`
says. -/
theorem Building.receiptFilterConditions {rctFilter : ReceiptFilter} {txHashes : List String}
    (h : ∃ c, Building D ls σ names [] q (some c) none P) (hid : q.id = q.args.length + 1)
    (hlookup : D.lookup "eth.log_cids" = some db.logTable)
    (hrct : ∀ a, resolve (σ a) "receipt_cids.tx_id" = some (.text (rctOf a).txId))
    (hres : refError ls "receipt_cids.tx_id" = none)
    (hσ : ∀ a, ∀ e ∈ σ a, e.1.answers "eth.log_cids" = false) :
    ∃ c', Building D ls σ names [] (receiptFilterConditions q rctFilter txHashes) (some c')
      ((undefinedTopicColumn rctFilter.topics).map topicColumnError)
      fun a => P a && receiptFilterMatches db rctFilter txHashes (rctOf a) := by
  obtain ⟨c, h⟩ := h
  have hlog : LogScope db ([db.logTable] :: ls)
      (fun p : LogCid × α => (db.logTable, p.1.value) :: σ p.2) Prod.fst :=
    LogScope.subSelect hσ
  simp only [IpldEthServer.receiptFilterConditions]
  cases ha : rctFilter.logAddresses.isEmpty with
  | false =>
    rw [Bool.not_false, if_pos rfl]
    obtain ⟨hid₂, ⟨extra, hargs⟩, c₂, h₂⟩ := (h.openAddressSubSelect hlog hid
      rctFilter.logAddresses).topicsIfAny hlog (by simp [hid]) rctFilter.topics
    refine Exists.imp (fun y h' => Building.congr h' fun a => ?_)
      ((h₂.closeLogSubSelect hlookup hrct hres).closeRctGroup (by
        rw [PgQuery.add_args, hargs, PgQuery.next_args, PgQuery.bind_args, PgQuery.add_args,
          List.append_assoc]
        exact h.means.append _) hid₂ hrct hres rctFilter txHashes)
    simp only [receiptFilterMatches, logRctIds_contains]
    simp [ha]
  | true =>
    rw [Bool.not_true, if_neg Bool.false_ne_true]
    cases ht : hasTopics rctFilter.topics with
    | true =>
      rw [if_pos rfl, ← topicColumnFrom_zero]
      obtain ⟨hid₂, x', hx', h₂⟩ :=
        Building.topicLoop hlog rctFilter.topics 0 h.openTopicSubSelect hid
      obtain ⟨c₂, rfl⟩ := Option.isSome_iff_exists.1 (by simpa [ht] using hx')
      refine Exists.imp (fun y h' => Building.congr h' fun a => ?_)
        ((h₂.closeLogSubSelect hlookup hrct hres).closeRctGroup (by
          rw [PgQuery.add_args, topicFilterConditionFrom_args, PgQuery.add_args]
          exact h.means.append _) hid₂ hrct hres rctFilter txHashes)
      simp only [receiptFilterMatches, logRctIds_contains]
      simp [ha, ht]
    | false =>
      rw [if_neg Bool.false_ne_true, ← topicColumnFrom_zero, topicColumnFrom_of_not_hasTopics ht,
        Option.map_none']
      refine Exists.imp (fun y h' => Building.congr h' fun a => ?_) (Building.ite ⟨c, h⟩
        fun _ h _ => ⟨_, h.andParam (CondMeans.eqAny hrct hres
          (by rw [decimalValue_toString]; exact hid)) rfl rfl rfl rfl fun _ => rfl⟩)
      simp [receiptFilterMatches, ha, ht]

end ReceiptConditions

end IpldEthServer

import IpldEthServer.SqlSemantics
import IpldEthServer.CidBlocks

namespace IpldEthServer

/-- A row by column, for each table of the index; here a header row. -/
def HeaderCid.value (h : HeaderCid) : String → SqlValue
  | "block_number" => .int h.blockNumber
  | "block_hash" => .text h.blockHash
  | _ => .null

def TransactionCid.value (t : TransactionCid) : String → SqlValue
  | "block_number" => .int t.blockNumber
  | "header_id" => .text t.headerId
  | "tx_hash" => .text t.txHash
  | "index" => .int t.index
  | "src" => .text t.src
  | "dst" => .text t.dst
  | _ => .null

def ReceiptCid.value (r : ReceiptCid) : String → SqlValue
  | "block_number" => .int r.blockNumber
  | "header_id" => .text r.headerId
  | "tx_id" => .text r.txId
  | "leaf_cid" => .text r.leafCid
  | "post_status" => .int r.postStatus
  | _ => .null

/-- A column that may be `NULL`. -/
def SqlValue.ofOption : Option String → SqlValue
  | some s => .text s
  | none => .null

/-- A log row by column; a topic past the log's last is `NULL`. -/
def LogCid.value (l : LogCid) : String → SqlValue
  | "block_number" => .int l.blockNumber
  | "header_id" => .text l.headerId
  | "rct_id" => .text l.rctId
  | "index" => .int l.index
  | "address" => .text l.address
  | "leaf_mh_key" => .text l.leafMhKey
  | "topic0" => .ofOption l.topic0
  | "topic1" => .ofOption l.topic1
  | "topic2" => .ofOption l.topic2
  | "topic3" => .ofOption l.topic3
  | _ => .null

def IpldBlock.value (b : IpldBlock) : String → SqlValue
  | "block_number" => .int b.blockNumber
  | "key" => .text b.key
  | "data" => .bytes b.data
  | _ => .null

def UncleCid.value (u : UncleCid) : String → SqlValue
  | "block_number" => .int u.blockNumber
  | "header_id" => .text u.headerId
  | "block_hash" => .text u.blockHash
  | _ => .null

def StateNodeCid.value (s : StateNodeCid) : String → SqlValue
  | "block_number" => .int s.blockNumber
  | "header_id" => .text s.headerId
  | "state_leaf_key" => .text s.stateLeafKey
  | "node_type" => .int s.nodeType
  | "state_path" => .bytes s.statePath
  | _ => .null

def StorageNodeCid.value (s : StorageNodeCid) : String → SqlValue
  | "block_number" => .int s.blockNumber
  | "header_id" => .text s.headerId
  | "storage_leaf_key" => .text s.storageLeafKey
  | "node_type" => .int s.nodeType
  | "state_path" => .bytes s.statePath
  | "storage_path" => .bytes s.storagePath
  | _ => .null

def logTableColumns : List String :=
  ["block_number", "header_id", "rct_id", "index", "address", "leaf_mh_key", "topic0", "topic1",
    "topic2", "topic3"]

def IndexDb.headerTable (db : IndexDb) : SqlTable :=
  ⟨"eth", "header_cids", ["block_number", "block_hash"], db.headerCids.map HeaderCid.value⟩

def IndexDb.transactionTable (db : IndexDb) : SqlTable :=
  ⟨"eth", "transaction_cids", ["block_number", "header_id", "tx_hash", "index", "src", "dst"],
    db.transactionCids.map TransactionCid.value⟩

def IndexDb.receiptTable (db : IndexDb) : SqlTable :=
  ⟨"eth", "receipt_cids", ["block_number", "header_id", "tx_id", "leaf_cid", "post_status"],
    db.receiptCids.map ReceiptCid.value⟩

def IndexDb.logTable (db : IndexDb) : SqlTable :=
  ⟨"eth", "log_cids", logTableColumns, db.logCids.map LogCid.value⟩

def IndexDb.blockTable (db : IndexDb) : SqlTable :=
  ⟨"public", "blocks", ["block_number", "key", "data"], db.blocks.map IpldBlock.value⟩

def BlockIndexDb.uncleTable (db : BlockIndexDb) : SqlTable :=
  ⟨"eth", "uncle_cids", ["block_number", "header_id", "block_hash"],
    db.uncleCids.map UncleCid.value⟩

def BlockIndexDb.stateTable (db : BlockIndexDb) : SqlTable :=
  ⟨"eth", "state_cids", ["block_number", "header_id", "state_leaf_key", "node_type", "state_path"],
    db.stateCids.map StateNodeCid.value⟩

def BlockIndexDb.storageTable (db : BlockIndexDb) : SqlTable :=
  ⟨"eth", "storage_cids", ["block_number", "header_id", "storage_leaf_key", "node_type",
    "state_path", "storage_path"], db.storageCids.map StorageNodeCid.value⟩

/-- The tables of an index, each under its `schema.name`. -/
def IndexDb.sqlTables (db : IndexDb) : SqlDb where
  tables := [db.headerTable, db.transactionTable, db.receiptTable, db.logTable, db.blockTable]

/-- The tables of an index with its uncle, state and storage tables. -/
def BlockIndexDb.sqlTables (db : BlockIndexDb) : SqlDb where
  tables := db.toIndexDb.sqlTables.tables ++ [db.uncleTable, db.stateTable, db.storageTable]

section Meaning

variable {α : Type} (D : SqlDb) (ls : List (List SqlTable)) (σ : α → Scope)

/-- A condition on the rows `σ` picks names no missing column but `U`, selects one row per
sub-query, and is `P`. -/
structure CondMeans (args : List SqlArg) (c : SqlCond) (U : Option SqlError) (P : α → Bool) :
    Prop where
  unresolved_eq : c.unresolved D ls = U
  single_eq : ∀ more, c.manyRows D (args ++ more) = false
  eval_eq : ∀ a more, c.eval D (args ++ more) (σ a) = P a

/-- `CondMeans` for a conjunction that may not have begun, which holds everywhere. -/
def OptMeans (args : List SqlArg) : Option SqlCond → Option SqlError → (α → Bool) → Prop
  | none, U, P => U = none ∧ ∀ a, P a = true
  | some c, U, P => CondMeans D ls σ args c U P

variable {D ls σ} {args : List SqlArg} {U V : Option SqlError} {P Q : α → Bool}

theorem CondMeans.and {a b : SqlCond} (ha : CondMeans D ls σ args a U P)
    (hb : CondMeans D ls σ args b V Q) :
    CondMeans D ls σ args (.and a b) (U <|> V) fun x => P x && Q x :=
  ⟨by rw [SqlCond.unresolved, ha.unresolved_eq, hb.unresolved_eq],
    fun more => by rw [SqlCond.manyRows, ha.single_eq, hb.single_eq, Bool.or_false],
    fun x more => by rw [SqlCond.eval, ha.eval_eq, hb.eval_eq]⟩

theorem CondMeans.or {a b : SqlCond} (ha : CondMeans D ls σ args a U P)
    (hb : CondMeans D ls σ args b V Q) :
    CondMeans D ls σ args (.or a b) (U <|> V) fun x => P x || Q x :=
  ⟨by rw [SqlCond.unresolved, ha.unresolved_eq, hb.unresolved_eq],
    fun more => by rw [SqlCond.manyRows, ha.single_eq, hb.single_eq, Bool.or_false],
    fun x more => by rw [SqlCond.eval, ha.eval_eq, hb.eval_eq]⟩

theorem CondMeans.append {c : SqlCond} (h : CondMeans D ls σ args c U P) (extra : List SqlArg) :
    CondMeans D ls σ (args ++ extra) c U P :=
  ⟨h.unresolved_eq, fun more => by rw [List.append_assoc]; exact h.single_eq _,
    fun a more => by rw [List.append_assoc]; exact h.eval_eq a _⟩

theorem OptMeans.append {x : Option SqlCond} (h : OptMeans D ls σ args x U P)
    (extra : List SqlArg) : OptMeans D ls σ (args ++ extra) x U P := by
  cases x with
  | none => exact h
  | some c => exact CondMeans.append h extra

theorem OptMeans.andOpt {x : Option SqlCond} {a : SqlCond} (hx : OptMeans D ls σ args x U P)
    (ha : CondMeans D ls σ args a V Q) :
    CondMeans D ls σ args (SqlCond.andOpt x a) (U <|> V) fun y => P y && Q y := by
  cases x with
  | none =>
    obtain ⟨rfl, hP⟩ := hx
    simpa only [SqlCond.andOpt, hP, Bool.true_and] using ha
  | some c => exact CondMeans.and hx ha

/-- `col = ANY ($n)`, `$n` naming the array bound next, on a column that may be `NULL`. -/
theorem CondMeans.eqAnyNullable {col n : String} {v : α → Option String} {args : List SqlArg}
    {set : List String} (hcol : ∀ a, resolve (σ a) col = some (.ofOption (v a)))
    (hres : refError ls col = none) (hn : decimalValue n.data = args.length + 1) :
    CondMeans D ls σ (args ++ [.array set]) (.eqAny col n) none fun a => anyOf (v a) set := by
  refine ⟨by simp [SqlCond.unresolved, hres], fun _ => rfl, fun a more => ?_⟩
  rw [SqlCond.eval, hcol, List.append_assoc, List.singleton_append, paramArg, hn]
  cases v a <;> simp [anyOf, SqlValue.ofOption]

theorem CondMeans.eqAny {col n : String} {v : α → String} {args : List SqlArg}
    {set : List String} (hcol : ∀ a, resolve (σ a) col = some (.text (v a)))
    (hres : refError ls col = none) (hn : decimalValue n.data = args.length + 1) :
    CondMeans D ls σ (args ++ [.array set]) (.eqAny col n) none fun a => set.contains (v a) :=
  CondMeans.eqAnyNullable (v := fun a => some (v a)) hcol hres hn

theorem CondMeans.eqParam {col n : String} {w : α → SqlValue} {args : List SqlArg} {arg : SqlArg}
    {v : SqlValue} (hcol : ∀ a, resolve (σ a) col = some (w a)) (hres : refError ls col = none)
    (hn : decimalValue n.data = args.length + 1) (hv : arg.value = some v) :
    CondMeans D ls σ (args ++ [arg]) (.eq col (.param n)) none fun a => (w a).eqv v := by
  refine ⟨by simp [SqlCond.unresolved, SqlTerm.unresolved, hres], fun _ => rfl, fun a more => ?_⟩
  rw [SqlCond.eval, hcol, SqlTerm.value, List.append_assoc, List.singleton_append, paramArg, hn]
  simp [hv]

theorem CondMeans.eqNumeral {col s : String} {w : α → ℕ}
    (hcol : ∀ a, resolve (σ a) col = some (.int (w a))) (hres : refError ls col = none) (n : ℕ)
    (hn : decimalValue s.data = n) :
    CondMeans D ls σ args (.eq col (.numeral s)) none fun a => w a == n :=
  ⟨by simp [SqlCond.unresolved, SqlTerm.unresolved, hres], fun _ => rfl,
    fun a more => by rw [SqlCond.eval, hcol, SqlTerm.value, hn]; simp [SqlValue.eqv]⟩

end Meaning

section Run

variable {α : Type} {D : SqlDb} {ts : List SqlTable} {σ : α → Scope} {args : List SqlArg}
  {U : Option SqlError} {P : α → Bool}

/-- What a query returns: the rows, or the first name its condition cannot resolve. -/
def joinResult (U : Option SqlError) (rows : List Scope) : Except SqlError (List Scope) :=
  match U with
  | some e => .error e
  | none => .ok rows

def orderRows : Option String → List Scope → List Scope
  | some col, rows => IpldEthServer.orderBy (orderKey col) rows
  | none, rows => rows

theorem SqlSelect.arrange_ascending (names : List String) (c : SqlCond) (order : Option String)
    (rows : List Scope) : SqlSelect.arrange ⟨names, c, order, false, none⟩ rows = orderRows order rows := by
  cases order <;> rfl

/-- The rows of the join a condition keeps are the rows `σ` picks where its meaning holds. -/
theorem filter_crossRows {c : SqlCond} {rows : List α} (hrows : crossRows ts = rows.map σ)
    (he : ∀ a, c.eval D args (σ a) = P a) :
    (crossRows ts).filter (fun sc => c.eval D args sc) = (rows.filter P).map σ := by
  rw [hrows, List.filter_map]
  congr 2
  exact funext he

/-- A query whose names resolve returns the rows of the join where its condition holds, arranged. -/
theorem SqlSelect.run_of_eval {sel : SqlSelect} {rows : List α}
    (hts : D.openFrom [] sel.tables = .ok ts) (hrows : crossRows ts = rows.map σ)
    (hu : sel.cond.unresolved D [ts] = none) (he : ∀ a, sel.cond.eval D args (σ a) = P a) :
    sel.run D args = if sel.cond.manyRows D args then .error .subqueryMultipleRows
      else .ok (sel.arrange ((rows.filter P).map σ)) := by
  simp only [SqlSelect.run, hts, hu, filter_crossRows hrows he]

/-- A query whose condition means `P` on the rows `σ` picks returns the rows where `P` holds. -/
theorem SqlSelect.run_of_means {sel : SqlSelect} {rows : List α}
    (hts : D.openFrom [] sel.tables = .ok ts) (hrows : crossRows ts = rows.map σ)
    (hc : CondMeans D [ts] σ args sel.cond U P) :
    sel.run D args = joinResult U (sel.arrange ((rows.filter P).map σ)) := by
  have hm : sel.cond.manyRows D args = false := by simpa using hc.single_eq []
  have he : ∀ a, sel.cond.eval D args (σ a) = P a := fun a => by simpa using hc.eval_eq a []
  cases U with
  | none => rw [SqlSelect.run_of_eval hts hrows hc.unresolved_eq he, hm]; rfl
  | some e => simp only [SqlSelect.run, hts, hc.unresolved_eq, joinResult]

theorem orderBy_map {β : Type} (k : β → ℕ) (g : α → β) (rows : List α) :
    orderBy k (rows.map g) = (orderBy (fun a => k (g a)) rows).map g :=
  (List.map_insertionSort _ _ g rows fun _ _ _ _ => Iff.rfl).symm

theorem orderByDesc_map {β : Type} (k : β → ℕ) (g : α → β) (rows : List α) :
    orderByDesc k (rows.map g) = (orderByDesc (fun a => k (g a)) rows).map g :=
  (List.map_insertionSort _ _ g rows fun _ _ _ _ => Iff.rfl).symm

theorem newest_map {β : Type} (k : β → ℕ) (g : α → β) (rows : List α) :
    newest k (rows.map g) = (newest (fun a => k (g a)) rows).map g := by
  rw [newest, newest, orderByDesc_map]
  cases orderByDesc (fun a => k (g a)) rows <;> rfl

/-- `Get` on a query ordered descending and cut to one row: the newest row of the model by that
column. -/
theorem get_newest_of_parse {q : PgQuery} {sel : SqlSelect} {rows : List α} {col : String}
    {key : α → ℕ} {M : Bool} (hp : parseSql q.pgStr = some sel)
    (hts : D.openFrom [] sel.tables = .ok ts) (hrows : crossRows ts = rows.map σ)
    (hu : sel.cond.unresolved D [ts] = none) (hm : sel.cond.manyRows D q.args = M)
    (he : ∀ a, sel.cond.eval D q.args (σ a) = P a) (horder : sel.orderBy = some col)
    (hdesc : sel.descending = true) (hlimit : sel.limit = some 1)
    (hk : ∀ a, orderKey col (σ a) = key a) :
    ∃ sel, parseSql q.pgStr = some sel ∧ sel.get D q.args =
      if M then .error .subqueryMultipleRows else (newest key (rows.filter P)).map σ := by
  refine ⟨sel, hp, ?_⟩
  rw [SqlSelect.get, SqlSelect.run_of_eval hts hrows hu he, hm]
  cases M
  · simp only [SqlSelect.arrange, horder, hdesc, hlimit, if_true, orderByDesc_map, hk, newest,
      Bool.false_eq_true, if_false]
    cases orderByDesc key (rows.filter P) <;> rfl
  · rfl

/-- A scalar sub-query over a table of records compares with the first record meeting its condition.
-/
theorem SqlCond.eval_cmpSelect {β : Type} {op : SqlOp} {lhs col tbl : String} {c : SqlCond}
    {t : SqlTable} {rows : List β} {f : β → String → SqlValue} {sc : Scope} {v : SqlValue}
    {w : β → SqlValue} {R : β → Bool} (hlhs : resolve sc lhs = some v)
    (hlookup : D.lookup tbl = some t) (ht : t.rows = rows.map f)
    (hc : ∀ b, c.eval D args ((t, f b) :: sc) = R b)
    (hcol : ∀ b, resolve ((t, f b) :: sc) col = some (w b)) :
    (SqlCond.cmpSelect op lhs col tbl c).eval D args sc =
      ((rows.find? R).map fun b => v.cmp op (w b)).getD false := by
  have hR : (fun row => c.eval D args ((t, row) :: sc)) ∘ f = R := funext hc
  rw [SqlCond.eval, hlhs, hlookup]
  dsimp only
  rw [ht, List.find?_map, hR]
  cases rows.find? R with
  | none => rfl
  | some b => simp [hcol]

/-- A scalar sub-query selects several rows when several records meet its condition. -/
theorem SqlCond.manyRows_cmpSelect {β : Type} {op : SqlOp} {lhs col tbl : String} {c : SqlCond}
    {t : SqlTable} {rows : List β} {f : β → String → SqlValue} {R : β → Bool}
    (hlookup : D.lookup tbl = some t) (ht : t.rows = rows.map f)
    (hc : ∀ b, c.eval D args [(t, f b)] = R b) :
    (SqlCond.cmpSelect op lhs col tbl c).manyRows D args =
      (decide (1 < (rows.filter R).length) || c.manyRows D args) := by
  have hR : (fun row => c.eval D args [(t, row)]) ∘ f = R := funext hc
  rw [SqlCond.manyRows, hlookup]
  dsimp only
  rw [ht, List.filter_map, hR, List.length_map]

theorem map_filter_eq_flatMap {β : Type} (rows : List α) (p : α → Bool) (g : α → β) :
    (rows.filter p).map g = rows.flatMap fun a => if p a then [g a] else [] := by
  induction rows with
  | nil => rfl
  | cons a rows ih => cases h : p a <;> simp [List.filter_cons, h, ih]

@[simp] theorem map_ite_singleton {β γ : Type} {p : Prop} [Decidable p] (a : β) (f : β → γ) :
    (if p then [a] else []).map f = if p then [f a] else [] := by
  split <;> rfl

theorem any_map_eq {β γ : Type} (f : β → γ) (l : List β) (p : γ → Bool) :
    (l.map f).any p = l.any fun b => p (f b) := by
  induction l <;> simp [*]

theorem crossRows_singleton {β : Type} {t : SqlTable} {l : List β} {f : β → String → SqlValue}
    (ht : t.rows = l.map f) : crossRows [t] = l.map fun a => [(t, f a)] := by
  rw [crossRows, crossRows, ht, List.flatMap_map, List.map_eq_flatMap]
  rfl

theorem crossRows_cons {β : Type} {t : SqlTable} {l : List β} {f : β → String → SqlValue}
    (ht : t.rows = l.map f) {ts : List SqlTable} {rows : List α} (hts : crossRows ts = rows.map σ) :
    crossRows (t :: ts) = (l.flatMap fun a => rows.map fun r => (a, r)).map fun p =>
      (t, f p.1) :: σ p.2 := by
  simp [crossRows, ht, hts, List.flatMap_map, List.map_flatMap, Function.comp_def]

end Run

theorem parseRun_append (st : SqlParse) (a b : List SqlToken) :
    parseRun st (a ++ b) = parseRun (parseRun st a) b :=
  List.foldl_append _ _ _ _

/-- A text that starts between words is parsed from where the text before it left off. -/
theorem parseRun_lex_append (st : SqlParse) (a b : String) {c : Char}
    (hb : b.data.head? = some c) (hc : wordChar c = false) :
    parseRun st (lex (a ++ b)) = parseRun (parseRun st (lex a)) (lex b) := by
  rw [lex_append a b hb hc, parseRun_append]

theorem lexRun_append_snd (a b : String) {c : Char} {cs : List Char}
    (hb : b.data = c :: cs) (hc : wordChar c = false) :
    (lexRun [] (a ++ b).data).2 = (lexRun [] cs).2 := by
  rw [String.data_append, lexRun_append, hb, lexRun_cons_of_not_wordChar hc]

/-- A numeral between two pieces is one word, whatever its digits. -/
theorem parseRun_lex_numeral (st : SqlParse) {pre : String} (hpre : (lexRun [] pre.data).2 = [])
    (n : ℕ) (post : String) {c : Char} (hpost : post.data.head? = some c)
    (hc : wordChar c = false) :
    parseRun st (lex (pre ++ toString n ++ post)) =
      parseRun (parseStep (parseRun st (lex pre)) (.word (toString n))) (lex post) := by
  rw [parseRun_lex_append _ _ _ hpost hc, lex_append_toString hpre, parseRun_append]
  rfl

/-- The parse of a text that has read the conjunction `x` within the open frames `fs`. -/
def condReading (names : List String) (fs : List Frame) : Option SqlCond → SqlParse
  | some x => .cond names false ⟨none, some x, .done, fs⟩
  | none => .cond names false ⟨none, none, .start, fs⟩

section Building

variable {α : Type} {D : SqlDb} {ls : List (List SqlTable)} {σ : α → Scope} {names : List String}
  {fs : List Frame} {q q' : PgQuery} {x : Option SqlCond} {U V : Option SqlError} {P Q : α → Bool}

/-- A query under construction: its text has read `x` within frames `fs`, and `x` means `P` but
names `U`. -/
structure Building (D : SqlDb) (ls : List (List SqlTable)) (σ : α → Scope) (names : List String)
    (fs : List Frame) (q : PgQuery) (x : Option SqlCond) (U : Option SqlError) (P : α → Bool) :
    Prop where
  reads : parseRun .start (lex q.pgStr) = condReading names fs x
  means : OptMeans D ls σ q.args x U P

/-- A piece that parses as one more comparison `atom` of the conjunction, with the arguments
`atom` reads bound. -/
theorem Building.andAtom (h : Building D ls σ names fs q x U P) {atom : SqlCond}
    {extra : List SqlArg} (ha : CondMeans D ls σ (q.args ++ extra) atom V Q) {s : String}
    (hq : q'.pgStr = q.pgStr ++ s) (hargs : q'.args = q.args ++ extra)
    (hs : s.data.head? = some ' ')
    (hparse : parseRun (condReading names fs x) (lex s) =
      condReading names fs (some (SqlCond.andOpt x atom))) :
    Building D ls σ names fs q' (some (SqlCond.andOpt x atom)) (U <|> V) fun a => P a && Q a :=
  ⟨by rw [hq, parseRun_lex_append _ _ _ hs rfl, h.reads, hparse],
    by rw [hargs]; exact (h.means.append extra).andOpt ha⟩

theorem Building.andFixed (h : Building D ls σ names fs q x U P) {atom : SqlCond}
    (ha : CondMeans D ls σ q.args atom V Q) {s : String} (hq : q'.pgStr = q.pgStr ++ s)
    (hargs : q'.args = q.args) (hs : s.data.head? = some ' ')
    (hparse : parseRun (condReading names fs x) (lex s) =
      condReading names fs (some (SqlCond.andOpt x atom))) :
    Building D ls σ names fs q' (some (SqlCond.andOpt x atom)) (U <|> V) fun a => P a && Q a :=
  h.andAtom (by rwa [List.append_nil]) hq (by rw [hargs, List.append_nil]) hs hparse

theorem Building.congr (h : Building D ls σ names fs q x U P) (hP : ∀ a, P a = Q a) :
    Building D ls σ names fs q x U Q := by
  rwa [← funext hP]

/-- A piece appended under a condition `p` adds `Q` where `p` holds. -/
theorem Building.ite {p : Prop} [Decidable p]
    (h : ∃ c, Building D ls σ names fs q (some c) U P)
    (h' : ∀ c, Building D ls σ names fs q (some c) U P → p →
      ∃ c', Building D ls σ names fs q' (some c') U fun a => P a && Q a) :
    ∃ c, Building D ls σ names fs (if p then q' else q) (some c) U
      fun a => P a && (!decide p || Q a) := by
  obtain ⟨c, h⟩ := h
  by_cases hp : p
  · obtain ⟨c', h'⟩ := h' c h hp
    exact ⟨c', by simpa only [if_pos hp, decide_eq_true hp, Bool.not_true, Bool.false_or] using h'⟩
  · exact ⟨c, by simpa only [if_neg hp, decide_eq_false hp, Bool.not_false, Bool.true_or,
      Bool.and_true] using h⟩

/-- A piece appended when an optional argument is given, adding `Q b` for the given `b`. -/
theorem Building.option {β : Type} {o : Option β} {f : β → PgQuery} {Q : β → α → Bool}
    (hnone : o = none → q' = q) (hsome : ∀ b, o = some b → q' = f b)
    (h : ∃ c, Building D ls σ names fs q (some c) U P)
    (h' : ∀ b c, Building D ls σ names fs q (some c) U P →
      ∃ c', Building D ls σ names fs (f b) (some c') U fun a => P a && Q b a) :
    ∃ c, Building D ls σ names fs q' (some c) U fun a => P a && o.all fun b => Q b a := by
  obtain ⟨c, h⟩ := h
  cases o with
  | none => exact ⟨c, by simpa [hnone rfl] using h⟩
  | some b => simpa [hsome b rfl] using h' b c h

/-- `Building.option` for a `match` on an optional text; a `match` is compared by its type. -/
theorem Building.optionText {f : String → PgQuery} (o : Option String) {Q : String → α → Bool}
    (h : ∃ c, Building D ls σ names fs q (some c) U P)
    (h' : ∀ b c, Building D ls σ names fs q (some c) U P →
      ∃ c', Building D ls σ names fs (f b) (some c') U fun a => P a && Q b a) :
    ∃ c, Building D ls σ names fs (match o with | some b => f b | none => q) (some c) U
      fun a => P a && o.all fun b => Q b a :=
  Building.option (by rintro rfl; rfl) (by rintro b rfl; rfl) h h'

theorem Building.optionInt {f : ℤ → PgQuery} (o : Option ℤ) {Q : ℤ → α → Bool}
    (h : ∃ c, Building D ls σ names fs q (some c) U P)
    (h' : ∀ b c, Building D ls σ names fs q (some c) U P →
      ∃ c', Building D ls σ names fs (f b) (some c') U fun a => P a && Q b a) :
    ∃ c, Building D ls σ names fs (match o with | some b => f b | none => q) (some c) U
      fun a => P a && o.all fun b => Q b a :=
  Building.option (by rintro rfl; rfl) (by rintro b rfl; rfl) h h'

theorem Building.next (h : Building D ls σ names fs q x U P) :
    Building D ls σ names fs q.next x U P :=
  ⟨h.reads, h.means⟩

/-- A piece `pre ++ toString n ++ post` whose numeral is a placeholder, binding `v`. -/
theorem Building.param {st : SqlParse} (hq : parseRun .start (lex q.pgStr) = st)
    {atom : String → SqlCond} {v : SqlArg} {n : ℕ}
    (hm : CondMeans D ls σ (q.args ++ [v]) (atom (toString n)) U P) {pre post : String}
    (hpre : pre.data.head? = some ' ') (hend : (lexRun [] pre.data).2 = []) {c : Char}
    (hpost : post.data.head? = some c) (hc : wordChar c = false)
    (hparse : ∀ k, parseRun (parseStep (parseRun st (lex pre)) (.word k)) (lex post) =
      condReading names fs (some (atom k))) :
    Building D ls σ names fs ((q.add (pre ++ toString n ++ post)).bind v)
      (some (atom (toString n))) U P := by
  have hs : (pre ++ toString n ++ post).data.head? = some ' ' := by
    simp [String.data_append, hpre]
  exact ⟨by rw [PgQuery.bind_pgStr, PgQuery.add_pgStr, parseRun_lex_append _ _ _ hs rfl, hq,
    parseRun_lex_numeral _ hend _ _ hpost hc, hparse], hm⟩

theorem Building.andParam (h : Building D ls σ names fs q x U P) {atom : String → SqlCond}
    {v : SqlArg} {n : ℕ} (ha : CondMeans D ls σ (q.args ++ [v]) (atom (toString n)) none Q)
    {pre post : String} (hpre : pre.data.head? = some ' ') (hend : (lexRun [] pre.data).2 = [])
    {c : Char} (hpost : post.data.head? = some c) (hc : wordChar c = false)
    (hparse : ∀ k, parseRun (parseStep (parseRun (condReading names fs x) (lex pre)) (.word k))
      (lex post) = condReading names fs (some (SqlCond.andOpt x (atom k)))) :
    Building D ls σ names fs ((q.add (pre ++ toString n ++ post)).bind v)
      (some (SqlCond.andOpt x (atom (toString n)))) U fun a => P a && Q a := by
  cases U <;> exact Building.param h.reads ((h.means.append _).andOpt ha) hpre hend hpost hc hparse

theorem Building.andParamLast (h : Building D ls σ names fs q x U P) {atom : String → SqlCond}
    {v : SqlArg} {n : ℕ} (ha : CondMeans D ls σ (q.args ++ [v]) (atom (toString n)) none Q)
    {pre : String} (hpre : pre.data.head? = some ' ') (hend : (lexRun [] pre.data).2 = [])
    (hparse : ∀ k, parseStep (parseRun (condReading names fs x) (lex pre)) (.word k) =
      condReading names fs (some (SqlCond.andOpt x (atom k)))) :
    Building D ls σ names fs ((q.add (pre ++ toString n)).bind v)
      (some (SqlCond.andOpt x (atom (toString n)))) U fun a => P a && Q a := by
  have hs : (pre ++ toString n).data.head? = some ' ' := by
    simp [String.data_append, hpre]
  have hp : parseRun (condReading names fs x) (lex (pre ++ toString n)) =
      condReading names fs (some (SqlCond.andOpt x (atom (toString n)))) := by
    rw [lex_append_toString hend, parseRun_append, ← hparse]
    rfl
  cases U <;> exact h.andAtom ha rfl rfl hs hp

/-- A comparison whose placeholder's number is written in the text, binding `v`. -/
theorem Building.andNumberedParam (h : Building D ls σ names fs q x U P) {atom : SqlCond}
    {v : SqlArg} (ha : CondMeans D ls σ (q.args ++ [v]) atom none Q) {s : String}
    (hs : s.data.head? = some ' ')
    (hparse : parseRun (condReading names fs x) (lex s) =
      condReading names fs (some (SqlCond.andOpt x atom))) :
    Building D ls σ names fs ((q.add s).next.bind v) (some (SqlCond.andOpt x atom)) U
      fun a => P a && Q a := by
  cases U <;> exact h.andAtom ha rfl rfl hs hparse

end Building

section Finished

variable {α : Type} {D : SqlDb} {ts : List SqlTable} {σ : α → Scope} {names : List String}
  {q : PgQuery} {U : Option SqlError} {P : α → Bool}

/-- A finished query: a `SELECT` from `names`, ordered by `order`, whose condition means `P`. -/
def QueryMeans (D : SqlDb) (ts : List SqlTable) (σ : α → Scope) (q : PgQuery)
    (names : List String) (order : Option String) (U : Option SqlError) (P : α → Bool) : Prop :=
  ∃ c, parseSql q.pgStr = some ⟨names, c, order, false, none⟩ ∧ CondMeans D [ts] σ q.args c U P

theorem Building.finish (h : ∃ c, Building D [ts] σ names [] q (some c) U P) :
    QueryMeans D ts σ q names none U P :=
  let ⟨c, h⟩ := h
  ⟨c, by rw [parseSql, h.reads]; rfl, h.means⟩

theorem Building.finishOrdered (h : ∃ c, Building D [ts] σ names [] q (some c) U P) {o col : String}
    (ho : o.data.head? = some ' ') (hlex : lex o = [.kw "ORDER", .kw "BY", .word col]) :
    QueryMeans D ts σ (q.add o) names (some col) U P :=
  let ⟨c, h⟩ := h
  ⟨c, by rw [parseSql, PgQuery.add_pgStr, parseRun_lex_append _ _ _ ho rfl, h.reads, hlex]; rfl,
    h.means⟩

/-- A finished query over tables whose join is `rows` returns the rows where `P` holds. -/
theorem QueryMeans.run {order : Option String} {rows : List α}
    (h : QueryMeans D ts σ q names order U P) (hts : D.openFrom [] names = .ok ts)
    (hrows : crossRows ts = rows.map σ) :
    ∃ sel, parseSql q.pgStr = some sel ∧
      sel.run D q.args = joinResult U (orderRows order ((rows.filter P).map σ)) :=
  let ⟨_, hp, hc⟩ := h
  ⟨_, hp, by rw [SqlSelect.run_of_means hts hrows hc, SqlSelect.arrange_ascending]⟩

end Finished

end IpldEthServer

import IpldEthServer.SqlLexer

/-! Parsing the `SELECT`s of `cid_retriever.go` and `ipld_retriever.go`. A reader of SQL
written for the proofs (no source counterpart): it covers the forms the two files write, a
select list it skips, a `FROM` list with `INNER JOIN … ON`, and a condition of comparisons
`col = …`, `col <= …` (and `<`, `>`, `>=`), `col = ANY ($n)` (with a cast),
`col = ANY (SELECT col FROM t WHERE …)`, a scalar sub-query `(SELECT col FROM t WHERE …)` or
`(SELECT f(col))` on the right of a comparison, joined by `AND` and `OR` under parentheses,
then `ORDER BY col`, `DESC` and `LIMIT n`. The parser is a left fold over the tokens of `lex`,
whose state keeps a stack of the groups and sub-selects left open, so a text built by
appending pieces parses as the pieces' effects chained; anything else it meets fails. -/
namespace IpldEthServer

/-- The number a decimal numeral writes. -/
def decimalValue (cs : List Char) : ℕ :=
  cs.foldl (fun n c => 10 * n + (c.toNat - '0'.toNat)) 0

/-- The right side of a comparison: a column, a placeholder, a numeral, or a scalar sub-query
`(SELECT fn(arg))`. -/
inductive SqlTerm where
  | column (name : String)
  | param (n : String)
  | numeral (s : String)
  | call (fn arg : String)
  deriving DecidableEq, Repr

inductive SqlOp where
  | eq
  | lt
  | le
  | gt
  | ge
  deriving DecidableEq, Repr

def SqlTerm.ofWord (s : String) : SqlTerm :=
  if s.data.head?.any Char.isDigit then .numeral s else .column s

/-- A condition of a `WHERE` or `ON` clause. -/
inductive SqlCond where
  /-- `lhs = rhs`. -/
  | eq (lhs : String) (rhs : SqlTerm)
  /-- `lhs = ANY ($n)`, with any cast on the placeholder. -/
  | eqAny (lhs n : String)
  /-- `lhs = ANY (SELECT col FROM tbl WHERE cond)`. -/
  | inSelect (lhs col tbl : String) (cond : SqlCond)
  | and (a b : SqlCond)
  | or (a b : SqlCond)
  /-- `lhs op rhs` for an order comparison `op`. -/
  | cmp (op : SqlOp) (lhs : String) (rhs : SqlTerm)
  /-- `lhs op (SELECT col FROM tbl WHERE cond)`, a scalar sub-query. -/
  | cmpSelect (op : SqlOp) (lhs col tbl : String) (cond : SqlCond)
  deriving DecidableEq, Repr

/-- `lhs op rhs`: an equality, or an order comparison. -/
def SqlCond.compare : SqlOp → String → SqlTerm → SqlCond
  | .eq, lhs, rhs => .eq lhs rhs
  | op, lhs, rhs => .cmp op lhs rhs

def SqlCond.andOpt : Option SqlCond → SqlCond → SqlCond
  | none, a => a
  | some c, a => .and c a

def SqlCond.orOpt : Option SqlCond → SqlCond → SqlCond
  | none, c => c
  | some d, c => .or d c

/-- A parsed query: its `FROM` and joined tables, its condition, its `ORDER BY` and its `LIMIT`. -/
structure SqlSelect where
  tables : List String
  cond : SqlCond
  orderBy : Option String
  descending : Bool := false
  limit : Option ℕ := none
  deriving DecidableEq, Repr

/-- Where the parser stands within one comparison. -/
inductive CondPos where
  /-- A comparison or a `(` may come. -/
  | start
  | column (lhs : String)
  | equals (lhs : String)
  | dollar (lhs : String)
  | any (lhs : String)
  | anyOpen (lhs : String)
  | anyDollar (lhs : String)
  /-- `lhs = ANY ($n`, inside a cast with `depth` parentheses open. -/
  | anyParam (lhs n : String) (depth : ℕ)
  | select (lhs : String)
  | selectColumn (lhs col : String)
  | selectFrom (lhs col : String)
  | selectTable (lhs col tbl : String)
  /-- `lhs <`, which `=` may continue into `<=`. -/
  | less (lhs : String)
  /-- `lhs >`, which `=` may continue into `>=`. -/
  | greater (lhs : String)
  /-- `lhs op`, for an order comparison, before its right side. -/
  | operand (op : SqlOp) (lhs : String)
  | operandDollar (op : SqlOp) (lhs : String)
  /-- `lhs op (`, a scalar sub-query opened. -/
  | scalarOpen (op : SqlOp) (lhs : String)
  | scalarSelect (op : SqlOp) (lhs : String)
  /-- `lhs op (SELECT w`: a column a `FROM` follows, or a function a `(` follows. -/
  | scalarWord (op : SqlOp) (lhs w : String)
  | scalarFrom (op : SqlOp) (lhs col : String)
  | scalarTable (op : SqlOp) (lhs col tbl : String)
  | callOpen (op : SqlOp) (lhs fn : String)
  | callArg (op : SqlOp) (lhs fn arg : String)
  | callClosed (op : SqlOp) (lhs fn arg : String)
  /-- A comparison or group has ended. -/
  | done
  deriving Repr

/-- What a `(` opened: a group, the `WHERE` of an `ANY` sub-select, or of a scalar sub-query. -/
inductive FrameKind where
  | group
  | subSelect (lhs col tbl : String)
  | scalar (op : SqlOp) (lhs col tbl : String)
  deriving Repr

structure Frame where
  kind : FrameKind
  disj : Option SqlCond
  conj : Option SqlCond
  deriving Repr

/-- A condition being read: the closed disjuncts, the conjunction, the comparison position, the
outer levels. -/
structure CondState where
  disj : Option SqlCond := none
  conj : Option SqlCond := none
  pos : CondPos := .start
  frames : List Frame := []
  deriving Repr

def CondState.complete (c : CondState) (a : SqlCond) : CondState :=
  { c with conj := some (SqlCond.andOpt c.conj a), pos := .done }

/-- A `)` closes the innermost level: a group joins the level around it, a sub-select its `ANY`. -/
def CondState.close (c : CondState) : Option CondState :=
  match c.frames, c.conj with
  | f :: fs, some x =>
    let r := SqlCond.orOpt c.disj x
    let a := match f.kind with
      | .group => r
      | .subSelect lhs col tbl => .inSelect lhs col tbl r
      | .scalar op lhs col tbl => .cmpSelect op lhs col tbl r
    some { disj := f.disj, conj := some (SqlCond.andOpt f.conj a), pos := .done, frames := fs }
  | _, _ => none

def operandStep (c : CondState) (op : SqlOp) (lhs : String) : SqlToken → Option CondState
  | .sym '$' => some { c with pos := .operandDollar op lhs }
  | .sym '(' => some { c with pos := .scalarOpen op lhs }
  | .word s => some (c.complete (.cmp op lhs (.ofWord s)))
  | _ => none

/-- One token of a condition. -/
def condStep (c : CondState) (t : SqlToken) : Option CondState :=
  match c.pos, t with
  | .start, .word s => some { c with pos := .column s }
  | .start, .sym '(' =>
    some ⟨none, none, .start, ⟨.group, c.disj, c.conj⟩ :: c.frames⟩
  | .column lhs, .sym '=' => some { c with pos := .equals lhs }
  | .column lhs, .sym '<' => some { c with pos := .less lhs }
  | .column lhs, .sym '>' => some { c with pos := .greater lhs }
  | .less lhs, .sym '=' => some { c with pos := .operand .le lhs }
  | .less lhs, t => operandStep c .lt lhs t
  | .greater lhs, .sym '=' => some { c with pos := .operand .ge lhs }
  | .greater lhs, t => operandStep c .gt lhs t
  | .operand op lhs, t => operandStep c op lhs t
  | .operandDollar op lhs, .word n => some (c.complete (.cmp op lhs (.param n)))
  | .equals lhs, .sym '$' => some { c with pos := .dollar lhs }
  | .equals lhs, .kw "ANY" => some { c with pos := .any lhs }
  | .equals lhs, .sym '(' => some { c with pos := .scalarOpen .eq lhs }
  | .equals lhs, .word s => some (c.complete (.eq lhs (.ofWord s)))
  | .scalarOpen op lhs, .kw "SELECT" => some { c with pos := .scalarSelect op lhs }
  | .scalarSelect op lhs, .word w => some { c with pos := .scalarWord op lhs w }
  | .scalarWord op lhs col, .kw "FROM" => some { c with pos := .scalarFrom op lhs col }
  | .scalarFrom op lhs col, .word tbl => some { c with pos := .scalarTable op lhs col tbl }
  | .scalarTable op lhs col tbl, .kw "WHERE" =>
    some ⟨none, none, .start, ⟨.scalar op lhs col tbl, c.disj, c.conj⟩ :: c.frames⟩
  | .scalarWord op lhs fn, .sym '(' => some { c with pos := .callOpen op lhs fn }
  | .callOpen op lhs fn, .word arg => some { c with pos := .callArg op lhs fn arg }
  | .callArg op lhs fn arg, .sym ')' => some { c with pos := .callClosed op lhs fn arg }
  | .callClosed op lhs fn arg, .sym ')' => some (c.complete (.compare op lhs (.call fn arg)))
  | .dollar lhs, .word n => some (c.complete (.eq lhs (.param n)))
  | .any lhs, .sym '(' => some { c with pos := .anyOpen lhs }
  | .anyOpen lhs, .sym '$' => some { c with pos := .anyDollar lhs }
  | .anyOpen lhs, .kw "SELECT" => some { c with pos := .select lhs }
  | .anyDollar lhs, .word n => some { c with pos := .anyParam lhs n 0 }
  | .anyParam lhs n 0, .sym ')' => some (c.complete (.eqAny lhs n))
  | .anyParam lhs n (k + 1), .sym ')' => some { c with pos := .anyParam lhs n k }
  | .anyParam lhs n k, .sym '(' => some { c with pos := .anyParam lhs n (k + 1) }
  | .anyParam _ _ _, .sym ':' | .anyParam _ _ _, .sym '[' | .anyParam _ _ _, .sym ']'
  | .anyParam _ _ _, .kw _ | .anyParam _ _ _, .word _ => some c
  | .select lhs, .word col => some { c with pos := .selectColumn lhs col }
  | .selectColumn lhs col, .kw "FROM" => some { c with pos := .selectFrom lhs col }
  | .selectFrom lhs col, .word tbl => some { c with pos := .selectTable lhs col tbl }
  | .selectTable lhs col tbl, .kw "WHERE" =>
    some ⟨none, none, .start, ⟨.subSelect lhs col tbl, c.disj, c.conj⟩ :: c.frames⟩
  | .done, .kw "AND" => some { c with pos := .start }
  | .done, .kw "OR" => c.conj.map fun x =>
    { c with disj := some (SqlCond.orOpt c.disj x), conj := none, pos := .start }
  | .done, .sym ')' => c.close
  | _, _ => none

/-- Where the parser stands in a query. -/
inductive SqlParse where
  | start
  /-- In the select list, with `depth` parentheses open. -/
  | selectList (depth : ℕ)
  | fromTable (tables : List String)
  | afterTable (tables : List String)
  | inner (tables : List String)
  | joinTable (tables : List String)
  | joined (tables : List String)
  /-- In the condition; `inOn` while it is an `ON` condition a `WHERE` may follow. -/
  | cond (tables : List String) (inOn : Bool) (c : CondState)
  | order (tables : List String) (cond : SqlCond)
  | orderBy (tables : List String) (cond : SqlCond)
  /-- After `ORDER BY col`, and `DESC` when `descending`. -/
  | ordered (tables : List String) (cond : SqlCond) (col : String) (descending : Bool)
  | limit (tables : List String) (cond : SqlCond) (col : String) (descending : Bool)
  | limited (tables : List String) (cond : SqlCond) (col : String) (descending : Bool) (n : ℕ)
  | failed
  deriving Repr

/-- One token of a query. -/
def parseStep : SqlParse → SqlToken → SqlParse
  | .start, .kw "SELECT" => .selectList 0
  | .selectList 0, .kw "FROM" => .fromTable []
  | .selectList d, .sym '(' => .selectList (d + 1)
  | .selectList (d + 1), .sym ')' => .selectList d
  | .selectList 0, .sym ')' => .failed
  | .selectList d, _ => .selectList d
  | .fromTable ts, .word t => .afterTable (ts ++ [t])
  | .afterTable ts, .sym ',' => .fromTable ts
  | .afterTable ts, .kw "INNER" => .inner ts
  | .afterTable ts, .kw "WHERE" => .cond ts false {}
  | .inner ts, .kw "JOIN" => .joinTable ts
  | .joinTable ts, .word t => .joined (ts ++ [t])
  | .joined ts, .kw "ON" => .cond ts true {}
  | .cond ts inOn c, .kw "WHERE" =>
    match c.pos, c.frames, inOn with
    | .done, [], true => .cond ts false { c with pos := .start }
    | _, _, _ => ((condStep c (.kw "WHERE")).map (.cond ts inOn)).getD .failed
  | .cond ts inOn c, .kw "ORDER" =>
    match inOn, c.pos, c.frames, c.conj with
    | false, .done, [], some x => .order ts (SqlCond.orOpt c.disj x)
    | _, _, _, _ => .failed
  | .cond ts inOn c, t => ((condStep c t).map (.cond ts inOn)).getD .failed
  | .order ts c, .kw "BY" => .orderBy ts c
  | .orderBy ts c, .word col => .ordered ts c col false
  | .ordered ts c col false, .kw "DESC" => .ordered ts c col true
  | .ordered ts c col d, .kw "LIMIT" => .limit ts c col d
  | .limit ts c col d, .word n => .limited ts c col d (decimalValue n.data)
  | _, _ => .failed

/-- The parser run over tokens. -/
def parseRun (st : SqlParse) (ts : List SqlToken) : SqlParse := ts.foldl parseStep st

def finishParse : SqlParse → Option SqlSelect
  | .cond ts false ⟨d, some x, .done, []⟩ => some ⟨ts, SqlCond.orOpt d x, none, false, none⟩
  | .ordered ts c col d => some ⟨ts, c, some col, d, none⟩
  | .limited ts c col d n => some ⟨ts, c, some col, d, some n⟩
  | _ => none

/-- The query a text reads as. -/
def parseSql (s : String) : Option SqlSelect := finishParse (parseRun .start (lex s))

example : parseSql "SELECT a FROM eth.t WHERE t.x = $1 AND (t.y = ANY ($2::INT[]) OR t.z = 2)" =
    some ⟨["eth.t"], .and (.eq "t.x" (.param "1")) (.or (.eqAny "t.y" "2")
      (.eq "t.z" (.numeral "2"))), none, false, none⟩ := by
  decide

example : parseSql ("SELECT a FROM eth.t, eth.h WHERE t.n <= (SELECT n FROM eth.h WHERE k = $1) " ++
    "AND h.id = (SELECT f(n)) ORDER BY n DESC LIMIT 1") =
    some ⟨["eth.t", "eth.h"], .and (.cmpSelect .le "t.n" "n" "eth.h" (.eq "k" (.param "1")))
      (.eq "h.id" (.call "f" "n")), some "n", true, some 1⟩ := by
  decide

example : parseSql "SELECT a FROM eth.t WHERE AND t.x = $1" = none := by decide

end IpldEthServer

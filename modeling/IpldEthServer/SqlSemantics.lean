import IpldEthServer.SqlParser
import IpldEthServer.SqlText

/-! What a parsed query selects, written for the proofs (no source counterpart): the `FROM`
tables are opened in the index left to right, every name the condition uses is resolved as
PostgreSQL resolves it, level by level from a sub-select's table outwards, and the condition is
evaluated on each combination of rows, in nested-loop order, which `ORDER BY` then sorts and
`LIMIT` cuts. The first error, in the order PostgreSQL analyses the query, is reported under its
PostgreSQL condition. Narrowings: the select list is not read (a run returns the joined rows);
a comparison with `NULL`, or between values of two kinds, is false, which on conditions of
`AND`, `OR` and comparisons alone selects the rows SQL's three-valued logic selects; an order
comparison holds between integers only; a scalar sub-query is run once on its own table before
any row is read, as an uncorrelated one is, and several rows from it are an error even when no
row reaches it. -/
namespace IpldEthServer

/-- A value a column holds. -/
inductive SqlValue where
  | null
  | int (n : ℤ)
  | text (s : String)
  | bytes (b : List UInt8)
  deriving DecidableEq, Repr

/-- `=` on values: true between equal values of one kind only. -/
def SqlValue.eqv : SqlValue → SqlValue → Bool
  | .int a, .int b => a == b
  | .text a, .text b => a == b
  | .bytes a, .bytes b => a == b
  | _, _ => false

/-- `v op w`: `=` as `eqv`, an order comparison between integers only. -/
def SqlValue.cmp : SqlOp → SqlValue → SqlValue → Bool
  | .eq, v, w => v.eqv w
  | .lt, .int a, .int b => decide (a < b)
  | .le, .int a, .int b => decide (a ≤ b)
  | .gt, .int a, .int b => decide (b < a)
  | .ge, .int a, .int b => decide (b ≤ a)
  | _, _, _ => false

/-- A table of the index as a query sees it. -/
structure SqlTable where
  «schema» : String
  name : String
  columns : List String
  rows : List (String → SqlValue)

def SqlTable.qualified (t : SqlTable) : String := t.schema ++ "." ++ t.name

/-- An index as a query sees it: its tables, and its functions of one value. -/
structure SqlDb where
  tables : List SqlTable
  functions : List (String × (SqlValue → SqlValue)) := []

/-- The table a `FROM` entry names, by `schema.name` or by name. -/
def SqlDb.lookup (db : SqlDb) (name : String) : Option SqlTable :=
  db.tables.find? fun t => t.qualified == name || t.name == name

def SqlDb.function (db : SqlDb) (name : String) : Option (SqlValue → SqlValue) :=
  (db.functions.find? fun f => f.1 == name).map Prod.snd

/-- A row in scope: its table and its values by column. -/
abbrev Scope := List (SqlTable × (String → SqlValue))

def refStep (acc : List Char × List Char) (c : Char) : List Char × List Char :=
  if c = '.' then (acc.1 ++ acc.2 ++ ['.'], []) else (acc.1, acc.2 ++ [c])

/-- A column reference split at its last dot: its qualifier (empty when bare) and column. -/
def splitRef (ref : String) : String × String :=
  let r := ref.data.foldl refStep ([], [])
  (⟨r.1.dropLast⟩, ⟨r.2⟩)

/-- Whether a qualifier names `t`: none, its name, or `schema.name`. -/
def SqlTable.answers (t : SqlTable) (qual : String) : Bool :=
  qual == "" || qual == t.name || qual == t.qualified

def SqlTable.names (t : SqlTable) (qual col : String) : Bool :=
  t.answers qual && t.columns.contains col

/-- The value a reference names in scope: the first row whose table has the column. -/
def resolve (sc : Scope) (ref : String) : Option SqlValue :=
  ((sc.find? fun e => e.1.names (splitRef ref).1 (splitRef ref).2).map fun e =>
    e.2 (splitRef ref).2)

/-- The tables a reference may name: those its qualifier names, or those with its column when bare.
-/
def SqlTable.candidate (t : SqlTable) (qual col : String) : Bool :=
  if qual = "" then t.columns.contains col else t.answers qual

/-- What SQL reports for a reference, searched level by level from the innermost one. -/
def refError : List (List SqlTable) → String → Option SqlError
  | [], ref => some (if (splitRef ref).1 = "" then .undefinedColumn ref
      else .undefinedTable (splitRef ref).1)
  | ts :: ls, ref =>
    match ts.filter fun t => t.candidate (splitRef ref).1 (splitRef ref).2 with
    | [] => refError ls ref
    | [t] => if t.columns.contains (splitRef ref).2 then none else some (.undefinedColumn ref)
    | _ :: _ :: _ => some (if (splitRef ref).1 = "" then .ambiguousColumn ref
        else .ambiguousAlias (splitRef ref).1)

theorem foldl_refStep_of_not_dot {cs : List Char} (h : '.' ∉ cs) (acc : List Char × List Char) :
    cs.foldl refStep acc = (acc.1, acc.2 ++ cs) := by
  induction cs generalizing acc with
  | nil => simp
  | cons c cs ih =>
    simp only [List.mem_cons, not_or] at h
    rw [List.foldl_cons, refStep, if_neg (Ne.symm h.1), ih h.2]
    simp

theorem splitRef_append_of_not_dot (ref s : String) (h : '.' ∉ s.data) :
    splitRef (ref ++ s) = ((splitRef ref).1, (splitRef ref).2 ++ s) := by
  simp only [splitRef, String.data_append, List.foldl_append, foldl_refStep_of_not_dot h]
  rfl

theorem resolve_cons (t : SqlTable) (row : String → SqlValue) (sc : Scope) (ref : String) :
    resolve ((t, row) :: sc) ref =
      if t.names (splitRef ref).1 (splitRef ref).2 then some (row (splitRef ref).2)
      else resolve sc ref := by
  simp only [resolve, List.find?_cons]
  split <;> simp_all

theorem resolve_of_not_answers {sc : Scope} {ref : String}
    (h : ∀ e ∈ sc, e.1.answers (splitRef ref).1 = false) : resolve sc ref = none := by
  induction sc with
  | nil => rfl
  | cons e sc ih =>
    rw [← Prod.mk.eta (p := e), resolve_cons, SqlTable.names, h e (List.mem_cons_self _ _),
      Bool.false_and, if_neg Bool.false_ne_true]
    exact ih fun e' he' => h e' (List.mem_cons_of_mem _ he')

/-- A qualified reference binds to the one table of its level its qualifier names. -/
theorem refError_of_answers {ts : List SqlTable} {t : SqlTable} {ref : String}
    (ls : List (List SqlTable)) (hq : (splitRef ref).1 ≠ "")
    (h : ts.filter (·.answers (splitRef ref).1) = [t]) :
    refError (ts :: ls) ref =
      if t.columns.contains (splitRef ref).2 then none else some (.undefinedColumn ref) := by
  simp only [refError, SqlTable.candidate, if_neg hq, h]

/-- A bare reference that two tables of the innermost level both have is ambiguous. -/
theorem refError_ambiguous {ts rest : List SqlTable} {t₁ t₂ : SqlTable} {ref : String}
    (ls : List (List SqlTable)) (hq : (splitRef ref).1 = "")
    (h : ts.filter (·.columns.contains (splitRef ref).2) = t₁ :: t₂ :: rest) :
    refError (ts :: ls) ref = some (.ambiguousColumn ref) := by
  simp only [refError, SqlTable.candidate, hq, if_true, h]

theorem digitChar_toNat_sub {k : ℕ} (hk : k < 10) : (Nat.digitChar k).toNat - '0'.toNat = k := by
  interval_cases k <;> rfl

theorem decimalValue_toDigitsCore : ∀ (fuel n : ℕ) (ds : List Char), n < fuel →
    (Nat.toDigitsCore 10 fuel n ds).foldl (fun n c => 10 * n + (c.toNat - '0'.toNat)) 0 =
      ds.foldl (fun n c => 10 * n + (c.toNat - '0'.toNat)) n
  | 0, _, _, h => absurd h (Nat.not_lt_zero _)
  | fuel + 1, n, ds, h => by
    rw [Nat.toDigitsCore]
    split
    · next h0 =>
      rw [List.foldl_cons, digitChar_toNat_sub (Nat.mod_lt _ (by omega))]
      congr 1
      omega
    · rw [decimalValue_toDigitsCore fuel (n / 10) _ (by omega), List.foldl_cons,
        digitChar_toNat_sub (Nat.mod_lt _ (by omega)), Nat.div_add_mod]

@[simp] theorem decimalValue_toString (n : ℕ) : decimalValue (toString n).data = n :=
  decimalValue_toDigitsCore (n + 1) n [] (Nat.lt_succ_self n)

/-- The argument `$n` binds: the `n`-th, counting from one. -/
def paramArg (args : List SqlArg) (n : String) : Option SqlArg :=
  match decimalValue n.data with
  | 0 => none
  | k + 1 => (args.drop k).head?

def SqlArg.value : SqlArg → Option SqlValue
  | .int n => some (.int n)
  | .text s => some (.text s)
  | .array _ => none

def SqlTerm.value (db : SqlDb) (sc : Scope) (args : List SqlArg) : SqlTerm → Option SqlValue
  | .column ref => resolve sc ref
  | .param n => (paramArg args n).bind SqlArg.value
  | .numeral s => some (.int (decimalValue s.data))
  | .call fn arg => (db.function fn).bind fun f => (resolve sc arg).map f

/-- Whether a condition holds on the rows in scope. -/
def SqlCond.eval (db : SqlDb) (args : List SqlArg) : Scope → SqlCond → Bool
  | sc, .eq lhs rhs =>
    match resolve sc lhs, rhs.value db sc args with
    | some v, some w => v.eqv w
    | _, _ => false
  | sc, .eqAny lhs n =>
    match resolve sc lhs, paramArg args n with
    | some (.text v), some (.array set) => set.contains v
    | _, _ => false
  | sc, .inSelect lhs col tbl c =>
    match resolve sc lhs, db.lookup tbl with
    | some v, some t => t.rows.any fun row =>
      c.eval db args ((t, row) :: sc) && ((resolve ((t, row) :: sc) col).map v.eqv).getD false
    | _, _ => false
  | sc, .and a b => a.eval db args sc && b.eval db args sc
  | sc, .or a b => a.eval db args sc || b.eval db args sc
  | sc, .cmp op lhs rhs =>
    match resolve sc lhs, rhs.value db sc args with
    | some v, some w => v.cmp op w
    | _, _ => false
  | sc, .cmpSelect op lhs col tbl c =>
    match resolve sc lhs, db.lookup tbl with
    | some v, some t =>
      match t.rows.find? fun row => c.eval db args ((t, row) :: sc) with
      | some row => ((resolve ((t, row) :: sc) col).map (v.cmp op)).getD false
      | none => false
    | _, _ => false

/-- The first error of the names a right side uses: a function's argument before the function. -/
def SqlTerm.unresolved (db : SqlDb) (ls : List (List SqlTable)) : SqlTerm → Option SqlError
  | .column ref => refError ls ref
  | .call fn arg =>
    refError ls arg <|> if (db.function fn).isSome then none else some (.undefinedFunction fn)
  | _ => none

/-- The first error of a condition's names, as PostgreSQL analyses them; `x IN (SELECT …)` does its
sub-select first. -/
def SqlCond.unresolved (db : SqlDb) : List (List SqlTable) → SqlCond → Option SqlError
  | ls, .eq lhs rhs => refError ls lhs <|> rhs.unresolved db ls
  | ls, .eqAny lhs _ => refError ls lhs
  | ls, .inSelect lhs col tbl c =>
    (match db.lookup tbl with
      | none => some (.undefinedTable tbl)
      | some t => refError ([t] :: ls) col <|> c.unresolved db ([t] :: ls)) <|>
      refError ls lhs
  | ls, .and a b => a.unresolved db ls <|> b.unresolved db ls
  | ls, .or a b => a.unresolved db ls <|> b.unresolved db ls
  | ls, .cmp _ lhs rhs => refError ls lhs <|> rhs.unresolved db ls
  | ls, .cmpSelect _ lhs col tbl c =>
    refError ls lhs <|>
      match db.lookup tbl with
      | none => some (.undefinedTable tbl)
      | some t => refError ([t] :: ls) col <|> c.unresolved db ([t] :: ls)

/-- Whether a scalar sub-query of a condition selects several rows. -/
def SqlCond.manyRows (db : SqlDb) (args : List SqlArg) : SqlCond → Bool
  | .cmpSelect _ _ _ tbl c =>
    (match db.lookup tbl with
      | some t => decide (1 < (t.rows.filter fun row => c.eval db args [(t, row)]).length)
      | none => false) || c.manyRows db args
  | .inSelect _ _ _ c => c.manyRows db args
  | .and a b => a.manyRows db args || b.manyRows db args
  | .or a b => a.manyRows db args || b.manyRows db args
  | _ => false

@[simp] theorem SqlCond.eval_and (db : SqlDb) (args : List SqlArg) (sc : Scope) (a b : SqlCond) :
    (SqlCond.and a b).eval db args sc = (a.eval db args sc && b.eval db args sc) := rfl

@[simp] theorem SqlCond.manyRows_and (db : SqlDb) (args : List SqlArg) (a b : SqlCond) :
    (SqlCond.and a b).manyRows db args = (a.manyRows db args || b.manyRows db args) := rfl

@[simp] theorem SqlCond.manyRows_eq (db : SqlDb) (args : List SqlArg) (lhs : String)
    (rhs : SqlTerm) : (SqlCond.eq lhs rhs).manyRows db args = false := rfl

/-- The rows of a `FROM` list, one scope per combination, in nested-loop order. -/
def crossRows : List SqlTable → List Scope
  | [] => [[]]
  | t :: ts => t.rows.flatMap fun row => (crossRows ts).map ((t, row) :: ·)

def orderKey (col : String) (sc : Scope) : ℕ :=
  match resolve sc col with
  | some (.int n) => n.toNat
  | _ => 0

/-- The rows of a result sorted as its `ORDER BY` asks, then cut as its `LIMIT` asks. -/
def SqlSelect.arrange (sel : SqlSelect) (rows : List Scope) : List Scope :=
  let sorted := match sel.orderBy with
    | some col =>
      if sel.descending then orderByDesc (orderKey col) rows
      else IpldEthServer.orderBy (orderKey col) rows
    | none => rows
  match sel.limit with
  | some n => sorted.take n
  | none => sorted

/-- The `FROM` list opened left to right: a name the index lacks, or a table opened twice, is an
error. -/
def SqlDb.openFrom (db : SqlDb) (opened : List SqlTable) :
    List String → Except SqlError (List SqlTable)
  | [] => .ok []
  | n :: ns =>
    match db.lookup n with
    | none => .error (.undefinedTable n)
    | some t =>
      if opened.any (·.qualified == t.qualified) then .error (.duplicateAlias t.name)
      else (t :: ·) <$> db.openFrom (opened ++ [t]) ns

theorem SqlDb.openFrom_cons {db : SqlDb} {opened : List SqlTable} {n : String} {ns : List String}
    {t : SqlTable} (hl : db.lookup n = some t)
    (ho : opened.any (·.qualified == t.qualified) = false) :
    db.openFrom opened (n :: ns) = (t :: ·) <$> db.openFrom (opened ++ [t]) ns := by
  simp only [SqlDb.openFrom, hl, ho, Bool.false_eq_true, if_false]

theorem SqlDb.openFrom_cons_opened {db : SqlDb} {opened : List SqlTable} {n : String}
    {ns : List String} {t : SqlTable} (hl : db.lookup n = some t)
    (ho : opened.any (·.qualified == t.qualified) = true) :
    db.openFrom opened (n :: ns) = .error (.duplicateAlias t.name) := by
  simp only [SqlDb.openFrom, hl, ho, if_true]

/-- Running a parsed query: its rows, sorted and cut, or the first error of its `FROM` list or
names. -/
def SqlSelect.run (db : SqlDb) (args : List SqlArg) (sel : SqlSelect) :
    Except SqlError (List Scope) :=
  match db.openFrom [] sel.tables with
  | .error e => .error e
  | .ok ts =>
    match sel.cond.unresolved db [ts] with
    | some e => .error e
    | none =>
      if sel.cond.manyRows db args then .error .subqueryMultipleRows
      else .ok (sel.arrange ((crossRows ts).filter fun sc => sel.cond.eval db args sc))

theorem SqlSelect.run_of_openFrom_error {db : SqlDb} {args : List SqlArg} {sel : SqlSelect}
    {e : SqlError} (h : db.openFrom [] sel.tables = .error e) : sel.run db args = .error e := by
  simp only [SqlSelect.run, h]

theorem SqlSelect.run_of_unresolved {db : SqlDb} {args : List SqlArg} {sel : SqlSelect}
    {ts : List SqlTable} {e : SqlError} (hts : db.openFrom [] sel.tables = .ok ts)
    (h : sel.cond.unresolved db [ts] = some e) : sel.run db args = .error e := by
  simp only [SqlSelect.run, hts, h]

/-- `tx.Get` on a parsed query: the first row it returns, or `sql.ErrNoRows`. -/
def SqlSelect.get (db : SqlDb) (args : List SqlArg) (sel : SqlSelect) : Except SqlError Scope :=
  match sel.run db args with
  | .ok (sc :: _) => .ok sc
  | .ok [] => .error .noRows
  | .error e => .error e

/-- The values of the first table's row of a scope: the row a query over a join returns. -/
def Scope.first : Scope → String → SqlValue
  | (_, row) :: _ => row
  | [] => fun _ => .null

end IpldEthServer

import IpldEthServer.SqlText
import Mathlib.Data.Nat.Digits

namespace IpldEthServer

/-- A token of an SQL text: a name or number, a keyword (a word all in capitals), or a symbol. -/
inductive SqlToken where
  | word (s : String)
  | kw (s : String)
  | sym (c : Char)
  deriving DecidableEq, Repr

/-- Characters that continue a word: letters, digits, `_` and `.`. -/
def wordChar (c : Char) : Bool := c.isAlphanum || c == '_' || c == '.'

def sqlSpace (c : Char) : Bool := c == ' ' || c == '\t' || c == '\n'

def flushWord : List Char → List SqlToken
  | [] => []
  | c :: cs => [if (c :: cs).all Char.isUpper then .kw ⟨c :: cs⟩ else .word ⟨c :: cs⟩]

@[simp] theorem flushWord_nil : flushWord [] = [] := rfl

/-- The lexer from pending word `w`: the tokens completed on `cs`, and the word pending at its end.
-/
def lexRun : List Char → List Char → List SqlToken × List Char
  | w, [] => ([], w)
  | w, c :: cs =>
    if wordChar c then lexRun (w ++ [c]) cs
    else
      let r := lexRun [] cs
      (flushWord w ++ (if sqlSpace c then [] else [.sym c]) ++ r.1, r.2)

/-- The tokens of a text. -/
def lex (s : String) : List SqlToken :=
  let r := lexRun [] s.data
  r.1 ++ flushWord r.2

theorem lexRun_cons_of_wordChar {c : Char} (hc : wordChar c) (w cs : List Char) :
    lexRun w (c :: cs) = lexRun (w ++ [c]) cs := by
  rw [lexRun, if_pos hc]

theorem lexRun_cons_of_not_wordChar {c : Char} (hc : wordChar c = false) (w cs : List Char) :
    lexRun w (c :: cs) =
      (flushWord w ++ (if sqlSpace c then [] else [.sym c]) ++ (lexRun [] cs).1, (lexRun [] cs).2) := by
  rw [lexRun, if_neg (by simp [hc])]

theorem lexRun_append (a b : List Char) : ∀ w, lexRun w (a ++ b) =
    ((lexRun w a).1 ++ (lexRun (lexRun w a).2 b).1, (lexRun (lexRun w a).2 b).2) := by
  induction a with
  | nil => intro w; rfl
  | cons c a ih =>
    intro w
    cases hc : wordChar c
    · simp only [List.cons_append, lexRun_cons_of_not_wordChar hc, ih, List.append_assoc]
    · simp only [List.cons_append, lexRun_cons_of_wordChar hc, ih]

theorem lexRun_of_wordChars {ds : List Char} (h : ∀ c ∈ ds, wordChar c) :
    ∀ w, lexRun w ds = ([], w ++ ds) := by
  induction ds with
  | nil => intro w; simp [lexRun]
  | cons c ds ih =>
    intro w
    rw [lexRun_cons_of_wordChar (h c (List.mem_cons_self _ _)),
      ih fun c hc => h c (List.mem_cons_of_mem _ hc), List.append_assoc, List.singleton_append]

/-- A text that starts between words is lexed alone. -/
theorem lex_append (a b : String) {c : Char} (hb : b.data.head? = some c)
    (hc : wordChar c = false) : lex (a ++ b) = lex a ++ lex b := by
  obtain ⟨cs, hcs⟩ : ∃ cs, b.data = c :: cs := by
    cases h : b.data with
    | nil => simp [h] at hb
    | cons d cs => simp only [h, List.head?_cons, Option.some.injEq] at hb; exact ⟨cs, hb ▸ rfl⟩
  simp only [lex, String.data_append, lexRun_append, hcs, lexRun_cons_of_not_wordChar hc,
    flushWord, List.append_assoc, List.nil_append]

def decimalDigits : List Char := ['0', '1', '2', '3', '4', '5', '6', '7', '8', '9']

theorem digitChar_mem_decimalDigits (n : ℕ) : Nat.digitChar (n % 10) ∈ decimalDigits := by
  have h : ∀ m < 10, Nat.digitChar m ∈ decimalDigits := by decide
  exact h _ (Nat.mod_lt _ (by decide))

theorem toDigitsCore_decimal : ∀ (f n : ℕ) (l : List Char), ∃ d ds,
    Nat.toDigitsCore 10 (f + 1) n l = d :: ds ++ l ∧ ∀ c ∈ d :: ds, c ∈ decimalDigits
  | 0, n, l => ⟨Nat.digitChar (n % 10), [], by simp [Nat.toDigitsCore],
      by simp [digitChar_mem_decimalDigits]⟩
  | f + 1, n, l => by
    rw [Nat.toDigitsCore]
    split
    · exact ⟨_, [], rfl, by simp [digitChar_mem_decimalDigits]⟩
    · obtain ⟨d, ds, h, hd⟩ := toDigitsCore_decimal f (n / 10) (Nat.digitChar (n % 10) :: l)
      refine ⟨d, ds ++ [Nat.digitChar (n % 10)], by simp [h], fun c hc => ?_⟩
      simp only [List.mem_cons, List.mem_append, List.not_mem_nil, or_false] at hc
      rcases hc with rfl | hc | rfl
      · exact hd _ (List.mem_cons_self _ _)
      · exact hd _ (List.mem_cons_of_mem _ hc)
      · exact digitChar_mem_decimalDigits n

/-- A numeral is one word: it is not empty, and its characters are digits. -/
theorem toString_data_decimal (n : ℕ) :
    ∃ d ds, (toString n).data = d :: ds ∧ ∀ c ∈ d :: ds, c ∈ decimalDigits := by
  obtain ⟨d, ds, h, hd⟩ := toDigitsCore_decimal n n []
  exact ⟨d, ds, by rw [List.append_nil] at h; exact h, hd⟩

/-- A text of word characters that does not start with a capital is one name. -/
theorem lex_of_name {s : String} {c : Char} {cs : List Char} (hs : s.data = c :: cs)
    (hc : c.isUpper = false) (h : ∀ d ∈ c :: cs, wordChar d) : lex s = [.word s] := by
  obtain ⟨l⟩ := s
  subst hs
  simp only [lex, lexRun_of_wordChars h, List.nil_append, flushWord, List.all_cons, hc,
    Bool.false_and, Bool.false_eq_true, if_false]

theorem lex_cons_of_sqlSpace {s t : String} (hs : s.data = ' ' :: t.data) : lex s = lex t := by
  simp only [lex, hs, lexRun_cons_of_not_wordChar (c := ' ') rfl, flushWord_nil, List.nil_append]
  rfl

theorem decimalDigits_wordChar : ∀ c ∈ decimalDigits, wordChar c ∧ c.isUpper = false := by
  decide

theorem lex_toString (n : ℕ) : lex (toString n) = [.word (toString n)] := by
  obtain ⟨d, ds, h, hd⟩ := toString_data_decimal n
  exact lex_of_name h (decimalDigits_wordChar d (hd d (List.mem_cons_self _ _))).2
    fun c hc => (decimalDigits_wordChar c (hd c hc)).1

/-- A numeral after a text that ends between words is one more word. -/
theorem lex_append_toString {s : String} (hs : (lexRun [] s.data).2 = []) (n : ℕ) :
    lex (s ++ toString n) = lex s ++ [.word (toString n)] := by
  obtain ⟨d, ds, h, hd⟩ := toString_data_decimal n
  have hw : ∀ c ∈ (toString n).data, wordChar c := by
    rw [h]; exact fun c hc => (decimalDigits_wordChar c (hd c hc)).1
  have hn := lex_toString n
  simp only [lex, lexRun_of_wordChars hw, List.nil_append] at hn
  simp only [lex, String.data_append, lexRun_append, hs, lexRun_of_wordChars hw, List.nil_append,
    List.append_nil, hn, flushWord_nil]

/-- What a token means to the connective rules: a condition may follow it, an `OR`, a name, a `$`,
or other. -/
inductive TokenRole where
  | opener
  | disjunction
  | name
  | dollar
  | other
  deriving DecidableEq, Repr

def TokenRole.awaitsCondition : TokenRole → Bool
  | .opener | .disjunction => true
  | _ => false

def SqlToken.role : SqlToken → TokenRole
  | .kw "WHERE" | .kw "ON" | .kw "AND" | .sym '(' => .opener
  | .kw "OR" => .disjunction
  | .word _ => .name
  | .sym '$' => .dollar
  | _ => .other

/-- The scanner's state: the last two roles, the last name, the last comparison's column, open
parentheses. -/
structure ScanState where
  before : TokenRole := .other
  last : TokenRole := .opener
  candidate : String := ""
  column : String := ""
  depth : ℕ := 0
  deriving DecidableEq, Repr

inductive SqlEvent where
  /-- The placeholder `$n`, in a comparison on `column`. -/
  | placeholder (column n : String)
  /-- A comparison on `column` joined by `OR`. -/
  | alternative (column : String)
  /-- A connective with no condition before it, or a comparison with no connective before it. -/
  | misplaced
  /-- A `)` with no `(` open. -/
  | unbalanced
  deriving DecidableEq, Repr

/-- The reports of one token: a comparison must follow a connective, and a connective must not. -/
def scanEvents (st : ScanState) : SqlToken → List SqlEvent
  | .kw "AND" | .kw "OR" | .kw "ORDER" => if st.last.awaitsCondition then [.misplaced] else []
  | .sym ')' =>
    (if st.last.awaitsCondition then [.misplaced] else []) ++
      (if st.depth = 0 then [.unbalanced] else [])
  | .sym '=' =>
    match st.last, st.before with
    | .name, .opener => []
    | .name, .disjunction => [.alternative st.candidate]
    | _, _ => [.misplaced]
  | .word s => if st.last = .dollar then [.placeholder st.column s] else []
  | _ => []

def scanNext (st : ScanState) (t : SqlToken) : ScanState where
  before := st.last
  last := t.role
  candidate := match t with
    | .word s => s
    | _ => st.candidate
  column := match t with
    | .sym '=' => st.candidate
    | _ => st.column
  depth := match t with
    | .sym '(' => st.depth + 1
    | .sym ')' => st.depth - 1
    | _ => st.depth

/-- The scanner from state `st`: the reports on `ts` and the state it ends in. -/
def scanRun : ScanState → List SqlToken → List SqlEvent × ScanState
  | st, [] => ([], st)
  | st, t :: ts =>
    let r := scanRun (scanNext st t) ts
    (scanEvents st t ++ r.1, r.2)

@[simp] theorem scanRun_nil (st : ScanState) : scanRun st [] = ([], st) := rfl

theorem scanRun_cons (st : ScanState) (t : SqlToken) (ts : List SqlToken) :
    scanRun st (t :: ts) =
      (scanEvents st t ++ (scanRun (scanNext st t) ts).1, (scanRun (scanNext st t) ts).2) := rfl

theorem scanRun_append (a b : List SqlToken) : ∀ st, scanRun st (a ++ b) =
    ((scanRun st a).1 ++ (scanRun (scanRun st a).2 b).1, (scanRun (scanRun st a).2 b).2) := by
  induction a with
  | nil => intro st; rfl
  | cons t a ih => intro st; simp only [List.cons_append, scanRun_cons, ih, List.append_assoc]

theorem scanEvents_kw (st : ScanState) (h : st.last.awaitsCondition = false) (k : String) :
    scanEvents st (.kw k) = [] := by
  unfold scanEvents; split <;> simp_all

theorem SqlToken.role_kw_ne_name (k : String) : (SqlToken.kw k).role ≠ .name := by
  unfold SqlToken.role; split <;> simp_all

theorem scanEvents_before {l : TokenRole} (hl : l ≠ .name) (b b' : TokenRole) (cand col : String)
    (d : ℕ) (t : SqlToken) :
    scanEvents ⟨b, l, cand, col, d⟩ t = scanEvents ⟨b', l, cand, col, d⟩ t := by
  cases l <;> first | rfl | exact absurd rfl hl

theorem scanRun_before {l : TokenRole} (hl : l ≠ .name) (b b' : TokenRole) (cand col : String)
    (d : ℕ) (t : SqlToken) (ts : List SqlToken) :
    scanRun ⟨b, l, cand, col, d⟩ (t :: ts) = scanRun ⟨b', l, cand, col, d⟩ (t :: ts) := by
  rw [scanRun_cons, scanRun_cons, scanEvents_before hl b b']
  rfl

/-- Reading a text from scanner state `st`. -/
def readFrom (st : ScanState) (s : String) : List SqlEvent × ScanState := scanRun st (lex s)

/-- A text that starts between words is read from where the text before it left the scanner. -/
theorem readFrom_append (st : ScanState) (a b : String) {c : Char}
    (hb : b.data.head? = some c) (hc : wordChar c = false) :
    readFrom st (a ++ b) =
      ((readFrom st a).1 ++ (readFrom (readFrom st a).2 b).1, (readFrom (readFrom st a).2 b).2) := by
  simp only [readFrom, lex_append a b hb hc, scanRun_append]

/-- A numeral after a text that ends between words is read as one name. -/
theorem readFrom_append_toString (st : ScanState) {s : String} (hs : (lexRun [] s.data).2 = [])
    (n : ℕ) : readFrom st (s ++ toString n) =
      ((readFrom st s).1 ++ scanEvents (readFrom st s).2 (.word (toString n)),
        scanNext (readFrom st s).2 (.word (toString n))) := by
  simp only [readFrom, lex_append_toString hs, scanRun_append, scanRun_cons, scanRun_nil,
    List.append_nil]

/-- A numeral between two texts that meet it between words is read as one name. -/
theorem readFrom_numeral (st : ScanState) {pre : String} (hpre : (lexRun [] pre.data).2 = [])
    (n : ℕ) (post : String) {c : Char} (hpost : post.data.head? = some c)
    (hc : wordChar c = false) : readFrom st (pre ++ toString n ++ post) =
      ((readFrom st pre).1 ++ scanEvents (readFrom st pre).2 (.word (toString n)) ++
          (readFrom (scanNext (readFrom st pre).2 (.word (toString n))) post).1,
        (readFrom (scanNext (readFrom st pre).2 (.word (toString n))) post).2) := by
  rw [readFrom_append _ _ _ hpost hc, readFrom_append_toString _ hpre]

/-- A text that starts with a keyword is read alike after any token that may end a condition. -/
theorem readFrom_kw {s : String} (hs : ∃ k t ts, lex s = .kw k :: t :: ts) {l : TokenRole}
    (hl : l.awaitsCondition = false) (b : TokenRole) (cand col : String) (d : ℕ) :
    readFrom ⟨b, l, cand, col, d⟩ s = readFrom ⟨b, .name, cand, col, d⟩ s := by
  obtain ⟨k, t, ts, hs⟩ := hs
  rw [readFrom, readFrom, hs, scanRun_cons, scanRun_cons ⟨b, .name, cand, col, d⟩,
    scanEvents_kw ⟨b, l, cand, col, d⟩ hl, scanEvents_kw ⟨b, .name, cand, col, d⟩ rfl]
  exact congrArg (fun r => ([] ++ r.1, r.2))
    (scanRun_before (SqlToken.role_kw_ne_name k) l .name _ _ _ t ts)

/-- What the end of a text reports: a connective left waiting, and parentheses left open. -/
def closingEvents (st : ScanState) : List SqlEvent :=
  (if st.last.awaitsCondition then [.misplaced] else []) ++
    (if st.depth = 0 then [] else [.unbalanced])

/-- Everything the scanner reports on a whole text. -/
def sqlEvents (s : String) : List SqlEvent :=
  (readFrom {} s).1 ++ closingEvents (readFrom {} s).2

example : SqlEvent.misplaced ∈ sqlEvents "SELECT a FROM t WHERE AND b = $1" := by decide
example : SqlEvent.misplaced ∈ sqlEvents "SELECT a FROM t WHERE b = $1 c = $2" := by decide
example : sqlEvents "SELECT a FROM t WHERE b = ANY($1) AND (c = $2 OR d = $3)" =
    [.placeholder "b" "1", .placeholder "c" "2", .alternative "d", .placeholder "d" "3"] := by
  decide

def SqlEvent.placeholder? : SqlEvent → Option (String × String)
  | .placeholder column n => some (column, n)
  | _ => none

def SqlEvent.alternative? : SqlEvent → Option String
  | .alternative column => some column
  | _ => none

@[simp] theorem SqlEvent.placeholder?_placeholder (column n : String) :
    (SqlEvent.placeholder column n).placeholder? = some (column, n) := rfl
@[simp] theorem SqlEvent.placeholder?_alternative (column : String) :
    (SqlEvent.alternative column).placeholder? = none := rfl
@[simp] theorem SqlEvent.alternative?_alternative (column : String) :
    (SqlEvent.alternative column).alternative? = some column := rfl
@[simp] theorem SqlEvent.alternative?_placeholder (column n : String) :
    (SqlEvent.placeholder column n).alternative? = none := rfl

end IpldEthServer

import Mathlib.Data.List.Sort
import Mathlib.Algebra.Group.Int

namespace IpldEthServer

/-- The errors the index reports, each under its PostgreSQL condition. -/
inductive SqlError where
  /-- `column … does not exist`. -/
  | undefinedColumn (name : String)
  /-- `column reference … is ambiguous`: two tables of one level have the column. -/
  | ambiguousColumn (name : String)
  /-- `relation … does not exist`, or `missing FROM-clause entry for table …`. -/
  | undefinedTable (name : String)
  /-- `table reference … is ambiguous`: two tables of one level answer to the qualifier. -/
  | ambiguousAlias (name : String)
  /-- `table name … specified more than once` in one `FROM` list. -/
  | duplicateAlias (name : String)
  /-- `function …(…) does not exist`. -/
  | undefinedFunction (name : String)
  /-- `more than one row returned by a subquery used as an expression`. -/
  | subqueryMultipleRows
  /-- `sql: no rows in result set`, from `Get` on an empty result. -/
  | noRows
  deriving DecidableEq, Repr

/-- `ORDER BY key`; rows of equal key, whose order the index leaves open, keep their order in the
join. -/
def orderBy {α : Type*} (key : α → ℕ) (rows : List α) : List α :=
  rows.insertionSort (fun a b => key a ≤ key b)

def orderByDesc {α : Type*} (key : α → ℕ) (rows : List α) : List α :=
  rows.insertionSort (fun a b => key b ≤ key a)

/-- `ORDER BY key DESC LIMIT 1` read with `Get`: the first row, or `sql.ErrNoRows`. -/
def newest {α : Type*} (key : α → ℕ) (rows : List α) : Except SqlError α :=
  match orderByDesc key rows with
  | [] => .error .noRows
  | r :: _ => .ok r

/-- `x = ANY ($k)` with a text array bound to `$k`; a `NULL` column matches nothing. -/
def anyOf (x : Option String) (set : List String) : Bool :=
  match x with
  | some v => set.contains v
  | none => false

section Lemmas

variable {α : Type*} (key : α → ℕ)

theorem orderBy_perm (rows : List α) : List.Perm (orderBy key rows) rows :=
  List.perm_insertionSort _ _

@[simp]
theorem mem_orderBy {rows : List α} {x : α} : x ∈ orderBy key rows ↔ x ∈ rows :=
  List.mem_insertionSort _

theorem orderBy_sorted (rows : List α) :
    (orderBy key rows).Sorted (fun a b => key a ≤ key b) := by
  haveI : IsTotal α (fun a b => key a ≤ key b) := ⟨fun a b => le_total (key a) (key b)⟩
  haveI : IsTrans α (fun a b => key a ≤ key b) := ⟨fun _ _ _ => le_trans⟩
  exact List.sorted_insertionSort _ _

theorem orderByDesc_sorted (rows : List α) :
    (orderByDesc key rows).Sorted (fun a b => key b ≤ key a) := by
  haveI : IsTotal α (fun a b => key b ≤ key a) := ⟨fun a b => le_total (key b) (key a)⟩
  haveI : IsTrans α (fun a b => key b ≤ key a) := ⟨fun _ _ _ h₁ h₂ => le_trans h₂ h₁⟩
  exact List.sorted_insertionSort _ _

/-- `LIMIT 1` after `ORDER BY … DESC` returns a row of the greatest key, and no row only when there
is none. -/
theorem newest_spec (rows : List α) :
    (rows = [] ∧ newest key rows = .error .noRows) ∨
      ∃ r ∈ rows, newest key rows = .ok r ∧ ∀ r' ∈ rows, key r' ≤ key r := by
  unfold newest
  have hs := orderByDesc_sorted key rows
  have hm : ∀ {x}, x ∈ orderByDesc key rows ↔ x ∈ rows := List.mem_insertionSort _
  cases h : orderByDesc key rows with
  | nil =>
    refine .inl ⟨?_, rfl⟩
    exact List.eq_nil_iff_forall_not_mem.mpr fun x hx => by simpa [h] using hm.mpr hx
  | cons r rest =>
    rw [h] at hs
    refine .inr ⟨r, hm.mp (by simp [h]), rfl, fun r' hr' => ?_⟩
    rcases List.mem_cons.mp (h ▸ hm.mpr hr') with rfl | hin
    · exact le_rfl
    · exact List.rel_of_sorted_cons hs r' hin

@[simp]
theorem anyOf_some (v : String) (set : List String) : anyOf (some v) set = set.contains v := rfl

@[simp]
theorem anyOf_none (set : List String) : anyOf none set = false := rfl

theorem anyOf_iff {x : Option String} {set : List String} :
    anyOf x set = true ↔ ∃ v, x = some v ∧ v ∈ set := by
  cases x <;> simp

/-- A join on a key meets at most one row of the keyed table. -/
theorem flatMap_of_unique_key {β γ κ : Type*} {xs : List β} {pk : β → κ}
    (hnd : (xs.map pk).Nodup) {x₀ : β} (hx₀ : x₀ ∈ xs) {g : β → List γ}
    (hg : ∀ x ∈ xs, pk x ≠ pk x₀ → g x = []) : xs.flatMap g = g x₀ := by
  induction xs with
  | nil => cases hx₀
  | cons a as ih =>
    have ha : pk a ∉ as.map pk := (List.nodup_cons.mp hnd).1
    have hrest : ∀ x ∈ as, pk x ≠ pk a := fun x hx he => ha (he ▸ List.mem_map_of_mem pk hx)
    rcases List.mem_cons.mp hx₀ with rfl | hin
    · have hnil : as.flatMap g = [] :=
        List.flatMap_eq_nil_iff.mpr fun x hx => hg x (.tail _ hx) (hrest x hx)
      rw [List.flatMap_cons, hnil, List.append_nil]
    · have hne : pk a ≠ pk x₀ := fun he => ha (he ▸ List.mem_map_of_mem pk hin)
      rw [List.flatMap_cons, hg a (.head _) hne, List.nil_append,
        ih (List.nodup_cons.mp hnd).2 hin fun x hx => hg x (.tail _ hx)]

end Lemmas

/-- `big.Int.Int64()`: the low 64 bits read as a two's-complement `int64`. -/
def bigIntInt64 (x : ℤ) : ℤ := (x + 2 ^ 63) % 2 ^ 64 - 2 ^ 63

theorem bigIntInt64_of_lt {x : ℤ} (h0 : -2 ^ 63 ≤ x) (h : x < 2 ^ 63) : bigIntInt64 x = x := by
  unfold bigIntInt64
  rw [Int.emod_eq_of_lt (by omega) (by omega)]
  omega

theorem bigIntInt64_lt (x : ℤ) : bigIntInt64 x < 2 ^ 63 := by
  unfold bigIntInt64
  have := Int.emod_lt_of_pos (x + 2 ^ 63) (show (0 : ℤ) < 2 ^ 64 by decide)
  omega

theorem le_bigIntInt64 (x : ℤ) : -2 ^ 63 ≤ bigIntInt64 x := by
  unfold bigIntInt64
  have := Int.emod_nonneg (x + 2 ^ 63) (show (2 : ℤ) ^ 64 ≠ 0 by decide)
  omega

end IpldEthServer

import RuleFit.Proofs.Plan

/-!
# Plans as transposition

The candidates of rules form a table with a row for each rule, and a plan reads it by columns: rule
set `i` has candidate `i` of every rule that has so many. Nobody says beforehand how many columns
there are. Rule sets are taken one after the other until one has no rules (`TakenFrom`), and rows
are of any length, none included.

**Theorem (`planUnder_transposes`).** For every board and every whole cap, taking rule sets comes to
an end, and what was taken is the plan. It has as many rule sets as the longest list of candidates
within the cap is long. Rule set `i` has the rules with more than `i` candidates, in the order of
the board, each with its candidate `i`; read along the plan, every rule within the cap shows its
candidates, each once and in order, and no other rule shows any. No rule set is empty, and the rules
of a later one are a subsequence of those of an earlier one.

The columns thin out: a rule that is in one of them is in all columns before. So the first column
without rules is the one behind the last with any (`isEmpty_column_iff`), and the rule sets that are
taken are all columns (`takenFrom_zero_iff`).
-/

namespace RuleFit

namespace RuleTable

variable {t : RuleTable (List Candidate)} {i : Nat}

/-! ## Columns -/

theorem height_eq_max? (t : RuleTable (List Candidate)) :
    t.height = (t.rows.map fun r => r.2.length).max?.getD 0 := by
  rw [height, ← List.foldl_eq_foldr (f := (max : Nat → Nat → Nat)), List.foldl_max, Nat.zero_max]

/-- A column has the rules whose lists reach as far, in the order of the table. -/
theorem ids_column (t : RuleTable (List Candidate)) (i : Nat) :
    (t.column i).ids = (t.rows.filter fun r => decide (i < r.2.length)).map Prod.fst := by
  have hrow : ∀ r : Text × List Candidate, (r.2[i]?.map (r.1, ·)).map Prod.fst =
      if i < r.2.length then some r.1 else none := by
    intro r
    split_ifs with h
    · simp [List.getElem?_eq_getElem h]
    · simp [List.getElem?_eq_none (Nat.le_of_not_lt h)]
  simp only [ids, column, filterMap, List.map_filterMap, hrow]
  induction t.rows with
  | nil => rfl
  | cons r rows ih => by_cases h : i < r.2.length <;> simp [h, ih]

/-- The columns thin out. -/
theorem ids_column_sublist {i j : Nat} (h : i ≤ j) :
    (t.column j).ids.Sublist (t.column i).ids := by
  rw [ids_column, ids_column]
  apply List.Sublist.map
  apply List.monotone_filter_right
  intro r hr
  exact decide_eq_true (lt_of_le_of_lt h (of_decide_eq_true hr))

theorem isEmpty_column_iff : (t.column i).isEmpty = true ↔ t.height ≤ i := by
  have hids : (t.column i).isEmpty = true ↔ (t.column i).ids = [] := by
    rw [isEmpty, List.isEmpty_iff, ids, List.map_eq_nil_iff]
  rw [hids, ids_column, List.map_eq_nil_iff, List.filter_eq_nil_iff, height_le_iff]
  simp

/-! ## Taking rule sets until one is empty -/

/-- The rule sets that are taken from position `i` on, up to the first one without rules. -/
inductive TakenFrom (t : RuleTable (List Candidate)) : Nat → List RuleSet → Prop
  | stop {i : Nat} (h : (t.column i).isEmpty = true) : TakenFrom t i []
  | take {i : Nat} {plan : List RuleSet} (h : (t.column i).isEmpty = false)
      (rest : TakenFrom t (i + 1) plan) : TakenFrom t i (t.column i :: plan)

theorem TakenFrom.unique {p q : List RuleSet} (hp : TakenFrom t i p) (hq : TakenFrom t i q) :
    p = q := by
  induction hp generalizing q with
  | stop h =>
    cases hq with
    | stop => rfl
    | take h' => simp [h] at h'
  | take h _ ih =>
    cases hq with
    | stop h' => simp [h] at h'
    | take _ rest => rw [ih rest]

/-- From every position on the remaining columns are taken, however many there are. -/
theorem takenFrom_columns {left : Nat} (h : i + left = t.height) :
    TakenFrom t i ((List.range' i left).map t.column) := by
  induction left generalizing i with
  | zero => exact .stop (isEmpty_column_iff.2 h.ge)
  | succ left ih =>
    have hsome : (t.column i).isEmpty = false := by
      rw [Bool.eq_false_iff, ne_eq, isEmpty_column_iff]
      omega
    exact .take hsome (ih (by omega))

theorem takenFrom_zero_iff {plan : List RuleSet} : TakenFrom t 0 plan ↔ plan = t.columns := by
  have hall : TakenFrom t 0 t.columns := by
    rw [columns, List.range_eq_range']
    exact takenFrom_columns (Nat.zero_add _)
  constructor
  · intro h
    exact h.unique hall
  · rintro rfl
    exact hall

/-! ## Rows along the columns -/

/-- Reading a list position by position, as far as it reaches and beyond, gives the list. -/
theorem filterMap_range_getElem? {α : Type} {xs : List α} {n : Nat} (h : xs.length ≤ n) :
    (List.range n).filterMap (xs[·]?) = xs := by
  induction xs generalizing n with
  | nil => simp
  | cons x xs ih =>
    obtain ⟨m, rfl⟩ : ∃ m, n = m + 1 := ⟨n - 1, by simp at h; omega⟩
    have hrest : (List.range m).filterMap (xs[·]?) = xs := ih (by simpa using h)
    simpa [List.range_succ_eq_map, List.filterMap_map, Function.comp_def] using hrest

/-- Along the columns a rule shows the candidates of its row. -/
theorem filterMap_get?_columns (t : RuleTable (List Candidate)) (id : Text) :
    t.columns.filterMap (·.get? id) = (t.get? id).getD [] := by
  rw [columns, List.filterMap_map]
  simp only [Function.comp_def, get?_column]
  cases hcs : t.get? id with
  | none => simp
  | some cs => exact filterMap_range_getElem? (length_le_height hcs)

/-- The entries of the columns are those of the rows, the other way round. -/
theorem getElem?_columns_bind (t : RuleTable (List Candidate)) (i : Nat) (id : Text) :
    t.columns[i]?.bind (·.get? id) = (t.get? id).bind (·[i]?) := by
  by_cases hi : i < t.height
  · rw [getElem?_columns hi, Option.bind_some, get?_column]
  · have hnone : t.columns[i]? = none := by simpa [columns] using hi
    cases hcs : t.get? id with
    | none => simp [hnone]
    | some cs =>
      have hlength : cs.length ≤ i := (length_le_height hcs).trans (Nat.le_of_not_lt hi)
      simp [hnone, hlength]

end RuleTable

/-! ## Plans -/

namespace Scoreboard

/-- The candidates of the rules that have at most `n`. -/
def upTo (b : Scoreboard) (n : Int) : RuleTable (List Candidate) :=
  b.candidates.filter fun _ cs => decide ((cs.length : Int) ≤ n)

theorem height_upTo_le (b : Scoreboard) (n : Int) : (b.upTo n).height ≤ n.toNat := by
  rw [RuleTable.height_le_iff, upTo, RuleTable.rows_filter]
  intro r hr
  have hlength : (r.2.length : Int) ≤ n := of_decide_eq_true (List.mem_filter.1 hr).2
  omega

/-- Under a whole cap there is a plan, the columns of the rules within the cap. -/
theorem planUnder_whole (b : Scoreboard) (n : Int) :
    b.planUnder (.whole n) = .ok (b.upTo n).columns := by
  have hcap : (Cap.whole n).within = .ok fun count => decide ((count : Int) ≤ n) := rfl
  rw [b.planUnder_eq hcap, b.plan_eq_columns, upTo]

/-- A rule within the cap has its candidate `i` in rule set `i`. -/
theorem getElem?_plan_bind {b : Scoreboard} {id : Text} {cs : List Candidate} {n : Int}
    (h : b.candidates.get? id = some cs) (hn : (cs.length : Int) ≤ n) (i : Nat) :
    (b.upTo n).columns[i]?.bind (·.get? id) = cs[i]? := by
  rw [RuleTable.getElem?_columns_bind, upTo, RuleTable.get?_filter, h, Option.filter_some,
    if_pos (decide_eq_true hn), Option.bind_some]

end Scoreboard

/-- **A plan is the transpose of the lists of candidates within the cap.** -/
theorem planUnder_transposes (b : Scoreboard) (n : Int) :
    let eligible := b.upTo n
    ∃ plan : List RuleSet, b.planUnder (.whole n) = .ok plan ∧
      (∀ taken, eligible.TakenFrom 0 taken ↔ taken = plan) ∧
      plan.length = (eligible.rows.map fun r => r.2.length).max?.getD 0 ∧
      plan.length ≤ n.toNat ∧
      (∀ i (hi : i < plan.length),
        plan[i].ids = (eligible.rows.filter fun r => decide (i < r.2.length)).map Prod.fst ∧
        ∀ id, plan[i].get? id = (eligible.get? id).bind (·[i]?)) ∧
      (∀ id, plan.filterMap (·.get? id) = (eligible.get? id).getD []) ∧
      (∀ rules ∈ plan, rules.isEmpty = false) ∧
      plan.Pairwise fun earlier later => later.ids.Sublist earlier.ids := by
  intro eligible
  have hlength : eligible.columns.length = eligible.height := by simp [RuleTable.columns]
  have hcolumn : ∀ i (hi : i < eligible.columns.length),
      eligible.columns[i] = eligible.column i := by simp [RuleTable.columns]
  refine ⟨eligible.columns, b.planUnder_whole n, fun _ => RuleTable.takenFrom_zero_iff,
    ?_, ?_, ?_, eligible.filterMap_get?_columns, ?_, ?_⟩
  · rw [hlength, RuleTable.height_eq_max?]
  · rw [hlength]
    exact b.height_upTo_le n
  · intro i hi
    rw [hcolumn i hi]
    exact ⟨eligible.ids_column i, eligible.get?_column i⟩
  · intro rules hrules
    obtain ⟨i, hi, rfl⟩ := List.mem_map.1 hrules
    rw [Bool.eq_false_iff, ne_eq, RuleTable.isEmpty_column_iff, Nat.not_le]
    exact List.mem_range.1 hi
  · apply List.pairwise_lt_range.map
    intro i j hij
    exact RuleTable.ids_column_sublist hij.le

/-- One rule has no candidates and one has more than the cap: the plan is that of the third. -/
example : ((Scoreboard.ofCandidates ⟨[("eqeqeq", []), ("semi", [⟨.error, []⟩, ⟨.warn, []⟩]),
      ("quotes", [⟨.off, []⟩, ⟨.warn, []⟩, ⟨.error, []⟩])], by decide⟩).planUnder (.whole 2)).map
        (fun plan => plan.map RuleTable.rows) =
    .ok [[("semi", ⟨.error, []⟩)], [("semi", ⟨.warn, []⟩)]] := rfl

end RuleFit

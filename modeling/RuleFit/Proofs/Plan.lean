import Mathlib.Data.List.Fold
import Mathlib.Data.List.MinMax
import Mathlib.Order.Nat
import RuleFit.Proofs.Course

/-!
# Plans as columns

A table of candidate lists is read row by row when candidates are made, and column by column when
they are tried: column `i` holds candidate `i` of every rule that has so many. A plan is the columns
of the rules within the cap (`plan_eq_columns`), whatever was charged before, and so every candidate
in it stands on the board at the position of its rule set (`carries_of_mem_rounds`).

For the counts over a transcript this means that what is charged to a candidate within the cap is
what was diagnosed for its rule in its round (`charges_eq_diagnosed_of_get?`), and that nothing is
charged to any other rule (`charges_eq_zero_of_get?`).
-/

namespace RuleFit

namespace RuleTable

variable (t : RuleTable (List Candidate))

/-- Candidate `i` of every rule that has so many. -/
def column (i : Nat) : RuleSet := t.filterMap fun _ cs => cs[i]?

/-- The number of candidates of the rule that has the most. -/
def height : Nat := (t.rows.map fun r => r.2.length).foldr max 0

/-- The columns, up to the last one with a candidate. -/
def columns : List RuleSet := (List.range t.height).map t.column

@[simp] theorem get?_column (i : Nat) (id : Text) :
    (t.column i).get? id = (t.get? id).bind (·[i]?) :=
  get?_filterMap ..

variable {t}

theorem get?_column_of_get? {id : Text} {cs : List Candidate} {i : Nat} {c : Candidate}
    (h : t.get? id = some cs) (hi : cs[i]? = some c) : (t.column i).get? id = some c := by
  rw [get?_column, h, Option.bind_some, hi]

theorem height_le_iff {n : Nat} : t.height ≤ n ↔ ∀ r ∈ t.rows, r.2.length ≤ n := by
  rw [height]
  constructor
  · intro h r hr
    exact (List.le_max_of_le (List.mem_map_of_mem hr) le_rfl).trans h
  · intro h
    refine List.max_le_of_forall_le _ n fun m hm => ?_
    obtain ⟨r, hr, rfl⟩ := List.mem_map.1 hm
    exact h r hr

theorem length_le_height {id : Text} {cs : List Candidate} (h : t.get? id = some cs) :
    cs.length ≤ t.height :=
  height_le_iff.1 le_rfl (id, cs) (get?_eq_some_iff.1 h)

theorem getElem?_columns {i : Nat} (h : i < t.height) : t.columns[i]? = some (t.column i) := by
  simp [columns, h]

theorem eq_column_of_getElem? {i : Nat} {rules : RuleSet} (h : t.columns[i]? = some rules) :
    rules = t.column i := by
  simp only [columns, List.getElem?_map, Option.map_eq_some_iff] at h
  obtain ⟨j, hj, rfl⟩ := h
  rw [List.getElem?_eq_some_iff] at hj
  obtain ⟨_, rfl⟩ := hj
  simp

theorem height_eq_of_perm {t u : RuleTable (List Candidate)} (h : t.rows.Perm u.rows) :
    t.height = u.height := by
  unfold height
  exact (h.map _).foldr_eq 0

end RuleTable

/-! ## The rule sets of a board -/

namespace Scoreboard

variable (b : Scoreboard)

theorem layer_eq_column (t : RuleTable (List Entry)) (i : Nat) :
    layer t i = (t.map fun _ es => es.map Entry.candidate).column i := by
  refine RuleTable.ext ?_
  simp [layer, RuleTable.column, RuleTable.filterMap, RuleTable.map, List.filterMap_map,
    Function.comp_def]

theorem depth_eq_height (t : RuleTable (List Entry)) :
    depth t = (t.map fun _ es => es.map Entry.candidate).height := by
  rw [depth, RuleTable.height, RuleTable.rows_map, List.map_map,
    ← List.foldl_eq_foldr (f := (max : Nat → Nat → Nat)), List.foldl_map]
  simp only [Function.comp_def, List.length_map]

theorem map_eligible (within : Nat → Bool) :
    ((b.eligible within).map fun _ es => es.map Entry.candidate) =
      b.candidates.filter fun _ cs => within cs.length := by
  refine RuleTable.ext ?_
  simp only [eligible, candidates, RuleTable.rows_map, RuleTable.rows_filter, List.filter_map]
  simp [Function.comp_def]

/-- The rule sets of a plan are the columns of the candidates within the cap. -/
theorem plan_eq_columns (within : Nat → Bool) :
    b.plan within = (b.candidates.filter fun _ cs => within cs.length).columns := by
  rw [← map_eligible, plan, depth_eq_height, RuleTable.columns]
  exact List.map_congr_left fun i _ => layer_eq_column ..

theorem plan_eq_nil {b : Scoreboard} (h : b.rules.isEmpty = true) (within : Nat → Bool) :
    b.plan within = [] := by
  rw [plan_eq_columns, RuleTable.columns, RuleTable.height, RuleTable.rows_filter, candidates,
    RuleTable.rows_map, List.isEmpty_iff.1 h]
  rfl

/-- Under a cap that counts can be held against there is a plan, without rules an empty one. -/
theorem planUnder_eq {cap : Cap} {within : Nat → Bool} (h : cap.within = .ok within) :
    b.planUnder cap = .ok (b.plan within) := by
  rw [planUnder, h]
  split_ifs with hb
  · rw [plan_eq_nil hb]
  · rfl

end Scoreboard

/-! ## Rounds of a plan -/

@[simp] theorem length_rounds (base : List (Datum × Datum)) (plan : List RuleSet) :
    (rounds base plan).length = plan.length := by
  rw [rounds, List.length_map, List.length_zipIdx]

/-- The rounds of the columns of a table. -/
theorem rounds_columns (base : List (Datum × Datum)) (t : RuleTable (List Candidate)) :
    rounds base t.columns =
      (List.range t.height).map fun i => ⟨i, t.column i, lintConfig base (t.column i)⟩ := by
  refine List.ext_getElem? fun i => ?_
  by_cases hi : i < t.height
  · simp [rounds, RuleTable.columns, hi]
  · simp [rounds, RuleTable.columns, hi]

theorem getElem?_of_mem_rounds {base : List (Datum × Datum)} {plan : List RuleSet} {round : Round}
    (h : round ∈ rounds base plan) : plan[round.position]? = some round.rules := by
  obtain ⟨⟨rules, i⟩, hp, rfl⟩ := List.mem_map.1 h
  exact List.mem_zipIdx_iff_getElem?.1 hp

/-- Every candidate of a plan stands on the board at the position of its rule set. -/
theorem Scoreboard.carries_of_mem_rounds {b : Scoreboard} {within : Nat → Bool}
    {base : List (Datum × Datum)} {round : Round} (h : round ∈ rounds base (b.plan within)) :
    b.Carries round := by
  intro id c hc
  have hplan := getElem?_of_mem_rounds h
  rw [plan_eq_columns] at hplan
  rw [RuleTable.eq_column_of_getElem? hplan, RuleTable.get?_column, RuleTable.get?_filter,
    Option.bind_eq_some_iff] at hc
  obtain ⟨cs, hcs, hget⟩ := hc
  exact ⟨cs, (Option.filter_eq_some_iff.1 hcs).1, hget⟩

/-! ## Counts over the columns -/

section Counts

variable {t : RuleTable (List Candidate)} {base : List (Datum × Datum)} {ps : List (Turn × Reply)}
  (hps : ∀ p ∈ ps, p.1.round ∈ rounds base t.columns)

include hps

theorem contains_round_eq {p : Turn × Reply} (hp : p ∈ ps) (id : Text) :
    p.1.round.rules.contains id = ((t.get? id).bind (·[p.1.round.position]?)).isSome := by
  have hrules := RuleTable.eq_column_of_getElem? (getElem?_of_mem_rounds (hps p hp))
  rw [RuleTable.contains_eq_isSome, hrules, RuleTable.get?_column]

/-- A candidate of the table is charged what was diagnosed for its rule in its round. -/
theorem charges_eq_diagnosed_of_get? {id : Text} {cs : List Candidate} (h : t.get? id = some cs)
    {i : Nat} (hi : i < cs.length) : charges ps id i = diagnosed ps i id := by
  refine charges_eq_diagnosed fun p hp hpos => ?_
  rw [contains_round_eq hps hp, h, hpos, Option.bind_some, List.getElem?_eq_getElem hi]
  rfl

/-- Rules out of the table are charged nothing. -/
theorem charges_eq_zero_of_get? {id : Text} (h : t.get? id = none) (i : Nat) :
    charges ps id i = 0 := by
  refine charges_eq_zero fun p hp _ => ?_
  rw [contains_round_eq hps hp, h]
  rfl

end Counts

end RuleFit

import Mathlib.Data.List.Nodup
import RuleFit.Plan
import RuleFit.Proofs.Table

/-!
# Charges on a scoreboard

Charging errors one after the other comes to charging each candidate, once, the number of errors it
got: `Scoreboard.chargeBy` does so for the whole board at a time. Charges add up
(`chargeBy_chargeBy`), they leave every rule with its candidates in place (`candidates_chargeBy`),
and one charge to a candidate on the board is such a charge of one (`charge_eq_chargeBy`).
-/

namespace RuleFit

namespace Entry

@[simp] theorem charge_candidate (e : Entry) (n : Int) : (e.charge n).candidate = e.candidate := rfl

@[simp] theorem charge_errors (e : Entry) (n : Int) : (e.charge n).errors = e.errors + n := rfl

@[simp] theorem charge_zero (e : Entry) : e.charge 0 = e := by
  simp [charge]

@[simp] theorem charge_charge (e : Entry) (m n : Int) :
    (e.charge m).charge n = e.charge (m + n) := by
  simp [charge, Int.add_assoc]

end Entry

namespace Scoreboard

@[ext] theorem ext {a b : Scoreboard} (hr : a.rules = b.rules) (hd : a.dropped = b.dropped) :
    a = b := by
  cases a; cases b; cases hr; cases hd; rfl

/-- The candidates on the board, without what was charged to them. -/
def candidates (b : Scoreboard) : RuleTable (List Candidate) :=
  b.rules.map fun _ es => es.map Entry.candidate

/-- The board after `n id i` errors were charged to each candidate `i` of each rule `id`. -/
def chargeBy (b : Scoreboard) (n : Text → Nat → Nat) : Scoreboard :=
  { b with rules := b.rules.map fun id es => es.mapIdx fun i e => e.charge (n id i) }

variable (b : Scoreboard)

@[simp] theorem dropped_chargeBy (n : Text → Nat → Nat) : (b.chargeBy n).dropped = b.dropped := rfl

@[simp] theorem get?_chargeBy (n : Text → Nat → Nat) (id : Text) :
    (b.chargeBy n).rules.get? id =
      (b.rules.get? id).map fun es => es.mapIdx fun i e => e.charge (n id i) :=
  RuleTable.get?_map ..

@[simp] theorem get?_candidates (id : Text) :
    b.candidates.get? id = (b.rules.get? id).map (·.map Entry.candidate) :=
  RuleTable.get?_map ..

/-- Charges leave every rule in its place with its candidates. -/
@[simp] theorem candidates_chargeBy (n : Text → Nat → Nat) :
    (b.chargeBy n).candidates = b.candidates := by
  refine RuleTable.ext ?_
  simp only [candidates, chargeBy, RuleTable.rows_map, List.map_map]
  refine List.map_congr_left fun r _ => Prod.ext rfl (List.ext_getElem? fun i => ?_)
  simp [Function.comp_def]

/-! ## Charges add up -/

theorem chargeBy_zero : b.chargeBy (fun _ _ => 0) = b := by
  refine Scoreboard.ext (RuleTable.ext ?_) rfl
  simp only [chargeBy, RuleTable.rows_map]
  have hsame : ∀ es : List Entry, es.mapIdx (fun _ e => e) = es :=
    fun es => List.mapIdx_eq_iff.2 fun i => by simp
  simp [hsame]

theorem chargeBy_chargeBy (m n : Text → Nat → Nat) :
    (b.chargeBy m).chargeBy n = b.chargeBy fun id i => m id i + n id i := by
  refine Scoreboard.ext (RuleTable.ext ?_) rfl
  simp [chargeBy, RuleTable.rows_map, Function.comp_def]

/-! ## One charge -/

section One

variable {id : Text} {es : List Entry} {position : Int} (count : Int)

theorem charge_of_unknown (h : b.rules.get? id = none) :
    b.charge id position count = .error (.unknownRule id, b) := by
  simp [charge, entries, h, Except.mapError, bind, Except.bind]

theorem charge_of_noPlace (h : b.rules.get? id = some es) (hp : place? es.length position = none) :
    b.charge id position count = .error (noPlace position, b) := by
  simp [charge, entries, h, hp, Except.mapError, bind, Except.bind]

theorem charge_of_place {i : Nat} (h : b.rules.get? id = some es)
    (hp : place? es.length position = some i) : b.charge id position count =
      .ok { b with rules := b.rules.set id (es.modify i (·.charge count)) } := by
  simp [charge, entries, h, hp, Except.mapError, bind, Except.bind]

end One

theorem place?_natCast {n i : Nat} (h : i < n) : place? n (i : Int) = some i := by
  have : ¬ (i : Int) < 0 := by omega
  simp [place?, this, h]

/-- One error charged to a candidate on the board is a charge of one. -/
theorem charge_eq_chargeBy {id : Text} {es : List Entry} {i : Nat}
    (h : b.rules.get? id = some es) (hi : i < es.length) :
    b.charge id i 1 = .ok (b.chargeBy fun x j => if x = id ∧ j = i then 1 else 0) := by
  rw [b.charge_of_place 1 h (place?_natCast hi), RuleTable.set_eq_map (·.modify i (·.charge 1)) h]
  congr 1
  refine Scoreboard.ext (RuleTable.ext ?_) rfl
  simp only [chargeBy, RuleTable.rows_map]
  refine List.map_congr_left fun r _ => Prod.ext rfl (List.ext_getElem? fun j => ?_)
  by_cases hr : r.1 = id
  · by_cases hj : i = j
    · simp [hr, hj]
    · have hj' : ¬ j = i := fun h => hj h.symm
      simp [hr, hj, hj']
  · simp [hr]

end Scoreboard

end RuleFit

import Mathlib.Data.List.Basic
import RuleFit.Datum.Equality

/-!
# Equality of values

Every value is alike to itself (`alike_refl`), and equal to itself unless it is a not-a-number
(`eqv_refl`); parts of a collection count by the first of these, so a not-a-number inside of a value
does not matter. Lists are compared item by item (`eqvItems_cons`), and mappings by looking for a
partner of every entry (`eqvEntries_eq_all`).

Keys of mappings are compared as values too, but only a text equals a text. So under text keys a
mapping behaves like any table: what is set under a key is found there (`find?_put_text`), and
nothing else changes (`filter_put_text`).
-/

namespace RuleFit.Datum

/-! ## Equality to itself -/

mutual

theorem alike_refl : (a : Datum) → a.alike a = true
  | .null => rfl
  | .bool b => by simp [alike, eqv, sameQuantity, quantity?]
  | .int n => by simp [alike, eqv, sameQuantity, quantity?]
  | .float x => by
    cases x <;> simp [alike, sameNan, eqv, sameQuantity, quantity?, Binary64.value?]
  | .text t => by simp [alike, eqv]
  | .bytes bs => by simp [alike, eqv]
  | .moment m => by
    have hsame : m.same m = true := by
      unfold Moment.same
      cases m.instant? <;> simp
    simp [alike, eqv, hsame]
  | .list xs => by simp [alike, eqv, eqvItems_refl xs]
  | .tuple xs => by simp [alike, eqv, eqvItems_refl xs]
  | .set xs => by simp [alike, eqv, eqvMembers_of_subset xs xs fun _ hx => hx]
  | .map es => by simp [alike, eqv, eqvEntries_of_subset es es fun _ he => he]
  | .knot n cells => by simp [alike, eqv, sameItems_refl cells]
  | .cell n => by simp [alike, eqv]
termination_by structural a => a

theorem eqvItems_refl : (a : List Datum) → eqvItems a a = true
  | [] => by simp [eqvItems]
  | x :: xs => by
    have hx := alike_refl x
    rw [alike] at hx
    rw [eqvItems, hx, eqvItems_refl xs]
    rfl
termination_by structural a => a

theorem eqvMembers_of_subset : (a b : List Datum) → (∀ x ∈ a, x ∈ b) → eqvMembers a b = true
  | [], _, _ => by simp [eqvMembers]
  | x :: xs, b, h => by
    have hx := alike_refl x
    rw [alike] at hx
    have hany : b.any (fun y => sameNan x y || eqv x y) = true :=
      List.any_eq_true.2 ⟨x, h x List.mem_cons_self, hx⟩
    rw [eqvMembers, hany, eqvMembers_of_subset xs b fun y hy => h y (List.mem_cons_of_mem x hy)]
    rfl
termination_by structural a => a

theorem eqvEntries_of_subset :
    (a b : List (Datum × Datum)) → (∀ e ∈ a, e ∈ b) → eqvEntries a b = true
  | [], _, _ => by simp [eqvEntries]
  | (k, v) :: rest, b, h => by
    have hk := alike_refl k
    have hv := alike_refl v
    rw [alike] at hk hv
    have hany : b.any (fun e => (sameNan k e.1 || eqv k e.1) && (sameNan v e.2 || eqv v e.2)) =
        true :=
      List.any_eq_true.2 ⟨(k, v), h _ List.mem_cons_self, by rw [hk, hv]; rfl⟩
    rw [eqvEntries, hany,
      eqvEntries_of_subset rest b fun e he => h e (List.mem_cons_of_mem _ he)]
    rfl
termination_by structural a => a

end

def isNan : Datum → Bool
  | .float (.nan _) => true
  | _ => false

/-- Only a not-a-number is not equal to itself. -/
theorem eqv_refl {a : Datum} (h : a.isNan = false) : a.eqv a = true := by
  have hnan : sameNan a a = false := by
    cases a with
    | float x =>
      cases x with
      | nan p => cases h
      | _ => rfl
    | _ => rfl
  have halike := alike_refl a
  rw [alike, hnan, Bool.false_or] at halike
  exact halike

/-- Values are equal as numbers when they amount to the same. -/
theorem sameQuantity_iff {a b : Datum} :
    a.sameQuantity b = true ↔ ∃ q, a.quantity? = some q ∧ b.quantity? = some q := by
  unfold sameQuantity
  cases a.quantity? with
  | none => simp
  | some x =>
    cases b.quantity? with
    | none => simp
    | some y => simpa using eq_comm

/-! ## Part by part -/

@[simp] theorem eqvItems_nil : eqvItems [] [] = true := by
  simp [eqvItems]

@[simp] theorem eqvItems_cons (x y : Datum) (xs ys : List Datum) :
    eqvItems (x :: xs) (y :: ys) = (x.alike y && eqvItems xs ys) := by
  rw [eqvItems, alike]

@[simp] theorem eqvItems_cons_nil (x : Datum) (xs : List Datum) :
    eqvItems (x :: xs) [] = false := by
  simp [eqvItems]

@[simp] theorem eqvItems_nil_cons (y : Datum) (ys : List Datum) :
    eqvItems [] (y :: ys) = false := by
  simp [eqvItems]

/-- Every entry of the first mapping has a partner in the second. -/
theorem eqvEntries_eq_all (a b : List (Datum × Datum)) :
    eqvEntries a b = a.all fun e => b.any fun e' => e.1.alike e'.1 && e.2.alike e'.2 := by
  induction a with
  | nil => simp [eqvEntries]
  | cons e rest ih => simp [eqvEntries, alike, ih]

/-! ## Text keys -/

/-- Only a text is equal to a text, and only to the same. -/
@[simp] theorem alike_text (key : Text) (d : Datum) :
    (text key).alike d = decide (d = text key) := by
  rw [Bool.eq_iff_iff, decide_eq_true_iff]
  constructor
  · intro h
    cases d with
    | text t =>
      have hkey : key = t := by simpa [alike, sameNan, eqv] using h
      rw [hkey]
    | _ => simp [alike, sameNan, eqv, sameQuantity, quantity?] at h
  · rintro rfl
    exact alike_refl _

@[simp] theorem find?_put_text (entries : List (Datum × Datum)) (key : Text) (v : Datum) :
    find? (put entries (.text key) v) (.text key) = some v := by
  unfold find?
  induction entries with
  | nil => simp [put]
  | cons e rest ih =>
    by_cases he : e.1 = .text key
    · simp [put, he]
    · simp only [put, alike_text, he, decide_false, Bool.false_eq_true, if_false, List.find?_cons]
      simpa using ih

/-- A text key is set behind the entries under other keys. -/
theorem put_append_text {α : Type} {front : List (Datum × α)} {key : Text}
    (h : .text key ∉ front.map Prod.fst) (rest : List (Datum × α)) (v : α) :
    put (front ++ rest) (.text key) v = front ++ put rest (.text key) v := by
  induction front with
  | nil => rfl
  | cons e front ih =>
    rw [List.map_cons, List.mem_cons, not_or] at h
    simp [put, Ne.symm h.1, ih h.2]

/-- Setting a text key changes no entry under another key. -/
theorem filter_put_text {α : Type} (entries : List (Datum × α)) (key : Text) (v : α) :
    (put entries (.text key) v).filter (fun e => decide (e.1 ≠ .text key)) =
      entries.filter fun e => decide (e.1 ≠ .text key) := by
  induction entries with
  | nil => simp [put]
  | cons e rest ih =>
    by_cases he : e.1 = .text key
    · simp [put, he]
    · have hput : put (e :: rest) (.text key) v = e :: put rest (.text key) v := by
        simp [put, he]
      rw [hput, List.filter_cons, List.filter_cons, ih]

end RuleFit.Datum

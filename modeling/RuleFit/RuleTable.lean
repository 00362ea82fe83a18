import RuleFit.Text.Basic

/-!
# Tables by rule

What is known about rules is kept in tables: one row per rule id, in the order in which the rules
came. That no id has two rows is part of the type. Setting a row that is there keeps its place;
every other operation keeps the order of the rows it keeps.
-/

namespace RuleFit

/-- One value per rule id, in order. -/
structure RuleTable (α : Type) where
  rows : List (Text × α)
  nodup : (rows.map Prod.fst).Nodup

namespace RuleTable

variable {α β : Type}

def empty : RuleTable α := ⟨[], List.nodup_nil⟩

instance : Inhabited (RuleTable α) := ⟨empty⟩

/-- The rule ids, in order. -/
def ids (t : RuleTable α) : List Text := t.rows.map Prod.fst

def size (t : RuleTable α) : Nat := t.rows.length

def isEmpty (t : RuleTable α) : Bool := t.rows.isEmpty

def contains (t : RuleTable α) (id : Text) : Bool :=
  t.rows.any fun r => r.1 == id

/-- The value of a rule. -/
def get? (t : RuleTable α) (id : Text) : Option α :=
  (t.rows.find? fun r => r.1 == id).map Prod.snd

/-! ## Rows kept and changed -/

/-- Works out a new value for every rule and leaves out those that get none. -/
def filterMap (f : Text → α → Option β) (t : RuleTable α) : RuleTable β where
  rows := t.rows.filterMap fun r => (f r.1 r.2).map (r.1, ·)
  nodup := by
    refine List.Nodup.sublist ?_ t.nodup
    generalize t.rows = rows
    induction rows with
    | nil => simp
    | cons r rows ih =>
      cases h : f r.1 r.2 with
      | none => simpa [h] using ih.cons r.1
      | some b => simpa [h] using ih

/-- Keeps the rows that pass a test. -/
def filter (p : Text → α → Bool) (t : RuleTable α) : RuleTable α :=
  t.filterMap fun id a => if p id a then some a else none

/-- Changes the value of every rule. -/
def map (f : Text → α → β) (t : RuleTable α) : RuleTable β :=
  t.filterMap fun id a => some (f id a)

/-! ## Rows set -/

/-- Sets a row in a list of rows: in place where the id is there, else at the end. -/
def setRow (id : Text) (a : α) : List (Text × α) → List (Text × α)
  | [] => [(id, a)]
  | r :: rows => if r.1 == id then (r.1, a) :: rows else r :: setRow id a rows

theorem mem_setRow_ids {id x : Text} {a : α} {rows : List (Text × α)} :
    x ∈ (setRow id a rows).map Prod.fst ↔ x = id ∨ x ∈ rows.map Prod.fst := by
  induction rows with
  | nil => simp [setRow]
  | cons r rows ih =>
    by_cases h : r.1 = id
    · simp [setRow, h]
    · have : (r.1 == id) = false := by simpa using h
      simp only [setRow, this, List.map_cons, List.mem_cons]
      rw [if_neg (by simp), List.map_cons, List.mem_cons, ih]
      constructor <;> rintro (h | h | h) <;> simp [h]

theorem setRow_nodup {id : Text} {a : α} {rows : List (Text × α)}
    (h : (rows.map Prod.fst).Nodup) : ((setRow id a rows).map Prod.fst).Nodup := by
  induction rows with
  | nil => simp [setRow]
  | cons r rows ih =>
    simp only [List.map_cons, List.nodup_cons] at h
    by_cases hr : r.1 = id
    · have he : (r.1 == id) = true := by simpa using hr
      simp only [setRow, he, if_true, List.map_cons, List.nodup_cons]
      exact h
    · have hne : (r.1 == id) = false := by simpa using hr
      simp only [setRow, hne]
      rw [if_neg (by simp), List.map_cons, List.nodup_cons]
      refine ⟨?_, ih h.2⟩
      rw [mem_setRow_ids]
      rintro (h' | h')
      · exact hr h'
      · exact h.1 h'

/-- Sets the value of a rule. -/
def set (t : RuleTable α) (id : Text) (a : α) : RuleTable α :=
  ⟨setRow id a t.rows, setRow_nodup t.nodup⟩

/-- Sets every row of the second table in the first. -/
def merge (t u : RuleTable α) : RuleTable α :=
  u.rows.foldl (fun acc r => acc.set r.1 r.2) t

/-- The table of rows written one after the other: of rows with one id the first gives the place and
the last the value. -/
def ofRows (rows : List (Text × α)) : RuleTable α :=
  rows.foldl (fun acc r => acc.set r.1 r.2) empty

end RuleTable

end RuleFit

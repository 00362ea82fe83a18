import RuleFit.Binary64.Decimal
import RuleFit.Calendar
import RuleFit.Text.Basic

/-!
# Data values

Schemas, options and settings are made of plain data: null, booleans, whole numbers of any size,
binary64 numbers, texts, lists, fixed sequences and mappings. A mapping keeps its entries in
insertion order and may have keys of any kind; `Datum.ofEntries` builds one from a list of pairs.
Documents can also bring moments of the calendar, bytes and sets.

A document can even bring a collection that holds itself. Such collections are tied together in a
knot: a list of cells, each a collection in which `cell` stands for another cell or for itself, and
the position of the cell that is meant. `Datum.opened` undoes a knot by one level, and only values
opened this way are ever taken apart. `Datum.unrolled` undoes knots all the way down to where a
collection comes again inside of itself.

Two notions of sameness live side by side. `=` is identity of the data: type, order, sign of zero
and payload count, and it is decidable. `Datum.eqv`, in its own module, is equality of values, under
which `1`, `1.0` and `true` are equal and a mapping does not know the order of its entries.
-/

namespace RuleFit

/-- A data value. -/
inductive Datum where
  | null
  | bool (b : Bool)
  | int (n : Int)
  | float (x : Binary64)
  | text (t : Text)
  | bytes (bs : List UInt8)
  | moment (m : Moment)
  | list (items : List Datum)
  | tuple (items : List Datum)
  | set (items : List Datum)
  | map (entries : List (Datum × Datum))
  | knot (position : Nat) (cells : List Datum)
  | cell (position : Nat)
  deriving Inhabited

namespace Datum

/-! ## Identity of data -/

mutual

/-- Whether two data values are identical. -/
def same : Datum → Datum → Bool
  | .null, .null => true
  | .bool a, .bool b => a == b
  | .int a, .int b => a == b
  | .float a, .float b => decide (a = b)
  | .text a, .text b => a == b
  | .bytes a, .bytes b => a == b
  | .moment a, .moment b => decide (a = b)
  | .list a, .list b => sameItems a b
  | .tuple a, .tuple b => sameItems a b
  | .set a, .set b => sameItems a b
  | .map a, .map b => sameEntries a b
  | .knot n a, .knot m b => n == m && sameItems a b
  | .cell n, .cell m => n == m
  | _, _ => false
termination_by structural a => a

/-- Whether two lists of data values are identical. -/
def sameItems : List Datum → List Datum → Bool
  | [], [] => true
  | x :: xs, y :: ys => same x y && sameItems xs ys
  | _, _ => false
termination_by structural a => a

/-- Whether two lists of entries are identical. -/
def sameEntries : List (Datum × Datum) → List (Datum × Datum) → Bool
  | [], [] => true
  | (k, v) :: xs, (l, w) :: ys => same k l && same v w && sameEntries xs ys
  | _, _ => false
termination_by structural a => a

end

mutual

theorem eq_of_same : (a b : Datum) → same a b = true → a = b
  | .null, b, h => by cases b <;> simp_all [same]
  | .bool _, b, h => by cases b <;> simp_all [same]
  | .int _, b, h => by cases b <;> simp_all [same]
  | .float _, b, h => by cases b <;> simp_all [same]
  | .text _, b, h => by cases b <;> simp_all [same]
  | .bytes _, b, h => by cases b <;> simp_all [same]
  | .moment _, b, h => by cases b <;> simp_all [same]
  | .list xs, b, h => by
    cases b <;> simp only [same, Bool.false_eq_true] at h
    rw [eq_of_sameItems xs _ h]
  | .tuple xs, b, h => by
    cases b <;> simp only [same, Bool.false_eq_true] at h
    rw [eq_of_sameItems xs _ h]
  | .set xs, b, h => by
    cases b <;> simp only [same, Bool.false_eq_true] at h
    rw [eq_of_sameItems xs _ h]
  | .map es, b, h => by
    cases b <;> simp only [same, Bool.false_eq_true] at h
    rw [eq_of_sameEntries es _ h]
  | .knot n xs, b, h => by
    cases b <;> simp only [same, Bool.false_eq_true, Bool.and_eq_true, beq_iff_eq] at h
    rw [h.1, eq_of_sameItems xs _ h.2]
  | .cell _, b, h => by cases b <;> simp_all [same]
termination_by structural a => a

theorem eq_of_sameItems : (a b : List Datum) → sameItems a b = true → a = b
  | [], b, h => by cases b <;> simp_all [sameItems]
  | x :: xs, b, h => by
    cases b with
    | nil => simp [sameItems] at h
    | cons y ys =>
      simp only [sameItems, Bool.and_eq_true] at h
      rw [eq_of_same x y h.1, eq_of_sameItems xs ys h.2]
termination_by structural a => a

theorem eq_of_sameEntries : (a b : List (Datum × Datum)) → sameEntries a b = true → a = b
  | [], b, h => by cases b <;> simp_all [sameEntries]
  | (k, v) :: xs, b, h => by
    cases b with
    | nil => simp [sameEntries] at h
    | cons e ys =>
      obtain ⟨l, w⟩ := e
      simp only [sameEntries, Bool.and_eq_true] at h
      rw [eq_of_same k l h.1.1, eq_of_same v w h.1.2, eq_of_sameEntries xs ys h.2]
termination_by structural a => a

end

mutual

theorem same_refl : (a : Datum) → same a a = true
  | .null | .bool _ | .int _ | .float _ | .text _ | .bytes _ | .moment _ | .cell _ => by
    simp [same]
  | .list xs | .tuple xs | .set xs => by simp only [same]; exact sameItems_refl xs
  | .map es => by simp only [same]; exact sameEntries_refl es
  | .knot _ xs => by simp only [same, sameItems_refl xs, beq_self_eq_true, Bool.and_self]
termination_by structural a => a

theorem sameItems_refl : (a : List Datum) → sameItems a a = true
  | [] => by simp [sameItems]
  | x :: xs => by simp only [sameItems, same_refl x, sameItems_refl xs, Bool.and_self]
termination_by structural a => a

theorem sameEntries_refl : (a : List (Datum × Datum)) → sameEntries a a = true
  | [] => by simp [sameEntries]
  | (k, v) :: xs => by
    simp only [sameEntries, same_refl k, same_refl v, sameEntries_refl xs, Bool.and_self]
termination_by structural a => a

end

theorem same_iff {a b : Datum} : same a b = true ↔ a = b :=
  ⟨eq_of_same a b, fun h => h ▸ same_refl a⟩

instance : DecidableEq Datum := fun _ _ => decidable_of_iff _ same_iff

/-! ## Knots -/

/-- Ties a value out of a cell to the other cells. -/
def tied (cells : List Datum) : Datum → Datum
  | .cell n => .knot n cells
  | d => d

/-- A collection out of a cell, tied to the other cells. -/
def tiedCollection (cells : List Datum) : Datum → Datum
  | .list items => .list (items.map (tied cells))
  | .tuple items => .tuple (items.map (tied cells))
  | .map entries => .map (entries.map fun e => (e.1, tied cells e.2))
  | d => d

/-- The value with its outermost knot undone. -/
@[simp] def opened : Datum → Datum
  | .knot n cells => ((cells[n]?).map (tiedCollection cells)).getD .null
  | d => d

/-- Undoes a knot level by level, but for the cells that are being undone already, of which `left`
more may follow. -/
def unknot (left : Nat) (undoing : List Nat) (cells : List Datum) (n : Nat) : Datum :=
  match left with
  | 0 => .knot n cells
  | left + 1 =>
    let inside : Datum → Datum
      | .cell m =>
        if m = n ∨ m ∈ undoing then .knot m cells else unknot left (n :: undoing) cells m
      | d => d
    match cells[n]? with
    | some (.list items) => .list (items.map inside)
    | some (.tuple items) => .tuple (items.map inside)
    | some (.map entries) => .map (entries.map fun e => (e.1, inside e.2))
    | some d => d
    | none => .null

mutual

/-- The value without knots, but for those that stand for a collection inside of itself. -/
def unrolled : Datum → Datum
  | .knot n cells => unknot cells.length [] cells n
  | .list items => .list (unrolledItems items)
  | .tuple items => .tuple (unrolledItems items)
  | .map entries => .map (unrolledEntries entries)
  | d => d
termination_by structural d => d

/-- The same for a list of values. -/
def unrolledItems : List Datum → List Datum
  | [] => []
  | x :: xs => unrolled x :: unrolledItems xs
termination_by structural xs => xs

/-- The same for the entries of a mapping, whose keys hold no knots. -/
def unrolledEntries : List (Datum × Datum) → List (Datum × Datum)
  | [] => []
  | (k, v) :: rest => (k, unrolled v) :: unrolledEntries rest
termination_by structural es => es

end

/-! ## Kinds -/

/-- The kind of a data value, its outermost type. -/
inductive Kind where
  | null | bool | int | float | text | bytes | date | moment | list | tuple | set | map
  deriving DecidableEq

def kind (d : Datum) : Kind :=
  match d.opened with
  | .null | .knot .. | .cell _ => .null
  | .bool _ => .bool
  | .int _ => .int
  | .float _ => .float
  | .text _ => .text
  | .bytes _ => .bytes
  | .moment ⟨_, none⟩ => .date
  | .moment ⟨_, some _⟩ => .moment
  | .list _ => .list
  | .tuple _ => .tuple
  | .set _ => .set
  | .map _ => .map

/-- The name of a kind in messages. -/
def Kind.name : Kind → String
  | .null => "NoneType"
  | .bool => "bool"
  | .int => "int"
  | .float => "float"
  | .text => "str"
  | .bytes => "bytes"
  | .date => "datetime.date"
  | .moment => "datetime.datetime"
  | .list => "list"
  | .tuple => "tuple"
  | .set => "set"
  | .map => "dict"

/-- The name of a kind without the part that says where it belongs. -/
def Kind.shortName : Kind → String
  | .date => "date"
  | .moment => "datetime"
  | k => k.name

/-- Whether the value is empty: null, false, a zero, or a text or collection with nothing in it. -/
def isEmpty (d : Datum) : Bool :=
  match d.opened with
  | .null => true
  | .bool b => !b
  | .int n => n == 0
  | .float x => x.value? == some .zero
  | .text t => t.isEmpty
  | .bytes bs => bs.isEmpty
  | .list items => items.isEmpty
  | .tuple items => items.isEmpty
  | .set items => items.isEmpty
  | .map entries => entries.isEmpty
  | .moment _ | .knot .. | .cell _ => false

def isMap (d : Datum) : Bool :=
  match d.opened with
  | .map _ => true
  | _ => false

/-! ## Forgetting payloads -/

mutual

/-- The value in which every not-a-number is one and the same. -/
def unmarked : Datum → Datum
  | .float x => .float (x.withPayload 0)
  | .list items => .list (unmarkedItems items)
  | .tuple items => .tuple (unmarkedItems items)
  | .set items => .set (unmarkedItems items)
  | .map entries => .map (unmarkedEntries entries)
  | d => d
termination_by structural d => d

/-- The same for a list of values. -/
def unmarkedItems : List Datum → List Datum
  | [] => []
  | x :: xs => unmarked x :: unmarkedItems xs
termination_by structural xs => xs

/-- The same for the entries of a mapping. -/
def unmarkedEntries : List (Datum × Datum) → List (Datum × Datum)
  | [] => []
  | (k, v) :: rest => (unmarked k, unmarked v) :: unmarkedEntries rest
termination_by structural es => es

end

end Datum

end RuleFit

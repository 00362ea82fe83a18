import Mathlib.Data.List.Basic
import RuleFit.Datum.Literal

/-!
# Steps that can fail

Readers go through their input step by step and stop at the first fault. What comes of that is said
here once for every reader: a sequence of steps succeeds when each does, and a list that is read
item by item has the fault of the first item that has one (`mapM_eq_error_iff`). An item is
`Reached` when everything before it passes.

One step is common to all readers: a value is put into a text, which fails on a number too long to
be written out (`shown_eq_error_iff`).
-/

namespace RuleFit

variable {ε ε' α β : Type}

theorem bind_eq_ok {x : Except ε α} {f : α → Except ε β} {b : β} :
    (x >>= f) = .ok b ↔ ∃ a, x = .ok a ∧ f a = .ok b := by
  cases x <;> simp [bind, Except.bind]

theorem bind_eq_error {x : Except ε α} {f : α → Except ε β} {e : ε} :
    (x >>= f) = .error e ↔ x = .error e ∨ ∃ a, x = .ok a ∧ f a = .error e := by
  cases x <;> simp [bind, Except.bind]

theorem mapError_eq_ok {x : Except ε α} {f : ε → ε'} {a : α} :
    x.mapError f = .ok a ↔ x = .ok a := by
  cases x <;> simp [Except.mapError]

theorem mapError_eq_error {x : Except ε α} {f : ε → ε'} {e : ε'} :
    x.mapError f = .error e ↔ ∃ e', x = .error e' ∧ f e' = e := by
  cases x <;> simp [Except.mapError]

/-- A fault that is given out with a state comes with that state. -/
theorem state_eq_of_mapError {σ : Type} {x : Except ε α} {g : ε → ε'} {f : ε'} {s s' : σ}
    (h : (x.mapError fun f => (g f, s)) = .error (f, s')) : s' = s := by
  obtain ⟨f', -, heq⟩ := mapError_eq_error.1 h
  exact (congrArg Prod.snd heq).symm

theorem map_eq_ok {x : Except ε α} {f : α → β} {b : β} :
    x.map f = .ok b ↔ ∃ a, x = .ok a ∧ f a = b := by
  cases x <;> simp [Except.map]

theorem map_eq_error {x : Except ε α} {f : α → β} {e : ε} : x.map f = .error e ↔ x = .error e := by
  cases x <;> simp [Except.map]

theorem exists_eq_ok_iff {x : Except ε α} : (∃ a, x = .ok a) ↔ ∀ e, x ≠ .error e := by
  cases x <;> simp

/-! ## Item by item -/

/-- Item `i` of a list is `x`, and every item before it passes. -/
def Reached (P : α → Prop) (l : List α) (i : Nat) (x : α) : Prop :=
  l[i]? = some x ∧ ∀ y ∈ l.take i, P y

theorem not_reached_nil {P : α → Prop} {i : Nat} {x : α} : ¬Reached P [] i x := by
  rintro ⟨h, -⟩
  cases h

theorem reached_zero {P : α → Prop} {a x : α} {l : List α} : Reached P (a :: l) 0 x ↔ x = a := by
  simp [Reached, eq_comm]

theorem reached_succ {P : α → Prop} {a x : α} {l : List α} {i : Nat} :
    Reached P (a :: l) (i + 1) x ↔ P a ∧ Reached P l i x := by
  simp [Reached, and_left_comm]

/-- Either the first item is reached, or it passes and a later one is reached. -/
theorem exists_reached_cons {P : α → Prop} {a : α} {l : List α} {Q : Nat → α → Prop} :
    (∃ i x, Reached P (a :: l) i x ∧ Q i x) ↔
      Q 0 a ∨ P a ∧ ∃ i x, Reached P l i x ∧ Q (i + 1) x := by
  constructor
  · rintro ⟨i, x, hreached, hq⟩
    cases i with
    | zero =>
      obtain rfl := reached_zero.1 hreached
      exact .inl hq
    | succ i =>
      obtain ⟨ha, hreached⟩ := reached_succ.1 hreached
      exact .inr ⟨ha, i, x, hreached, hq⟩
  · rintro (hq | ⟨ha, i, x, hreached, hq⟩)
    · exact ⟨0, a, reached_zero.2 rfl, hq⟩
    · exact ⟨i + 1, x, reached_succ.2 ⟨ha, hreached⟩, hq⟩

section MapM

variable {f : α → Except ε β} {l : List α}

/-- The fault of a list is that of the first item that has one. -/
theorem mapM_eq_error_iff {e : ε} :
    l.mapM f = .error e ↔ ∃ i x, Reached (fun y => ∃ b, f y = .ok b) l i x ∧ f x = .error e := by
  induction l with
  | nil =>
    refine iff_of_false (by simp [pure, Except.pure]) ?_
    rintro ⟨i, x, hreached, -⟩
    exact not_reached_nil hreached
  | cons a l ih =>
    rw [List.mapM_cons, bind_eq_error, exists_reached_cons, ← ih]
    refine or_congr Iff.rfl ?_
    simp [bind_eq_error, pure, Except.pure]

theorem exists_mapM_eq_ok_iff : (∃ bs, l.mapM f = .ok bs) ↔ ∀ x ∈ l, ∃ b, f x = .ok b := by
  induction l with
  | nil => simp [pure, Except.pure]
  | cons a l ih =>
    rw [List.forall_mem_cons, ← ih]
    simp [List.mapM_cons, bind_eq_ok, pure, Except.pure]

theorem mapM_eq_ok_map {g : α → β} (h : ∀ x ∈ l, f x = .ok (g x)) : l.mapM f = .ok (l.map g) := by
  induction l with
  | nil => rfl
  | cons a l ih =>
    rw [List.forall_mem_cons] at h
    rw [List.mapM_cons, h.1, ih h.2]
    rfl

/-- What every result has in common with its item, the results have in common with the list. -/
theorem map_of_mapM_eq_ok {γ : Type} {g : β → γ} {k : α → γ} (h : ∀ a b, f a = .ok b → g b = k a)
    {bs : List β} (hbs : l.mapM f = .ok bs) : bs.map g = l.map k := by
  induction l generalizing bs with
  | nil =>
    cases hbs
    rfl
  | cons a l ih =>
    simp only [List.mapM_cons, bind_eq_ok] at hbs
    obtain ⟨b, hb, rest, hrest, hbs⟩ := hbs
    cases hbs
    rw [List.map_cons, List.map_cons, h a b hb, ih hrest]

end MapM

/-! ## Values put into texts -/

namespace Datum

theorem shown_eq_error_iff {d : Datum} {f : NumberTooLong} :
    d.shown = .error f ↔ d.writable = false := by
  cases h : d.writable <;> simp [shown, h]

theorem shown_eq_ok_iff {d : Datum} {t : Text} :
    d.shown = .ok t ↔ d.writable = true ∧ d.display = t := by
  cases h : d.writable <;> simp [shown, h]

theorem mapM_shown_eq_ok_iff {items : List Datum} {ts : List Text} :
    items.mapM shown = .ok ts ↔
      (∀ x ∈ items, x.writable = true) ∧ items.map display = ts := by
  constructor
  · intro h
    have hall (x : Datum) (hx : x ∈ items) : x.writable = true := by
      obtain ⟨t, ht⟩ := exists_mapM_eq_ok_iff.1 ⟨ts, h⟩ x hx
      exact (shown_eq_ok_iff.1 ht).1
    refine ⟨hall, ?_⟩
    have hmap := mapM_eq_ok_map fun x hx => shown_eq_ok_iff.2 ⟨hall x hx, rfl⟩
    exact Except.ok.inj (hmap.symm.trans h)
  · rintro ⟨hall, rfl⟩
    exact mapM_eq_ok_map fun x hx => shown_eq_ok_iff.2 ⟨hall x hx, rfl⟩

end Datum

/-- The least number that is too long to be written out. -/
theorem isWritable_posPow : isWritable (posPow 10 digitLimit) = false := by
  rw [isWritable, Int.natAbs_natCast]
  exact decide_eq_false (Nat.lt_irrefl _)

end RuleFit

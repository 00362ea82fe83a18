import RuleFit.Candidate.Basic
import RuleFit.Proofs.Equality

/-!
# The native form

A candidate is written as a bare number, or as a list of a number and its options. The reader takes
more than that: a truth value is a number too, a fixed sequence is as good as a list, a severity
without options can stand in a list, and every number equal to a level is a severity.

**Theorem (`ofNative_reads`).** A candidate that is written in native form is read back as it was.
What is read at all are the numbers and truth values equal to a level, and the lists, fixed
sequences and bytes whose first item is; what is read is written again in the one form that
candidates have, and read from there it is the same.

A value is taken apart as a number in front and the options behind it: a bare number has no options,
and a row has those behind its first item (`Datum.IsRow`). The reader agrees with this view in both
directions (`ofNative_eq_ok_iff`). It asks for no more than a first item and the items behind it, so
bytes are as good as a list: they are a row of numbers (`ofNative_bytes`).
-/

namespace RuleFit

/-! ## Levels -/

/-- A level is one of three numbers. -/
theorem Severity.level_mem (s : Severity) : s.level ∈ ([0, 1, 2] : List Int) := by
  cases s <;> decide

/-- Severities with equal levels are the same. -/
theorem Severity.eq_of_sameQuantity {d : Datum} {s t : Severity}
    (hs : d.sameQuantity s.toDatum = true) (ht : d.sameQuantity t.toDatum = true) : s = t := by
  obtain ⟨q, hq, hqs⟩ := Datum.sameQuantity_iff.1 hs
  obtain ⟨q', hq', hqt⟩ := Datum.sameQuantity_iff.1 ht
  obtain rfl := Option.some.inj (hq.symm.trans hq')
  have hst : s.toDatum.sameQuantity t.toDatum = true := Datum.sameQuantity_iff.2 ⟨q, hqs, hqt⟩
  revert hst
  cases s <;> cases t <;> decide

/-- The severity of a value is the one whose level it equals. -/
theorem Severity.ofDatum_eq_ok_iff {d : Datum} {s : Severity} :
    Severity.ofDatum d = .ok s ↔ d.sameQuantity s.toDatum = true := by
  let test : Severity → Bool := fun t => d.sameQuantity t.toDatum
  have hfind : Severity.ofDatum? d = some s ↔ test s = true := by
    constructor
    · intro h
      exact List.find?_some (p := test) h
    · intro h
      have hsome : ([off, warn, error].find? test).isSome := by
        rw [List.find?_isSome]
        exact ⟨s, by cases s <;> simp, h⟩
      obtain ⟨t, ht⟩ := Option.isSome_iff_exists.1 hsome
      have htest : test t = true := List.find?_some ht
      rw [Severity.eq_of_sameQuantity h htest]
      exact ht
  rw [← hfind, Severity.ofDatum]
  cases Severity.ofDatum? d <;> simp

/-- Some severity has a level equal to a value when the value equals zero, one or two. -/
theorem Severity.exists_sameQuantity_iff {d : Datum} :
    (∃ s : Severity, d.sameQuantity s.toDatum = true) ↔
      ∃ n ∈ ([0, 1, 2] : List Int), d.sameQuantity (.int n) = true := by
  constructor
  · rintro ⟨s, hs⟩
    exact ⟨s.level, s.level_mem, hs⟩
  · rintro ⟨n, hn, hd⟩
    simp only [List.mem_cons, List.not_mem_nil, or_false] at hn
    rcases hn with rfl | rfl | rfl
    · exact ⟨.off, hd⟩
    · exact ⟨.warn, hd⟩
    · exact ⟨.error, hd⟩

/-! ## Rows -/

/-- The value is a row: a first item with some items behind it. -/
inductive Datum.IsRow (d : Datum) : Datum → List Datum → Prop where
  | list {x : Datum} {xs : List Datum} (h : d.opened = .list (x :: xs)) : IsRow d x xs
  | tuple {x : Datum} {xs : List Datum} (h : d.opened = .tuple (x :: xs)) : IsRow d x xs
  | bytes {b : UInt8} {bs : List UInt8} (h : d.opened = .bytes (b :: bs)) :
    IsRow d (.int b.toNat) (bs.map fun b => .int b.toNat)

/-- The items behind the first one, which is for the severity. -/
def Datum.carried (d : Datum) : List Datum :=
  match d.opened with
  | .list items | .tuple items => items.tail
  | .bytes bs => bs.tail.map fun b => .int b.toNat
  | _ => []

/-- The value is a whole number or a truth value. -/
def Datum.IsBare (d : Datum) : Prop := (∃ n, d = .int n) ∨ ∃ b, d = .bool b

/-- The value equals a level. -/
def Datum.IsLevel (d : Datum) : Prop := ∃ n ∈ ([0, 1, 2] : List Int), d.sameQuantity (.int n) = true

theorem Datum.IsRow.carried_eq {d x : Datum} {xs : List Datum} (h : d.IsRow x xs) :
    d.carried = xs := by
  cases h with
  | list h => rw [Datum.carried, h]; rfl
  | tuple h => rw [Datum.carried, h]; rfl
  | bytes h => rw [Datum.carried, h]; rfl

/-- A row is a list, a fixed sequence or bytes with something in them. -/
theorem Datum.exists_isRow_iff {d : Datum} {P : Datum → Prop} :
    (∃ x xs, d.IsRow x xs ∧ P x) ↔
      (∃ x xs, (d.opened = .list (x :: xs) ∨ d.opened = .tuple (x :: xs)) ∧ P x) ∨
      ∃ b bs, d.opened = .bytes (b :: bs) ∧ P (.int b.toNat) := by
  constructor
  · rintro ⟨x, xs, hrow, hx⟩
    cases hrow with
    | list h => exact .inl ⟨x, xs, .inl h, hx⟩
    | tuple h => exact .inl ⟨x, xs, .inr h, hx⟩
    | bytes h => exact .inr ⟨_, _, h, hx⟩
  · rintro (⟨x, xs, h | h, hx⟩ | ⟨b, bs, h, hx⟩)
    · exact ⟨x, xs, .list h, hx⟩
    · exact ⟨x, xs, .tuple h, hx⟩
    · exact ⟨_, _, .bytes h, hx⟩

namespace Candidate

/-- The two parts of a row. -/
theorem parts_of_isRow {d x : Datum} {xs : List Datum} (h : d.IsRow x xs) :
    firstOf d = .ok x ∧ othersOf d = .ok xs := by
  unfold firstOf othersOf Datum.elements?
  cases h with
  | list h => rw [h]; exact ⟨rfl, rfl⟩
  | tuple h => rw [h]; exact ⟨rfl, rfl⟩
  | bytes h => rw [h]; exact ⟨rfl, rfl⟩

/-- Only rows and texts have both parts: a mapping has no others, and nothing else has any. -/
theorem isRow_of_parts {d x : Datum} {xs : List Datum} (hfirst : firstOf d = .ok x)
    (hothers : othersOf d = .ok xs) : d.IsRow x xs ∨ ∃ t, x = .text t := by
  unfold firstOf Datum.elements? at hfirst
  unfold othersOf Datum.elements? at hothers
  cases hd : d.opened with
  | list items =>
    rw [hd] at hfirst hothers
    cases items with
    | nil => cases hfirst
    | cons y ys =>
      cases hfirst
      cases hothers
      exact .inl (.list hd)
  | tuple items =>
    rw [hd] at hfirst hothers
    cases items with
    | nil => cases hfirst
    | cons y ys =>
      cases hfirst
      cases hothers
      exact .inl (.tuple hd)
  | bytes bs =>
    rw [hd] at hfirst hothers
    cases bs with
    | nil => cases hfirst
    | cons b bs =>
      cases hfirst
      cases hothers
      exact .inl (.bytes hd)
  | text t =>
    rw [hd] at hfirst
    obtain ⟨points⟩ := t
    cases points with
    | nil => cases hfirst
    | cons p points =>
      cases hfirst
      exact .inr ⟨.single p, rfl⟩
  | _ =>
    rw [hd] at hothers
    cases hothers

theorem ofRow_eq_ok_iff_parts {d : Datum} {c : Candidate} :
    ofRow d = .ok c ↔ ∃ x, firstOf d = .ok x ∧ Severity.ofDatum x = .ok c.severity ∧
      othersOf d = .ok c.options := by
  obtain ⟨s, options⟩ := c
  unfold ofRow
  cases hfirst : firstOf d with
  | error f => simp [bind, Except.bind]
  | ok x =>
    cases hseverity : Severity.ofDatum x with
    | error f => simp [hseverity, bind, Except.bind, Except.mapError]
    | ok t =>
      cases hothers : othersOf d with
      | error f => simp [hseverity, bind, Except.bind, Except.mapError]
      | ok xs => simp [hseverity, bind, Except.bind, Except.mapError, pure, Except.pure]

/-- The first item of a row is for the severity, and the others are the options. -/
theorem ofRow_eq_ok_iff {d : Datum} {c : Candidate} :
    ofRow d = .ok c ↔ ∃ x, d.IsRow x c.options ∧ x.sameQuantity c.severity.toDatum = true := by
  rw [ofRow_eq_ok_iff_parts]
  constructor
  · rintro ⟨x, hfirst, hseverity, hothers⟩
    rw [Severity.ofDatum_eq_ok_iff] at hseverity
    rcases isRow_of_parts hfirst hothers with hrow | ⟨t, rfl⟩
    · exact ⟨x, hrow, hseverity⟩
    · cases hseverity
  · rintro ⟨x, hrow, hseverity⟩
    obtain ⟨hfirst, hothers⟩ := parts_of_isRow hrow
    exact ⟨x, hfirst, Severity.ofDatum_eq_ok_iff.2 hseverity, hothers⟩

/-! ## Reading -/

theorem ofNative_of_isBare {d : Datum} (h : d.IsBare) :
    ofNative d =
      ((Severity.ofDatum d).mapError fun f => NativeFault.row (.severity f)).map (⟨·, []⟩) := by
  rcases h with ⟨n, rfl⟩ | ⟨b, rfl⟩ <;> rfl

theorem ofNative_of_not_isBare {d : Datum} (h : ¬ d.IsBare) :
    ofNative d = if d.isEmpty then .error .empty else (ofRow d).mapError .row := by
  unfold ofNative
  split
  · exact absurd (.inl ⟨_, rfl⟩) h
  · exact absurd (.inr ⟨_, rfl⟩) h
  · rfl

theorem not_isBare_of_isRow {d x : Datum} {xs : List Datum} (h : d.IsRow x xs) : ¬ d.IsBare := by
  rintro (⟨n, rfl⟩ | ⟨b, rfl⟩) <;> cases h <;> contradiction

theorem isEmpty_of_isRow {d x : Datum} {xs : List Datum} (h : d.IsRow x xs) :
    d.isEmpty = false := by
  unfold Datum.isEmpty
  cases h with
  | list h => rw [h]; rfl
  | tuple h => rw [h]; rfl
  | bytes h => rw [h]; rfl

/-- **What is read is a number equal to a level, or a row that starts with one.** -/
theorem ofNative_eq_ok_iff {d : Datum} {c : Candidate} :
    ofNative d = .ok c ↔
      d.IsBare ∧ d.sameQuantity c.severity.toDatum = true ∧ c.options = [] ∨
      ∃ x, d.IsRow x c.options ∧ x.sameQuantity c.severity.toDatum = true := by
  constructor
  · intro h
    by_cases hbare : d.IsBare
    · rw [ofNative_of_isBare hbare] at h
      cases hs : Severity.ofDatum d with
      | error f =>
        rw [hs] at h
        cases h
      | ok s =>
        rw [hs] at h
        cases h
        exact .inl ⟨hbare, Severity.ofDatum_eq_ok_iff.1 hs, rfl⟩
    · rw [ofNative_of_not_isBare hbare] at h
      split_ifs at h
      cases hrow : ofRow d with
      | error f =>
        rw [hrow] at h
        cases h
      | ok c' =>
        rw [hrow] at h
        cases h
        exact .inr (ofRow_eq_ok_iff.1 hrow)
  · rintro (⟨hbare, hs, hnone⟩ | ⟨x, hrow, hs⟩)
    · obtain ⟨s, options⟩ := c
      obtain rfl : options = [] := hnone
      rw [ofNative_of_isBare hbare, Severity.ofDatum_eq_ok_iff.2 hs]
      rfl
    · have hread : ofRow d = .ok c := ofRow_eq_ok_iff.2 ⟨x, hrow, hs⟩
      rw [ofNative_of_not_isBare (not_isBare_of_isRow hrow), isEmpty_of_isRow hrow, hread]
      rfl

/-- What is written is read back. -/
theorem ofNative_toNative (c : Candidate) : ofNative c.toNative = .ok c := by
  obtain ⟨s, options⟩ := c
  have hs : s.toDatum.sameQuantity s.toDatum = true := by cases s <;> decide
  rw [ofNative_eq_ok_iff, toNative]
  cases options with
  | nil => exact .inl ⟨.inl ⟨s.level, rfl⟩, hs, rfl⟩
  | cons d ds => exact .inr ⟨s.toDatum, .list rfl, hs⟩

/-- The options of what is read are those that the value carries. -/
theorem options_of_ofNative {d : Datum} {c : Candidate} (h : ofNative d = .ok c) :
    c.options = d.carried := by
  rcases ofNative_eq_ok_iff.1 h with ⟨⟨n, rfl⟩ | ⟨b, rfl⟩, -, hnone⟩ | ⟨x, hrow, -⟩
  · exact hnone
  · exact hnone
  · exact hrow.carried_eq.symm

/-- Whether a value can be read is said by the number in front. -/
theorem exists_ofNative_iff {d : Datum} :
    (∃ c, ofNative d = .ok c) ↔ d.IsBare ∧ d.IsLevel ∨ ∃ x xs, d.IsRow x xs ∧ x.IsLevel := by
  constructor
  · rintro ⟨c, hc⟩
    rcases ofNative_eq_ok_iff.1 hc with ⟨hbare, hs, -⟩ | ⟨x, hrow, hs⟩
    · exact .inl ⟨hbare, Severity.exists_sameQuantity_iff.1 ⟨_, hs⟩⟩
    · exact .inr ⟨x, _, hrow, Severity.exists_sameQuantity_iff.1 ⟨_, hs⟩⟩
  · rintro (⟨hbare, hlevel⟩ | ⟨x, xs, hrow, hlevel⟩)
    · obtain ⟨s, hs⟩ := Severity.exists_sameQuantity_iff.2 hlevel
      exact ⟨⟨s, []⟩, ofNative_eq_ok_iff.2 (.inl ⟨hbare, hs, rfl⟩)⟩
    · obtain ⟨s, hs⟩ := Severity.exists_sameQuantity_iff.2 hlevel
      exact ⟨⟨s, xs⟩, ofNative_eq_ok_iff.2 (.inr ⟨x, hrow, hs⟩)⟩

/-- **Every candidate is read back from its native form, nothing is read but levels and rows that
start with one, and what is read has one form to be written in.** -/
theorem ofNative_reads :
    (∀ c : Candidate, ofNative c.toNative = .ok c) ∧
    (∀ d : Datum, (∃ c, ofNative d = .ok c) ↔
      ((∃ n, d = .int n) ∨ ∃ b, d = .bool b) ∧ d.IsLevel ∨
      (∃ x xs, (d.opened = .list (x :: xs) ∨ d.opened = .tuple (x :: xs)) ∧ x.IsLevel) ∨
      ∃ b bs, d.opened = .bytes (b :: bs) ∧ (Datum.int b.toNat).IsLevel) ∧
    ∀ d c, ofNative d = .ok c →
      c.options = d.carried ∧
      (d.carried = [] → c.toNative = .int c.severity.level) ∧
      (d.carried ≠ [] → c.toNative = .list (.int c.severity.level :: d.carried)) ∧
      ofNative c.toNative = ofNative d := by
  refine ⟨ofNative_toNative, fun d => ?_, fun d c hc => ?_⟩
  · rw [exists_ofNative_iff, Datum.exists_isRow_iff]
    rfl
  · have hoptions := options_of_ofNative hc
    refine ⟨hoptions, fun hnone => ?_, fun hsome => ?_, ?_⟩
    · rw [toNative, hoptions, hnone]
      rfl
    · rw [toNative, hoptions, if_neg (by simpa using hsome)]
      rfl
    · rw [ofNative_toNative, hc]

/-- Bytes are read as the row of their numbers, though they are neither a number nor a list. -/
theorem ofNative_bytes :
    let d : Datum := .bytes [2]
    ofNative d = .ok ⟨.error, []⟩ ∧
      ¬(((∃ n, d = .int n) ∨ ∃ b, d = .bool b) ∧ d.IsLevel ∨
        ∃ x xs, (d.opened = .list (x :: xs) ∨ d.opened = .tuple (x :: xs)) ∧ x.IsLevel) := by
  refine ⟨rfl, ?_⟩
  rintro (⟨⟨n, h⟩ | ⟨b, h⟩, -⟩ | ⟨x, xs, h | h, -⟩) <;> cases h

/-- A fixed sequence that starts with a truth value is a warning with an option. -/
example : ofNative (.tuple [.bool true, .text "always"]) = .ok ⟨.warn, [.text "always"]⟩ := by
  rfl

end Candidate

end RuleFit

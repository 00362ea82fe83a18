import Mathlib.Data.List.Induction
import RuleFit.Proofs.Growth
import RuleFit.Proofs.Steps

/-!
# Expansions under any steps

Nothing keeps an expansion from being grown after its severity is in place, or from being asked for
the severity once more. A *step* grows it by values of any kind, grows it by the objects of an
option, or puts a severity in place. A step fails when its values cannot be gone through, or when a
severity is in place already. The next step then works on the expansion that the failed one left,
which is the one it found (`perform_eq_error`).

**Theorem (`after_assembles`).** Whatever steps were made, the expansion holds rows, and growing
keeps them in front. Until a severity is in place no row is empty. The first severity always gets
into place, and from then on it alone is the first row, every row starts with it, and every other
severity is refused. A step that fails leaves the expansion as it was.

A value can stand for no items, so a row need not become longer when it is extended; but every new
row starts with a row that was there, or else is made of a single value (`mem_growRows`). So growing
keeps whatever only depends on how rows start (`Placed.grow`), and every history keeps it
(`placed_after`).
-/

namespace RuleFit

/-! ## Steps -/

namespace Expansion

/-- A step of an expansion: values to grow by, an object option to grow by, or a severity. -/
inductive Step where
  | values (values : Datum)
  | object (properties : List (Text × Domain))
  | severity (severity : Severity)

/-- The severity that a step puts in place. -/
def Step.severity? : Step → Option Severity
  | .severity s => some s
  | .values _ | .object _ => none

/-- The first severity among some steps. -/
def severity? (steps : List Step) : Option Severity := steps.findSome? Step.severity?

/-- The expansion that a step leads to, or its fault with the expansion that it leaves. -/
def perform (e : Expansion) : Step → Change ExpansionFault Expansion
  | .values values => (e.grow values).mapError fun r => (.kind r.1, r.2)
  | .object properties => (e.addObject properties).mapError fun r => (.kind r.1, r.2)
  | .severity s => e.addSeverity s

/-- The expansion behind a step that may have failed. -/
def attempt (e : Expansion) (step : Step) : Expansion :=
  match e.perform step with
  | .ok e' | .error (_, e') => e'

/-- The expansion behind some steps, from the beginning. -/
def after (steps : List Step) : Expansion := steps.foldl attempt (.start .null)

theorem after_concat (steps : List Step) (step : Step) :
    after (steps ++ [step]) = (after steps).attempt step :=
  List.foldl_concat ..

theorem severity?_concat (steps : List Step) (step : Step) :
    severity? (steps ++ [step]) = (severity? steps).or step.severity? := by
  rw [severity?, List.findSome?_append, List.findSome?_singleton]
  rfl

/-! ## Steps that fail -/

section Fail

variable {e e' : Expansion}

theorem grow_eq_error {values : Datum} {f : KindFault} (h : e.grow values = .error (f, e')) :
    e' = e := by
  unfold grow at h
  split_ifs at h
  rcases bind_eq_error.1 h with h | ⟨more, -, h⟩
  · exact state_eq_of_mapError h
  · split at h
    · cases h
    · exact (congrArg Prod.snd (Except.error.inj h)).symm

theorem addSeverity_eq_error {s : Severity} {f : ExpansionFault}
    (h : e.addSeverity s = .error (f, e')) : e' = e := by
  unfold addSeverity at h
  split_ifs at h
  · exact (congrArg Prod.snd (Except.error.inj h)).symm
  rcases bind_eq_error.1 h with h | ⟨rows, -, h⟩
  · exact state_eq_of_mapError h
  · rcases bind_eq_error.1 h with h | ⟨rows', -, h⟩
    · exact state_eq_of_mapError h
    · cases h

/-- A step that fails leaves the expansion as it was, whatever that is. -/
theorem perform_eq_error {step : Step} {f : ExpansionFault}
    (h : e.perform step = .error (f, e')) : e' = e := by
  have hgrow : ∀ values,
      ((e.grow values).mapError fun r => (ExpansionFault.kind r.1, r.2)) = .error (f, e') →
        e' = e := by
    intro values hvalues
    obtain ⟨⟨f', left⟩, hleft, heq⟩ := mapError_eq_error.1 hvalues
    rw [← grow_eq_error hleft]
    exact (congrArg Prod.snd heq).symm
  cases step with
  | values values => exact hgrow values h
  | object properties => exact hgrow _ h
  | severity s => exact addSeverity_eq_error h

end Fail

/-! ## Growing by values of any kind -/

/-- A value that is gone through item by item and is not empty has items. -/
theorem ne_nil_of_elements {d : Datum} {items : List Datum} (h : d.elements = .ok items)
    (hd : d.isEmpty = false) : items ≠ [] := by
  rintro rfl
  unfold Datum.elements Datum.elements? at h
  unfold Datum.isEmpty at hd
  cases hopened : d.opened <;> simp_all [Text.isEmpty]

/-- Rows grow by the items of a value; one that cannot be gone through is a fault. -/
theorem grow_ofRows_value (rows : List (List Datum)) (d : Datum) (finished : Bool) :
    grow ⟨ofRows rows, finished⟩ d =
      if d.isEmpty then .ok ⟨ofRows rows, finished⟩
      else (d.elements.map fun items => ⟨ofRows (growRows rows items), finished⟩).mapError
        (·, ⟨ofRows rows, finished⟩) := by
  by_cases hd : d.isEmpty = true
  · rw [grow, if_pos hd, if_pos hd]
  · have hcombine : (ofRows rows).combine d = d.elements.map (RuleFit.combine (rows.map .list)) :=
      Datum.combine_list _ (by simpa using hd)
    rw [grow, if_neg hd, if_neg hd]
    cases hitems : d.elements with
    | error f =>
      simp only [hcombine, hitems, Except.map, Except.mapError, bind, Except.bind]
    | ok items =>
      have hsome : items.isEmpty = false := by
        simpa using ne_nil_of_elements hitems (by simpa using hd)
      simp only [hcombine, hitems, Except.map, Except.mapError, bind, Except.bind]
      simp [ofRows, growRows, hsome, pure, Except.pure]

/-- A new row goes on from one that was there, or is a single value where there was none. -/
theorem mem_growRows {rows : List (List Datum)} {items row : List Datum}
    (h : row ∈ growRows rows items) :
    (∃ front ∈ rows, front <+: row) ∨ rows = [] ∧ ∃ x, row = [x] := by
  unfold growRows combine at h
  split_ifs at h with hitems hrows
  · exact .inl ⟨row, h, List.prefix_rfl⟩
  · have hnone : rows = [] := by simpa using hrows
    subst hnone
    obtain ⟨x, -, rfl⟩ := List.mem_map.1 h
    exact .inr ⟨rfl, x, rfl⟩
  · rcases List.mem_append.1 h with hold | hnew
    · exact .inl ⟨row, hold, List.prefix_rfl⟩
    · obtain ⟨x, hx, hrow⟩ := List.mem_flatMap.1 hnew
      obtain ⟨front, hfront, rfl⟩ := List.mem_map.1 hx
      obtain ⟨y, -, rfl⟩ := List.mem_map.1 hrow
      exact .inl ⟨front, hfront, List.prefix_append ..⟩

/-- A step without a severity grows the rows, unless its values cannot be gone through. -/
theorem perform_ofRows (rows : List (List Datum)) (finished : Bool) {step : Step}
    (h : step.severity? = none) :
    (∃ items, perform ⟨ofRows rows, finished⟩ step =
      .ok ⟨ofRows (growRows rows items), finished⟩) ∨
    ∃ d f, step = .values d ∧ d.elements = .error f ∧
      perform ⟨ofRows rows, finished⟩ step = .error (.kind f, ⟨ofRows rows, finished⟩) := by
  cases step with
  | severity s => cases h
  | object properties =>
    refine .inl ⟨(objectsOf properties).map .map, ?_⟩
    rw [perform, addObject, grow_ofRows]
    rfl
  | values d =>
    rw [perform, grow_ofRows_value]
    by_cases hd : d.isEmpty = true
    · refine .inl ⟨[], ?_⟩
      rw [if_pos hd]
      rfl
    · rw [if_neg hd]
      cases hitems : d.elements with
      | ok items => exact .inl ⟨items, rfl⟩
      | error f => exact .inr ⟨d, f, rfl, hitems, rfl⟩

/-! ## The invariant -/

/-- How rows start: with the severity that is in place, which alone is the first row; until then
with anything. -/
def Placed (placed : Option Severity) (rows : List (List Datum)) : Prop :=
  match placed with
  | none => ∀ row ∈ rows, row ≠ []
  | some s => rows.head? = some [s.toDatum] ∧ ∀ row ∈ rows, row.head? = some s.toDatum

theorem Placed.grow {placed : Option Severity} {rows : List (List Datum)} (h : Placed placed rows)
    (items : List Datum) : Placed placed (growRows rows items) := by
  cases placed with
  | none =>
    intro row hrow
    rcases mem_growRows hrow with ⟨front, hfront, hprefix⟩ | ⟨-, x, rfl⟩
    · rintro rfl
      exact h front hfront (List.prefix_nil.1 hprefix)
    · exact List.cons_ne_nil _ _
  | some s =>
    obtain ⟨hfirst, hstarts⟩ := h
    obtain ⟨more, hmore⟩ := prefix_growRows rows items
    refine ⟨?_, fun row hrow => ?_⟩
    · rw [← hmore, List.head?_append, hfirst, Option.some_or]
    · rcases mem_growRows hrow with ⟨front, hfront, rest, rfl⟩ | ⟨rfl, -⟩
      · rw [List.head?_append, hstarts front hfront, Option.some_or]
      · cases hfirst

/-- The first severity is the first row and the start of every other. -/
theorem placed_severity (rows : List (List Datum)) (s : Severity) :
    Placed (some s) ([s.toDatum] :: rows.map (s.toDatum :: ·)) := by
  refine ⟨rfl, fun row hrow => ?_⟩
  rcases List.mem_cons.1 hrow with rfl | hrow
  · rfl
  · obtain ⟨rest, -, rfl⟩ := List.mem_map.1 hrow
    rfl

theorem perform_severity_again (rows : List (List Datum)) (s : Severity) :
    perform ⟨ofRows rows, true⟩ (.severity s) = .error (.severityTwice, ⟨ofRows rows, true⟩) :=
  rfl

theorem placed_after (steps : List Step) :
    ∃ rows, after steps = ⟨ofRows rows, (severity? steps).isSome⟩ ∧
      Placed (severity? steps) rows := by
  induction steps using List.reverseRecOn with
  | nil => exact ⟨[], rfl, fun row hrow => by cases hrow⟩
  | append_singleton steps step ih =>
    obtain ⟨rows, hafter, hplaced⟩ := ih
    rw [after_concat, severity?_concat, attempt, hafter]
    cases hstep : step.severity? with
    | none =>
      rw [Option.or_none]
      rcases perform_ofRows rows (severity? steps).isSome hstep with
        ⟨items, hperform⟩ | ⟨d, f, -, -, hperform⟩
      · rw [hperform]
        exact ⟨_, rfl, hplaced.grow items⟩
      · rw [hperform]
        exact ⟨rows, rfl, hplaced⟩
    | some s =>
      have hseverity : step = .severity s := by
        cases step <;> simp_all [Step.severity?]
      subst hseverity
      cases hsome : severity? steps with
      | none =>
        have hput := addSeverity_ofRows rows s
        rw [Option.isSome_none, perform, hput]
        exact ⟨_, rfl, placed_severity rows s⟩
      | some t =>
        rw [hsome] at hplaced
        rw [Option.isSome_some, perform_severity_again]
        exact ⟨rows, rfl, hplaced⟩

/-! ## The histories -/

/-- **Rows stay in front whatever is done; no row is empty before there is a severity, the first one
gets into place for good, every other is refused, and a step that fails leaves all as it was.** -/
theorem after_assembles (steps : List Step) :
    ∃ rows, after steps = ⟨ofRows rows, (severity? steps).isSome⟩ ∧
      (∀ step, step.severity? = none →
        (∃ more, (after steps).perform step =
          .ok ⟨ofRows (rows ++ more), (severity? steps).isSome⟩) ∨
        ∃ d f, step = .values d ∧ d.elements = .error f ∧
          (after steps).perform step = .error (.kind f, after steps)) ∧
      (severity? steps = none → (∀ row ∈ rows, row ≠ []) ∧
        ∀ s, (after steps).perform (.severity s) =
          .ok ⟨ofRows ([s.toDatum] :: rows.map (s.toDatum :: ·)), true⟩) ∧
      (∀ s, severity? steps = some s →
        rows.head? = some [s.toDatum] ∧ (∀ row ∈ rows, row.head? = some s.toDatum) ∧
        ∀ t, (after steps).perform (.severity t) = .error (.severityTwice, after steps)) ∧
      ∀ step, (∀ e, (after steps).perform step = .ok e → after (steps ++ [step]) = e) ∧
        ∀ f e, (after steps).perform step = .error (f, e) →
          e = after steps ∧ after (steps ++ [step]) = after steps := by
  obtain ⟨rows, hafter, hplaced⟩ := placed_after steps
  refine ⟨rows, hafter, fun step hstep => ?_, fun hnone => ?_, fun s hs => ?_, fun step => ?_⟩
  · rw [hafter]
    rcases perform_ofRows rows (severity? steps).isSome hstep with ⟨items, hperform⟩ | hfault
    · obtain ⟨more, hmore⟩ := prefix_growRows rows items
      exact .inl ⟨more, by rw [hperform, hmore]⟩
    · exact .inr hfault
  · rw [hnone] at hafter hplaced
    refine ⟨hplaced, fun s => ?_⟩
    rw [hafter]
    exact addSeverity_ofRows rows s
  · rw [hs] at hafter hplaced
    refine ⟨hplaced.1, hplaced.2, fun t => ?_⟩
    rw [hafter]
    exact perform_severity_again rows t
  · rw [after_concat, attempt]
    refine ⟨fun e he => ?_, fun f e hf => ?_⟩
    · rw [he]
    · obtain rfl := perform_eq_error hf
      rw [hf]
      exact ⟨rfl, rfl⟩

/-- Behind the severity a list is still spliced, and an empty one adds a row like the one before. -/
example : after [.values (.list [.text "a"]), .severity .error, .values (.list [.list []]),
      .severity .warn] =
    ⟨ofRows [[.int 2], [.int 2, .text "a"], [.int 2], [.int 2, .text "a"]], true⟩ := by
  decide

end Expansion

end RuleFit

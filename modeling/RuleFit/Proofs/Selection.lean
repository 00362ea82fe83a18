import RuleFit.Proofs.History

/-!
# Selecting

To select is to strip a board and to choose among what is left on it. The choice is made by four
tables laid one over the other, in which one candidate may come up twice: the only one of a rule is
also the only one of its specificity. Rule by rule this comes to an order of preference
(`Settles`): the only entry there is, or else the only one with one option, or else the only one
with two, or else the only one without any.

**Theorem (`selects`).** On every board, whatever it went through, a strip keeps the entries without
errors and drops the rules that have none, in their order; every rule that is left gets the entry
that settles it, if there is one; the unresolved rules are those, in their order, with two entries
or more and none that is alone at one of the three specificities; and to select once more changes
nothing.
-/

namespace RuleFit

namespace Scoreboard

/-- The entries of a rule settle it on one of them. -/
def Settles (es : List Entry) (e : Entry) : Prop :=
  es = [e] ∨ es.length ≠ 1 ∧
    (level 2 es = [e] ∨ (level 2 es).length ≠ 1 ∧
      (level 3 es = [e] ∨ (level 3 es).length ≠ 1 ∧ level 1 es = [e]))

variable {es : List Entry} {c : Candidate}

/-! ## What settles a rule -/

theorem sole?_eq_some_iff : sole? es = some c ↔ ∃ e, es = [e] ∧ c = e.candidate := by
  rcases es with _ | ⟨e, _ | ⟨f, rest⟩⟩
  · simp [sole?]
  · simp [sole?, eq_comm]
  · simp [sole?]

theorem sole?_eq_none_iff : sole? es = none ↔ es.length ≠ 1 := by
  rw [sole?_eq_sole, sole_eq_none, List.length_map]

/-- The candidate that is picked belongs to the entry that settles the rule. -/
theorem pick?_eq_some_iff : pick? es = some c ↔ ∃ e, Settles es e ∧ c = e.candidate := by
  rw [pick?_eq]
  simp only [Option.or_eq_some_iff, sole?_eq_some_iff, sole?_eq_none_iff, Settles]
  constructor
  · rintro (⟨e, he, rfl⟩ | ⟨hall, ⟨e, he, rfl⟩ | ⟨htwo, ⟨e, he, rfl⟩ | ⟨hthree, e, he, rfl⟩⟩⟩)
    · exact ⟨e, .inl he, rfl⟩
    · exact ⟨e, .inr ⟨hall, .inl he⟩, rfl⟩
    · exact ⟨e, .inr ⟨hall, .inr ⟨htwo, .inl he⟩⟩, rfl⟩
    · exact ⟨e, .inr ⟨hall, .inr ⟨htwo, .inr ⟨hthree, he⟩⟩⟩, rfl⟩
  · rintro ⟨e, he | ⟨hall, he | ⟨htwo, he | ⟨hthree, he⟩⟩⟩, rfl⟩
    · exact .inl ⟨e, he, rfl⟩
    · exact .inr ⟨hall, .inl ⟨e, he, rfl⟩⟩
    · exact .inr ⟨hall, .inr ⟨htwo, .inl ⟨e, he, rfl⟩⟩⟩
    · exact .inr ⟨hall, .inr ⟨htwo, .inr ⟨hthree, e, he, rfl⟩⟩⟩

theorem pick?_eq_none_iff :
    pick? es = none ↔ es.length ≠ 1 ∧ ∀ n ∈ [1, 2, 3], (level n es).length ≠ 1 := by
  simp only [pick?_eq, Option.or_eq_none_iff, sole?_eq_none_iff, List.forall_mem_cons]
  tauto

/-! ## What a strip leaves -/

variable (b : Scoreboard)

theorem rows_strip : b.strip.rules.rows =
    (b.rules.rows.map fun r => (r.1, r.2.filter fun e => decide (e.errors = 0))).filter
      fun r => !r.2.isEmpty := by
  have hclean : ∀ es : List Entry,
      es.filter Entry.isClean = es.filter fun e => decide (e.errors = 0) := fun es =>
    List.filter_congr fun e _ => rfl
  simp only [strip, RuleTable.filterMap, hclean]
  induction b.rules.rows with
  | nil => rfl
  | cons r rows ih =>
    rw [List.filterMap_cons, List.map_cons, ih]
    cases hr : r.2.filter fun e => decide (e.errors = 0) with
    | nil => simp
    | cons e rest => simp

theorem dropped_strip : b.strip.dropped = b.dropped ++
    (b.rules.rows.filter fun r => r.2.all fun e => decide (e.errors ≠ 0)).map Prod.fst := by
  have hfailing : ∀ es : List Entry,
      (!es.any Entry.isClean) = es.all fun e => decide (e.errors ≠ 0) := by
    intro es
    rw [List.not_any_eq_all_not]
    exact congrArg es.all (funext fun e => by simp [Entry.isClean, beq_eq_decide])
  simp only [strip, failing, RuleTable.ids, RuleTable.rows_filter, hfailing]

/-- A stripped board has nothing more to strip. -/
theorem strip_strip : b.strip.strip = b.strip := by
  have hrow : ∀ r ∈ b.strip.rules.rows, r.2 ≠ [] ∧ ∀ e ∈ r.2, e.errors = 0 := by
    intro r hr
    exact clean_of_get?_strip (RuleTable.get?_eq_some_iff.2 hr)
  refine Scoreboard.ext (RuleTable.ext ?_) ?_
  · have hmap : (b.strip.rules.rows.map fun r => (r.1, r.2.filter fun e => decide (e.errors = 0))) =
        b.strip.rules.rows := by
      refine (List.map_congr_left fun r hr => ?_).trans (List.map_id _)
      have hall : r.2.filter (fun e => decide (e.errors = 0)) = r.2 :=
        List.filter_eq_self.2 fun e he => decide_eq_true ((hrow r hr).2 e he)
      rw [hall, id]
    rw [rows_strip, hmap, List.filter_eq_self]
    intro r hr
    simpa using (hrow r hr).1
  · have hnone : (b.strip.rules.rows.filter fun r =>
        r.2.all fun e => decide (e.errors ≠ 0)) = [] := by
      refine List.filter_eq_nil_iff.2 fun r hr hall => ?_
      obtain ⟨e, he⟩ := List.exists_mem_of_ne_nil r.2 (hrow r hr).1
      exact of_decide_eq_true (List.all_eq_true.1 hall e he) ((hrow r hr).2 e he)
    rw [dropped_strip b.strip, hnone, List.map_nil, List.append_nil]

/-! ## What a choice leaves open -/

/-- The rules that a choice leaves open, in their order. -/
theorem unresolved_choose : b.unresolved b.choose =
    (b.rules.rows.filter fun r =>
      decide (r.2.length ≠ 1 ∧ ∀ n ∈ [1, 2, 3], (level n r.2).length ≠ 1)).map Prod.fst := by
  rw [unresolved, RuleTable.ids, List.filter_map]
  refine congrArg _ (List.filter_congr fun r hr => ?_)
  have hget : b.rules.get? r.1 = some r.2 := RuleTable.get?_eq_some_iff.2 hr
  rw [Function.comp_apply, RuleTable.contains_eq_isSome, get?_choose, hget,
    Option.bind_some, Bool.eq_iff_iff, decide_eq_true_iff, ← pick?_eq_none_iff]
  simp

/-- **To select is to keep the entries without errors and to settle every rule on the preferred one
of them, if one stands alone; what is not settled stays open, and selecting again changes
nothing.** -/
theorem selects (b : Scoreboard) :
    let left := b.strip
    let chosen := left.choose
    left.rules.rows =
      (b.rules.rows.map fun r => (r.1, r.2.filter fun e => decide (e.errors = 0))).filter
        (fun r => !r.2.isEmpty) ∧
    left.dropped = b.dropped ++
      (b.rules.rows.filter fun r => r.2.all fun e => decide (e.errors ≠ 0)).map Prod.fst ∧
    (∀ id c, chosen.get? id = some c ↔
      ∃ es e, left.rules.get? id = some es ∧ Settles es e ∧ c = e.candidate) ∧
    left.unresolved chosen =
      (left.rules.rows.filter fun r =>
        decide (2 ≤ r.2.length ∧ ∀ n ∈ [1, 2, 3], (level n r.2).length ≠ 1)).map Prod.fst ∧
    left.strip = left ∧ left.strip.choose = chosen := by
  intro left chosen
  refine ⟨b.rows_strip, b.dropped_strip, ?_, ?_, b.strip_strip, ?_⟩
  · intro id c
    rw [get?_choose, Option.bind_eq_some_iff]
    constructor
    · rintro ⟨es, hes, hpick⟩
      obtain ⟨e, he, hc⟩ := pick?_eq_some_iff.1 hpick
      exact ⟨es, e, hes, he, hc⟩
    · rintro ⟨es, e, hes, he, hc⟩
      exact ⟨es, hes, pick?_eq_some_iff.2 ⟨e, he, hc⟩⟩
  · -- No rule is left without entries, so with other than one there are two or more.
    rw [unresolved_choose]
    refine congrArg _ (List.filter_congr fun r hr => ?_)
    have hne : r.2 ≠ [] := (clean_of_get?_strip (RuleTable.get?_eq_some_iff.2 hr)).1
    have hpos : 0 < r.2.length := List.length_pos_iff.2 hne
    have htwo : r.2.length ≠ 1 ↔ 2 ≤ r.2.length := by omega
    simp only [htwo]
  · exact congrArg choose b.strip_strip

/-- Three clean entries, two of one specificity: the third settles the rule. Another rule is
dropped, and selecting again gives the same. -/
example :
    let b : Scoreboard := ⟨.ofRows [("semi", [⟨⟨.error, []⟩, 1, 0⟩,
      ⟨⟨.error, [.text "always"]⟩, 2, 0⟩, ⟨⟨.error, [.text "never"]⟩, 2, 0⟩]),
      ("quotes", [⟨⟨.error, []⟩, 1, 2⟩])], []⟩
    b.strip.choose.get? "semi" = some ⟨.error, []⟩ ∧ b.strip.strip.dropped = ["quotes"] := by
  decide

end Scoreboard

end RuleFit

import Mathlib.Data.List.Induction
import RuleFit.Proofs.Choice
import RuleFit.Proofs.Steps

/-!
# What a scoreboard keeps

A scoreboard starts with the candidates of every rule and changes by four operations: errors are
charged to a candidate, rules are discarded, failing candidates are stripped, and a choice is made,
which strips first. Only a charge can fail, when its rule is not on the board or its position names
no candidate of the rule. The next operation then works on the board that the failed one left. A
charge whose parts are any values is one of these, or fails in the same way (`chargeAt_cases`).

**Theorem (`after_keeps`).** After any operations in any order, failed ones among them, the rules on
the board are initial rules in their order, with initial candidates in their order, each with its
specificity. No rule was dropped twice or is on the board again, and a rule that is missing was
dropped or discarded. Right after a strip every rule has a candidate and no candidate has errors. An
operation that fails leaves the board as it was.

The invariant is `Descends`: it says where the rules and the candidates on a board come from, and
accounts for the rules that are missing. Each operation keeps it (`Descends.perform`), so every
history does (`descends_after`).
-/

namespace RuleFit

/-! ## Operations -/

/-- An operation that changes a scoreboard. A choice strips the board first, unless it is told not
to. -/
inductive Operation where
  | charge (rule : Text) (position count : Int)
  | discard (rules : List Text)
  | strip
  | choose (strips : Bool)
  deriving DecidableEq

namespace Operation

/-- Whether only clean candidates are left behind the operation. -/
def strips : Operation → Bool
  | .strip | .choose true => true
  | .charge .. | .discard _ | .choose false => false

/-- The rules that the operation takes off the board by name. -/
def discarded : Operation → List Text
  | .discard ids => ids
  | .charge .. | .strip | .choose _ => []

/-- The fault of the operation on a board: a charge names a rule that is not there, or a position
outside of the list of its candidates, counted from either end. -/
def fault? (b : Scoreboard) : Operation → Option BoardFault
  | .charge id position _ =>
    match b.rules.get? id with
    | none => some (.unknownRule id)
    | some es =>
      if -(es.length : Int) ≤ position ∧ position < es.length then none
      else some (noPlace position)
  | .discard _ | .strip | .choose _ => none

end Operation

namespace Scoreboard

/-- The board that an operation leads to, or its fault with the board that it leaves. -/
def perform (b : Scoreboard) : Operation → Change Scoreboard
  | .charge id position count => b.charge id position count
  | .discard ids => .ok (b.discard ids)
  | .strip => .ok b.strip
  | .choose strips => .ok (if strips then b.strip else b)

/-- The board behind an operation that may have failed. -/
def attempt (b : Scoreboard) (op : Operation) : Scoreboard :=
  match b.perform op with
  | .ok b' | .error (_, b') => b'

/-- The board behind some operations. -/
def after (b : Scoreboard) (ops : List Operation) : Scoreboard :=
  ops.foldl attempt b

theorem after_concat (b : Scoreboard) (ops : List Operation) (op : Operation) :
    b.after (ops ++ [op]) = (b.after ops).attempt op :=
  List.foldl_concat ..

variable {b : Scoreboard}

/-! ### Charges that fail -/

/-- A position names a place exactly when it lies within the length of the list, from the front or
from the back. -/
theorem place?_eq_none_iff {n : Nat} {position : Int} :
    place? n position = none ↔ ¬(-(n : Int) ≤ position ∧ position < n) := by
  unfold place?
  by_cases hneg : position < 0
  · simp only [hneg, if_true, ite_eq_right_iff, reduceCtorEq, imp_false]
    omega
  · simp only [hneg, if_false, ite_eq_right_iff, reduceCtorEq, imp_false]
    omega

/-- A charge that does not fail changes the errors of one entry. -/
theorem charge_eq_ok {id : Text} {position count : Int} {b' : Scoreboard}
    (h : b.charge id position count = .ok b') :
    ∃ es i, b.rules.get? id = some es ∧ place? es.length position = some i ∧
      b' = { b with rules := b.rules.set id (es.modify i (·.charge count)) } := by
  cases hes : b.rules.get? id with
  | none =>
    rw [b.charge_of_unknown count hes] at h
    cases h
  | some es =>
    cases hi : place? es.length position with
    | none =>
      rw [b.charge_of_noPlace count hes hi] at h
      cases h
    | some i =>
      rw [b.charge_of_place count hes hi] at h
      exact ⟨es, i, rfl, hi, (Except.ok.inj h).symm⟩

/-- An operation fails by its fault, and leaves the board as it was. -/
theorem perform_eq_error_iff {op : Operation} {f : BoardFault} {b' : Scoreboard} :
    b.perform op = .error (f, b') ↔ op.fault? b = some f ∧ b' = b := by
  cases op with
  | charge id position count =>
    cases hes : b.rules.get? id with
    | none => simp [perform, b.charge_of_unknown count hes, Operation.fault?, hes, eq_comm]
    | some es =>
      cases hi : place? es.length position with
      | none =>
        have hout := place?_eq_none_iff.1 hi
        simp [perform, b.charge_of_noPlace count hes hi, Operation.fault?, hes, hout, eq_comm]
      | some i =>
        have hin : -(es.length : Int) ≤ position ∧ position < es.length := by
          by_contra hout
          rw [place?_eq_none_iff.2 hout] at hi
          cases hi
        simp [perform, b.charge_of_place count hes hi, Operation.fault?, hes, hin]
  | discard ids => simp [perform, Operation.fault?]
  | strip => simp [perform, Operation.fault?]
  | choose strips => simp [perform, Operation.fault?]

/-- A charge whose rule, position and count are values is a charge, or fails and leaves the board as
it was. -/
theorem chargeAt_cases (b : Scoreboard) (rule position count : Datum) :
    (∃ id place n, b.chargeAt rule position count = b.perform (.charge id place n)) ∨
      ∃ f, b.chargeAt rule position count = .error (f, b) := by
  cases h : b.chargeAt rule position count with
  | ok b' =>
    simp only [chargeAt, bind_eq_ok] at h
    obtain ⟨id, -, -, -, place, -, n, -, h⟩ := h
    exact .inl ⟨id, place, n, h.symm⟩
  | error r =>
    obtain ⟨f, b'⟩ := r
    have hleft : b' = b := by
      unfold chargeAt at h
      rcases bind_eq_error.1 h with h | ⟨id, -, h⟩
      · exact state_eq_of_mapError h
      rcases bind_eq_error.1 h with h | ⟨-, -, h⟩
      · exact state_eq_of_mapError h
      rcases bind_eq_error.1 h with h | ⟨place, -, h⟩
      · exact state_eq_of_mapError h
      rcases bind_eq_error.1 h with h | ⟨n, -, h⟩
      · exact state_eq_of_mapError h
      · have hcharge : b.perform (.charge id place n) = .error (f, b') := h
        exact (perform_eq_error_iff.1 hcharge).2
    exact .inr ⟨f, by rw [hleft]⟩

/-! ## The invariant -/

/-- Where what is on a board comes from: `t` holds the initial candidates, and `named` the rules
that were discarded by name. -/
structure Descends (t : RuleTable (List Candidate)) (named : List Text) (b : Scoreboard) :
    Prop where
  live : b.rules.ids.Sublist t.ids
  candidates : ∀ id es, b.rules.get? id = some es →
    ∃ cs, t.get? id = some cs ∧ (es.map Entry.candidate).Sublist cs
  rated : ∀ id es, b.rules.get? id = some es → ∀ e ∈ es, e.IsRated
  dropped_nodup : b.dropped.Nodup
  dropped : ∀ id ∈ b.dropped, id ∈ t.ids ∧ id ∉ b.rules.ids
  accounted : ∀ id ∈ t.ids, id ∈ b.rules.ids ∨ id ∈ b.dropped ∨ id ∈ named

theorem descends_ofCandidates (t : RuleTable (List Candidate)) :
    (ofCandidates t).Descends t [] where
  live := by
    rw [ofCandidates, RuleTable.ids_map]
  candidates id es h := by
    rw [ofCandidates, RuleTable.get?_map, Option.map_eq_some_iff] at h
    obtain ⟨cs, hcs, rfl⟩ := h
    have hsame : (cs.map Entry.ofCandidate).map Entry.candidate = cs := by
      simp [Function.comp_def, Entry.ofCandidate]
    exact ⟨cs, hcs, by rw [hsame]⟩
  rated id es h := by
    rw [ofCandidates, RuleTable.get?_map, Option.map_eq_some_iff] at h
    obtain ⟨cs, -, rfl⟩ := h
    exact List.forall_mem_map.2 fun c _ => Entry.isRated_ofCandidate c
  dropped_nodup := List.nodup_nil
  dropped id h := by cases h
  accounted id h := by
    rw [ofCandidates, RuleTable.ids_map]
    exact .inl h

section Steps

variable {t : RuleTable (List Candidate)} {named : List Text}

theorem map_candidate_modify (es : List Entry) (i : Nat) (count : Int) :
    (es.modify i (·.charge count)).map Entry.candidate = es.map Entry.candidate := by
  refine List.ext_getElem? fun j => ?_
  rw [List.getElem?_map, List.getElem?_map, List.getElem?_modify]
  cases es[j]? with
  | none => rfl
  | some e => by_cases hj : i = j <;> simp [hj]

theorem isRated_modify {es : List Entry} (h : ∀ e ∈ es, e.IsRated) (i : Nat) (count : Int) :
    ∀ e ∈ es.modify i (·.charge count), e.IsRated := by
  intro e he
  obtain ⟨j, hj⟩ := List.mem_iff_getElem?.1 he
  rw [List.getElem?_modify, Option.map_eq_map, Option.map_eq_some_iff] at hj
  obtain ⟨e', hget, rfl⟩ := hj
  have hrated := h e' (List.mem_of_getElem? hget)
  split_ifs
  · exact hrated.charge count
  · exact hrated

/-- A charge changes no candidate, and no rule comes or goes. -/
theorem Descends.charge (h : b.Descends t named) {id : Text} {position count : Int}
    {b' : Scoreboard} (hb : b.charge id position count = .ok b') : b'.Descends t named := by
  obtain ⟨es, i, hes, -, rfl⟩ := charge_eq_ok hb
  have hids : (b.rules.set id (es.modify i (·.charge count))).ids = b.rules.ids := by
    rw [RuleTable.set_eq_map (·.modify i (·.charge count)) hes, RuleTable.ids_map]
  refine ⟨hids ▸ h.live, fun x xs hx => ?_, fun x xs hx => ?_, h.dropped_nodup, fun x hx => ?_,
    fun x hx => ?_⟩
  · rw [RuleTable.get?_set] at hx
    split_ifs at hx with hid
    · subst hid
      obtain rfl := Option.some.inj hx
      rw [map_candidate_modify]
      exact h.candidates x es hes
    · exact h.candidates x xs hx
  · rw [RuleTable.get?_set] at hx
    split_ifs at hx with hid
    · subst hid
      obtain rfl := Option.some.inj hx
      exact isRated_modify (h.rated x es hes) i count
    · exact h.rated x xs hx
  · rw [hids]
    exact h.dropped x hx
  · rw [hids]
    exact h.accounted x hx

/-- Of the rules that leave the board by a discard all are named. -/
theorem Descends.discard (h : b.Descends t named) (ids : List Text) :
    (b.discard ids).Descends t (named ++ ids) := by
  have hsub : (b.discard ids).rules.ids.Sublist b.rules.ids :=
    RuleTable.ids_filterMap_sublist _ _
  refine ⟨hsub.trans h.live, fun x es hx => ?_, fun x es hx => ?_, h.dropped_nodup,
    fun x hx => ?_, fun x hx => ?_⟩
  · rw [Scoreboard.discard, RuleTable.get?_filter, Option.filter_eq_some_iff] at hx
    exact h.candidates x es hx.1
  · rw [Scoreboard.discard, RuleTable.get?_filter, Option.filter_eq_some_iff] at hx
    exact h.rated x es hx.1
  · obtain ⟨hinit, hgone⟩ := h.dropped x hx
    exact ⟨hinit, fun hmem => hgone (hsub.subset hmem)⟩
  · rcases h.accounted x hx with hlive | hdropped | hnamed
    · by_cases hid : x ∈ ids
      · exact .inr (.inr (List.mem_append_right _ hid))
      · obtain ⟨es, hes⟩ := RuleTable.mem_ids_iff.1 hlive
        refine .inl (RuleTable.mem_ids_filter.2 ⟨es, hes, ?_⟩)
        simpa using hid
    · exact .inr (.inl hdropped)
    · exact .inr (.inr (List.mem_append_left _ hnamed))

theorem mem_failing {id : Text} :
    id ∈ b.failing ↔ ∃ es, b.rules.get? id = some es ∧ es.filter Entry.isClean = [] := by
  simp [failing, RuleTable.mem_ids_filter, List.filter_eq_nil_iff]

theorem mem_ids_strip {id : Text} :
    id ∈ b.strip.rules.ids ↔ ∃ es, b.rules.get? id = some es ∧ es.filter Entry.isClean ≠ [] := by
  rw [RuleTable.mem_ids_iff, get?_strip]
  cases b.rules.get? id with
  | none => simp
  | some es => simp [Option.filter_eq_some_iff]

/-- A strip drops the rules that it takes off the board. -/
theorem Descends.strip (h : b.Descends t named) : b.strip.Descends t named := by
  have hsub : b.strip.rules.ids.Sublist b.rules.ids := RuleTable.ids_filterMap_sublist _ _
  have hfailing : ∀ id ∈ b.failing, id ∈ b.rules.ids := fun id hid => by
    obtain ⟨es, hes, -⟩ := mem_failing.1 hid
    exact RuleTable.mem_ids_iff.2 ⟨es, hes⟩
  refine ⟨hsub.trans h.live, fun x clean hx => ?_, fun x clean hx => ?_, ?_, fun x hx => ?_,
    fun x hx => ?_⟩
  · rw [get?_strip, Option.filter_eq_some_iff, Option.map_eq_some_iff] at hx
    obtain ⟨⟨es, hes, rfl⟩, -⟩ := hx
    obtain ⟨cs, hcs, hes⟩ := h.candidates x es hes
    exact ⟨cs, hcs, (List.filter_sublist.map _).trans hes⟩
  · rw [get?_strip, Option.filter_eq_some_iff, Option.map_eq_some_iff] at hx
    obtain ⟨⟨es, hes, rfl⟩, -⟩ := hx
    exact fun e he => h.rated x es hes e (List.mem_filter.1 he).1
  · -- What was dropped before is no longer on the board, so it cannot fail again.
    refine List.nodup_append.2 ⟨h.dropped_nodup, RuleTable.nodup_ids _, ?_⟩
    rintro x hx y hy rfl
    exact (h.dropped x hx).2 (hfailing x hy)
  · rcases List.mem_append.1 hx with hx | hx
    · obtain ⟨hinit, hgone⟩ := h.dropped x hx
      exact ⟨hinit, fun hmem => hgone (hsub.subset hmem)⟩
    · refine ⟨h.live.subset (hfailing x hx), fun hmem => ?_⟩
      obtain ⟨es, hes, hnone⟩ := mem_failing.1 hx
      obtain ⟨es', hes', hsome⟩ := mem_ids_strip.1 hmem
      rw [hes] at hes'
      exact hsome (Option.some.inj hes' ▸ hnone)
  · rcases h.accounted x hx with hlive | hdropped | hnamed
    · obtain ⟨es, hes⟩ := RuleTable.mem_ids_iff.1 hlive
      by_cases hclean : es.filter Entry.isClean = []
      · exact .inr (.inl (List.mem_append_right _ (mem_failing.2 ⟨es, hes, hclean⟩)))
      · exact .inl (mem_ids_strip.2 ⟨es, hes, hclean⟩)
    · exact .inr (.inl (List.mem_append_left _ hdropped))
    · exact .inr (.inr hnamed)

/-- One operation keeps the invariant, with the rules that it names. -/
theorem Descends.perform (h : b.Descends t named) {op : Operation} {b' : Scoreboard}
    (hb : b.perform op = .ok b') : b'.Descends t (named ++ op.discarded) := by
  cases op with
  | charge id position count =>
    rw [Operation.discarded, List.append_nil]
    exact h.charge hb
  | discard ids =>
    obtain rfl := Except.ok.inj hb
    exact h.discard ids
  | strip =>
    obtain rfl := Except.ok.inj hb
    rw [Operation.discarded, List.append_nil]
    exact h.strip
  | choose strips =>
    obtain rfl := Except.ok.inj hb
    rw [Operation.discarded, List.append_nil]
    cases strips with
    | true => exact h.strip
    | false => exact h

theorem Descends.attempt (h : b.Descends t named) (op : Operation) :
    (b.attempt op).Descends t (named ++ op.discarded) := by
  unfold Scoreboard.attempt
  cases hb : b.perform op with
  | ok b' => exact h.perform hb
  | error r =>
    obtain ⟨f, b'⟩ := r
    obtain ⟨hfault, rfl⟩ := perform_eq_error_iff.1 hb
    cases op with
    | charge id position count =>
      rw [Operation.discarded, List.append_nil]
      exact h
    | _ => cases hfault

/-- Every history keeps the invariant, with the rules that it names. -/
theorem descends_after (t : RuleTable (List Candidate)) (ops : List Operation) :
    ((ofCandidates t).after ops).Descends t (ops.flatMap Operation.discarded) := by
  induction ops using List.reverseRecOn with
  | nil => exact descends_ofCandidates t
  | append_singleton ops op ih =>
    rw [after_concat, List.flatMap_append, List.flatMap_singleton]
    exact ih.attempt op

end Steps

/-! ## Right after a strip -/

/-- A strip leaves clean candidates only, and no rule without any. -/
theorem clean_of_get?_strip {id : Text} {es : List Entry} (h : b.strip.rules.get? id = some es) :
    es ≠ [] ∧ ∀ e ∈ es, e.errors = 0 := by
  rw [get?_strip, Option.filter_eq_some_iff, Option.map_eq_some_iff] at h
  obtain ⟨⟨all, -, rfl⟩, hne⟩ := h
  refine ⟨by simpa using hne, fun e he => ?_⟩
  have hclean : e.isClean = true := (List.mem_filter.1 he).2
  simpa [Entry.isClean] using hclean

theorem attempt_of_strips {op : Operation} (h : op.strips = true) : b.attempt op = b.strip := by
  cases op with
  | charge id position count => cases h
  | discard ids => cases h
  | strip => rfl
  | choose strips =>
    cases strips with
    | true => rfl
    | false => cases h

/-- **Whatever happens to a board, it holds initial rules and candidates in their order, and every
rule that is missing was dropped, once and for all, or discarded by name; a strip leaves only clean
candidates, and an operation that fails leaves the board as it was.** -/
theorem after_keeps (t : RuleTable (List Candidate)) (ops : List Operation) :
    let b := (ofCandidates t).after ops
    b.rules.ids.Sublist t.ids ∧
    (∀ id es, b.rules.get? id = some es →
      (∃ cs, t.get? id = some cs ∧ (es.map Entry.candidate).Sublist cs) ∧
      ∀ e ∈ es, e.specificity = 1 + e.candidate.options.length) ∧
    b.dropped.Nodup ∧
    (∀ id ∈ b.dropped, id ∈ t.ids ∧ id ∉ b.rules.ids) ∧
    (∀ id ∈ t.ids, id ∉ b.rules.ids → id ∉ b.dropped →
      ∃ ids, Operation.discard ids ∈ ops ∧ id ∈ ids) ∧
    (∀ op, op.strips = true → ∀ id es,
      ((ofCandidates t).after (ops ++ [op])).rules.get? id = some es →
        es ≠ [] ∧ ∀ e ∈ es, e.errors = 0) ∧
    ∀ op f b', (b.perform op = .error (f, b') ↔ op.fault? b = some f ∧ b' = b) ∧
      (b.perform op = .error (f, b') → (ofCandidates t).after (ops ++ [op]) = b) := by
  intro b
  have h : b.Descends t (ops.flatMap Operation.discarded) := descends_after t ops
  refine ⟨h.live, ?_, h.dropped_nodup, h.dropped, ?_, ?_, ?_⟩
  · intro id es hes
    exact ⟨h.candidates id es hes, h.rated id es hes⟩
  · intro id hid hlive hdropped
    have hnamed : id ∈ ops.flatMap Operation.discarded :=
      ((h.accounted id hid).resolve_left hlive).resolve_left hdropped
    obtain ⟨op, hop, hmem⟩ := List.mem_flatMap.1 hnamed
    cases op with
    | discard ids => exact ⟨ids, hop, hmem⟩
    | _ => cases hmem
  · intro op hop id es hes
    rw [after_concat, attempt_of_strips hop] at hes
    exact clean_of_get?_strip hes
  · intro op f b'
    refine ⟨perform_eq_error_iff, fun hf => ?_⟩
    rw [after_concat, attempt, hf]
    exact (perform_eq_error_iff.1 hf).2

/-- A charge to the last candidate; one to a rule that is not there; then a strip. -/
example : ((ofCandidates (.single "semi" [⟨.error, [.text "always"]⟩, ⟨.error, []⟩])).after
      [.charge "semi" (-1) 2, .charge "quotes" 0 1, .strip]).rules.get? "semi" =
    some [⟨⟨.error, [.text "always"]⟩, 2, 0⟩] := by
  decide

end Scoreboard

end RuleFit

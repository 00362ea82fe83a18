import RuleFit.Choice
import RuleFit.Proofs.Charge

/-!
# What the choice settles on

A choice looks at the clean candidates of one rule and at nothing else: the only one there is, or
else the only one with one option, or else the only one with two, or else the only one without any
(`favourite`). The merged tables of `Scoreboard.choose` pick one of the rule's own entries
(`get?_choose`), so every rule on a board is dropped, settled or unresolved by its own clean entries
(`get?_choose_strip`, `mem_dropped_strip`, `mem_unresolved_strip`). They go by the specificity noted
in an entry; where that is the specificity of its candidate (`Entry.IsRated`), the favourite is what
they pick (`pick?_eq_favourite`).
-/

namespace RuleFit

/-- The only one of some candidates. -/
def sole : List Candidate → Option Candidate
  | [c] => some c
  | _ => none

/-- The candidates with so many elements. -/
def ofSpecificity (n : Nat) (cs : List Candidate) : List Candidate :=
  cs.filter fun c => decide (c.specificity = n)

/-- The candidate that some clean candidates settle a rule on. -/
def favourite (cs : List Candidate) : Option Candidate :=
  (sole cs).or <| (sole (ofSpecificity 2 cs)).or <| (sole (ofSpecificity 3 cs)).or <|
    sole (ofSpecificity 1 cs)

theorem isSome_sole {cs : List Candidate} : (sole cs).isSome = true ↔ cs.length = 1 := by
  rcases cs with _ | ⟨c, _ | ⟨d, cs⟩⟩ <;> simp [sole]

theorem sole_eq_none {cs : List Candidate} : sole cs = none ↔ cs.length ≠ 1 := by
  rw [← Option.not_isSome_iff_eq_none, isSome_sole]

/-- A rule is settled exactly when it has one candidate, or one of some specificity up to three. -/
theorem isSome_favourite {cs : List Candidate} : (favourite cs).isSome = true ↔
    cs.length = 1 ∨ ∃ n ∈ [1, 2, 3], (ofSpecificity n cs).length = 1 := by
  simp only [favourite, Option.isSome_or, Bool.or_eq_true, isSome_sole, List.mem_cons,
    List.not_mem_nil, or_false, exists_eq_or_imp, exists_eq_left]
  tauto

theorem favourite_eq_none {cs : List Candidate} : favourite cs = none ↔
    cs.length ≠ 1 ∧ ∀ n ∈ [1, 2, 3], (ofSpecificity n cs).length ≠ 1 := by
  rw [← Option.not_isSome_iff_eq_none, isSome_favourite]
  push Not
  rfl

@[simp] theorem favourite_nil : favourite [] = none := rfl

theorem eq_singleton_of_sole {cs : List Candidate} {c : Candidate} (h : sole cs = some c) :
    cs = [c] := by
  rcases cs with _ | ⟨d, _ | ⟨e, cs⟩⟩
  · cases h
  · rw [Option.some.inj h]
  · cases h

/-- Candidates settle a rule on one of them. -/
theorem mem_of_favourite {cs : List Candidate} {c : Candidate} (h : favourite cs = some c) :
    c ∈ cs := by
  have hlevel : ∀ n, sole (ofSpecificity n cs) = some c → c ∈ cs := by
    intro n hn
    have hmem : c ∈ ofSpecificity n cs := by
      rw [eq_singleton_of_sole hn]
      exact List.mem_singleton_self c
    exact (List.mem_filter.1 hmem).1
  unfold favourite at h
  rcases Option.or_eq_some_iff.1 h with hall | ⟨-, h⟩
  · rw [eq_singleton_of_sole hall]
    exact List.mem_singleton_self c
  rcases Option.or_eq_some_iff.1 h with htwo | ⟨-, h⟩
  · exact hlevel 2 htwo
  rcases Option.or_eq_some_iff.1 h with hthree | ⟨-, hone⟩
  · exact hlevel 3 hthree
  · exact hlevel 1 hone

/-! ## Entries and candidates -/

/-- The specificity noted in an entry is that of its candidate. -/
def Entry.IsRated (e : Entry) : Prop := e.specificity = e.candidate.specificity

theorem Entry.isRated_ofCandidate (c : Candidate) : (ofCandidate c).IsRated := rfl

theorem Entry.IsRated.charge {e : Entry} (h : e.IsRated) (n : Int) : (e.charge n).IsRated := h

/-- The entries of a specificity. -/
def Scoreboard.level (n : Nat) (es : List Entry) : List Entry :=
  es.filter fun e => decide (e.specificity = n)

theorem sole?_eq_sole (es : List Entry) :
    Scoreboard.sole? es = sole (es.map Entry.candidate) := by
  rcases es with _ | ⟨e, _ | ⟨d, es⟩⟩ <;> rfl

/-- What is picked goes by the levels of the entries. -/
theorem pick?_eq (es : List Entry) : pick? es =
    (Scoreboard.sole? es).or ((Scoreboard.sole? (Scoreboard.level 2 es)).or
      ((Scoreboard.sole? (Scoreboard.level 3 es)).or
        (Scoreboard.sole? (Scoreboard.level 1 es)))) :=
  rfl

@[simp] theorem pick?_nil : pick? [] = none := rfl

theorem sole?_level {es : List Entry} (h : ∀ e ∈ es, e.IsRated) (n : Nat) :
    Scoreboard.sole? (Scoreboard.level n es) =
      sole (ofSpecificity n (es.map Entry.candidate)) := by
  have hlevel : Scoreboard.level n es =
      es.filter ((fun c => decide (c.specificity = n)) ∘ Entry.candidate) := by
    refine List.filter_congr fun e he => ?_
    rw [h e he, Function.comp_apply]
  rw [hlevel, sole?_eq_sole, ofSpecificity, List.filter_map]

theorem pick?_eq_favourite {es : List Entry} (h : ∀ e ∈ es, e.IsRated) :
    pick? es = favourite (es.map Entry.candidate) := by
  rw [pick?_eq, favourite, sole?_eq_sole, sole?_level h, sole?_level h, sole?_level h]

/-! ## The choice on a board -/

namespace Scoreboard

variable (b : Scoreboard)

theorem get?_withSpecificity (n : Nat) (id : Text) : (b.withSpecificity n).get? id =
    (b.rules.get? id).bind fun es => sole? (level n es) := by
  rw [withSpecificity, RuleTable.get?_filterMap]
  simp only [level, Int.natCast_inj]

/-- The merged tables give every rule the candidate that its own entries settle on. -/
theorem get?_choose (id : Text) : b.choose.get? id = (b.rules.get? id).bind pick? := by
  have hone := b.get?_withSpecificity 1 id
  have htwo := b.get?_withSpecificity 2 id
  have hthree := b.get?_withSpecificity 3 id
  push_cast at hone htwo hthree
  simp only [choose, preference, List.foldl_cons, List.foldl_nil, RuleTable.get?_merge, hone, htwo,
    hthree, RuleTable.get?_empty, soleCandidates, RuleTable.get?_filterMap, Option.or_none]
  cases b.rules.get? id with
  | none => rfl
  | some es => simp [pick?_eq]

theorem mem_unresolved {chosen : RuleTable Candidate} {id : Text} :
    id ∈ b.unresolved chosen ↔ id ∈ b.rules.ids ∧ chosen.get? id = none := by
  simp [unresolved, RuleTable.contains_eq_isSome]

/-! ## After a strip -/

/-- The clean candidates of some entries. -/
def cleanCandidates (es : List Entry) : List Candidate :=
  (es.filter Entry.isClean).map Entry.candidate

theorem pick?_filter_isClean {es : List Entry} (h : ∀ e ∈ es, e.IsRated) :
    pick? (es.filter Entry.isClean) = favourite (cleanCandidates es) :=
  pick?_eq_favourite fun e he => h e (List.mem_filter.1 he).1

theorem get?_strip (id : Text) : b.strip.rules.get? id =
    ((b.rules.get? id).map (·.filter Entry.isClean)).filter (!·.isEmpty) := by
  rw [strip, RuleTable.get?_filterMap]
  cases b.rules.get? id with
  | none => rfl
  | some es =>
    simp only [Option.bind_some, Option.map_some]
    generalize es.filter Entry.isClean = clean
    cases clean <;> rfl

variable {b} {id : Text} {es : List Entry} (h : b.rules.get? id = some es)

include h

theorem get?_choose_strip : b.strip.choose.get? id = pick? (es.filter Entry.isClean) := by
  rw [get?_choose, get?_strip, h]
  by_cases hc : es.filter Entry.isClean = []
  · simp [hc, Option.filter]
  · simp [hc, Option.filter]

theorem mem_dropped_strip :
    id ∈ b.strip.dropped ↔ id ∈ b.dropped ∨ es.filter Entry.isClean = [] := by
  simp [strip, failing, RuleTable.mem_ids_filter, h]

theorem mem_unresolved_strip : id ∈ b.strip.unresolved b.strip.choose ↔
    es.filter Entry.isClean ≠ [] ∧ pick? (es.filter Entry.isClean) = none := by
  rw [mem_unresolved, get?_choose_strip h, RuleTable.mem_ids_iff, get?_strip, h]
  by_cases hc : es.filter Entry.isClean = []
  · simp [hc, Option.filter]
  · simp [hc, Option.filter]

end Scoreboard

end RuleFit

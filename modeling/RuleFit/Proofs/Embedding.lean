import Mathlib.Data.List.NodupEquivFin
import RuleFit.Proofs.Generation

/-!
# Fitting as an order embedding

A candidate fits a schema when its options can be put, in their order, on supported descriptions
that they match. `Descriptor.Matches` says what it is to match, without regard to how it is found
out: a plain option is listed by kind and value, and of an object every entry is listed by the last
property of its name.

**Theorem (`fits_iff_embeds`).** The search through all choices finds a candidate fitting exactly
when a strictly increasing assignment of its options to the positions of the supported descriptions
exists, each option matching where it is put; and the scan in which every option takes the first
description that it matches comes to the same answer.

That the first match is never the wrong one is an exchange: whatever follows the descriptions behind
a later match of an option follows those behind an earlier one as well (`Follows.of_cons`).
-/

namespace RuleFit

/-! ## Matching -/

/-- One of some values has the kind of a value and is equal to it. -/
def HasEqual (values : List Datum) (d : Datum) : Prop :=
  ∃ v ∈ values, v.kind = d.kind ∧ v.eqv d = true

/-- The domain belongs to the last property of a name. -/
def IsLastNamed (properties : List (Text × Domain)) (name : Text) (domain : Domain) : Prop :=
  ∃ before behind, properties = before ++ (name, domain) :: behind ∧ ∀ p ∈ behind, p.1 ≠ name

/-- What it is for an option value to match a description. Nothing matches an unsupported one. -/
inductive Descriptor.Matches : Descriptor → Datum → Prop
  | plain {domain : Domain} {d : Datum} (notMap : d.isMap = false)
      (equal : HasEqual domain.values d) : Matches (.plain domain) d
  | object {properties : List (Text × Domain)} {d : Datum} {entries : List (Datum × Datum)}
      (isMap : d.opened = .map entries)
      (equal : ∀ e ∈ entries, ∃ name domain, e.1 = .text name ∧
        IsLastNamed properties name domain ∧ HasEqual domain.values e.2) :
      Matches (.object properties) d

theorem listed_iff {values : List Datum} {d : Datum} :
    listed values d = true ↔ HasEqual values d := by
  simp [listed, HasEqual, Datum.sameTyped]

/-- Only a text names a property, and of properties with one name the last. -/
theorem domainOf?_eq_some_iff {properties : List (Text × Domain)} {key : Datum} {domain : Domain} :
    domainOf? properties key = some domain ↔
      ∃ name, key = .text name ∧ IsLastNamed properties name domain := by
  have hkey : ∀ p : Text × Domain, (Datum.text p.1).eqv key = true ↔ key = .text p.1 := by
    intro p
    have halike := Datum.alike_text p.1 key
    rw [Datum.alike, show Datum.sameNan (.text p.1) key = false from rfl, Bool.false_or] at halike
    rw [halike, decide_eq_true_iff]
  unfold domainOf?
  rw [Option.map_eq_some_iff]
  constructor
  · rintro ⟨⟨name, domain⟩, hfind, rfl⟩
    obtain ⟨hname, behind, before, heq, hbehind⟩ := List.find?_eq_some_iff_append.1 hfind
    refine ⟨name, (hkey _).1 hname, before.reverse, behind.reverse, ?_, ?_⟩
    · rw [← List.reverse_reverse properties, heq]
      simp
    · intro p hp hp'
      have hother := hbehind p (List.mem_reverse.1 hp)
      rw [(hkey p).2 (hp' ▸ (hkey _).1 hname)] at hother
      cases hother
  · rintro ⟨name, rfl, before, behind, rfl, hbehind⟩
    refine ⟨(name, domain), List.find?_eq_some_iff_append.2 ⟨(hkey _).2 rfl, behind.reverse,
      before.reverse, by simp, ?_⟩, rfl⟩
    intro p hp
    rw [Bool.not_eq_true', ← Bool.not_eq_true, hkey]
    intro hp'
    exact hbehind p (List.mem_reverse.1 hp) (Datum.text.inj hp').symm

/-- A description accepts the options that match it. -/
theorem accepts_iff_matches {d : Descriptor} {o : Datum} : d.accepts o = true ↔ d.Matches o := by
  cases d with
  | plain domain =>
    rw [Descriptor.accepts, Bool.and_eq_true, Bool.not_eq_true', listed_iff]
    constructor
    · rintro ⟨hmap, hequal⟩
      exact .plain hmap hequal
    · rintro ⟨hmap, hequal⟩
      exact ⟨hmap, hequal⟩
  | object properties =>
    simp only [Descriptor.accepts]
    constructor
    · intro h
      split at h
      · rename_i entries hopened
        refine .object hopened fun e he => ?_
        have hentry := List.all_eq_true.1 h e he
        split at hentry
        · rename_i domain hdomain
          obtain ⟨name, hname, hlast⟩ := domainOf?_eq_some_iff.1 hdomain
          exact ⟨name, domain, hname, hlast, listed_iff.1 hentry⟩
        · cases hentry
      · cases h
    · rintro (_ | ⟨hopened, hequal⟩)
      rw [hopened]
      refine List.all_eq_true.2 fun e he => ?_
      obtain ⟨name, domain, hname, hlast, hlisted⟩ := hequal e he
      rw [domainOf?_eq_some_iff.2 ⟨name, hname, hlast⟩]
      exact listed_iff.2 hlisted
  | unsupported reason =>
    constructor
    · intro h
      cases h
    · intro h
      cases h

/-! ## Positions -/

/-- Options that follow some descriptions are put on them in their order. -/
theorem follows_iff_strictMono {ds : List Descriptor} {os : List Datum} :
    Follows ds os ↔ ∃ place : Fin os.length → Fin ds.length,
      StrictMono place ∧ ∀ i, (ds.get (place i)).Matches (os.get i) := by
  rw [Follows, List.sublistForall₂_iff]
  constructor
  · rintro ⟨ms, hms, hsub⟩
    obtain ⟨hlength, hmatch⟩ := List.forall₂_iff_get.1 hms
    obtain ⟨f, hf⟩ := List.sublist_iff_exists_fin_orderEmbedding_get_eq.1 hsub
    refine ⟨fun i => f (Fin.cast hlength i), ?_, ?_⟩
    · intro i j hij
      exact f.strictMono hij
    · intro i
      rw [← hf, ← accepts_iff_matches]
      exact hmatch i i.isLt (hlength ▸ i.isLt)
  · rintro ⟨place, hmono, hmatch⟩
    refine ⟨List.ofFn fun i => ds.get (place i), ?_, ?_⟩
    · refine List.forall₂_iff_get.2 ⟨by simp, fun i hi _ => ?_⟩
      rw [List.get_ofFn, accepts_iff_matches]
      exact hmatch ⟨i, hi⟩
    · rw [List.sublist_iff_exists_fin_orderEmbedding_get_eq]
      have hlength : (List.ofFn fun i => ds.get (place i)).length = os.length := by simp
      refine ⟨OrderEmbedding.ofStrictMono (fun i => place (Fin.cast hlength i)) ?_, ?_⟩
      · intro i j hij
        exact hmono hij
      · intro i
        rw [List.get_ofFn]
        rfl

/-! ## The first match -/

/-- Without the first option, the others follow the same descriptions. -/
theorem Follows.of_cons {ds : List Descriptor} {o : Datum} {os : List Datum}
    (h : Follows ds (o :: os)) : Follows ds os := by
  induction ds with
  | nil => cases h
  | cons d ds ih =>
    cases h with
    | cons ho hos => exact .cons_right hos
    | cons_right h => exact .cons_right (ih h)

/-- Where an option matches, going on from there misses nothing. -/
theorem fitsFirstFrom_eq (ds : List Descriptor) (os : List Datum) :
    fitsFirstFrom ds os = fitsFrom ds os := by
  induction ds generalizing os with
  | nil => cases os <;> rfl
  | cons d ds ih =>
    cases os with
    | nil => rfl
    | cons o os =>
      rw [fitsFirstFrom, fitsFrom, ih, ih]
      by_cases ho : d.accepts o = true
      · -- A way that passes over this match can be changed to use it.
        have hlater : fitsFrom ds (o :: os) = true → fitsFrom ds os = true := by
          intro h
          exact fitsFrom_iff.2 (fitsFrom_iff.1 h).of_cons
        rw [if_pos ho, ho, Bool.true_and, Bool.eq_iff_iff, Bool.or_eq_true]
        constructor
        · intro h
          exact .inl h
        · rintro (h | h)
          · exact h
          · exact hlater h
      · rw [if_neg ho, Bool.eq_false_iff.2 ho, Bool.false_and, Bool.false_or]

/-- **A candidate fits a schema exactly when its options can be put in order on supported
descriptions that they match, and giving each option its first match decides the same.** -/
theorem fits_iff_embeds (schema : Schema) (c : Candidate) :
    (schema.fits c = true ↔
      ∃ place : Fin c.options.length → Fin schema.supported.length,
        StrictMono place ∧ ∀ i, (schema.supported.get (place i)).Matches (c.options.get i)) ∧
    schema.fits c = schema.fitsFirst c := by
  constructor
  · rw [Schema.fits, fitsFrom_iff]
    exact follows_iff_strictMono
  · rw [Schema.fits, Schema.fitsFirst, fitsFirstFrom_eq]

/-- The second option matches the first description too, but has to come behind the first one. -/
example : Schema.fits [.plain (.enum [.text "always", .int 1]), .plain .boolean,
    .plain (.enum [.text "always"])] ⟨.error, [.int 1, .text "always"]⟩ = true := by
  decide

end RuleFit

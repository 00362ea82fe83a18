import RuleFit.Proofs.Objects

/-!
# Expansion as enumeration

A schema has an *axis* for every option that takes its place in candidates: the values of an
enumeration, or the objects that give every property with values one of them. Truth values and
options that cannot be enumerated give none, and axes without values do not count
(`Schema.axes`). Expansion keeps the rows it has and extends each by each value of the next axis,
and what comes of it is an enumeration of picks: each way to take a value of the first axis, and of
the others a value or none, gives one row (`expand_perm`).

**Theorem (`candidates_enumerate`).** Where no value of an enumeration is a list or a tuple, the
candidates are the plain one and, in some order, one for each pick, with the values picked as its
options; no pick is left out and none comes twice.

A list or a tuple behind the first axis is not one value but its items, so in general a pick makes
the row `Pick.row`, which splices them.
-/

namespace RuleFit

/-! ## Axes -/

/-- The values that an option can take in a candidate. -/
def Descriptor.axis : Descriptor → List Datum
  | .plain (.enum values) => values
  | .object properties => (objectAxis (listings properties)).map .map
  | .plain .boolean | .unsupported _ => []

/-- The axes of a schema that have values, in order. -/
def Schema.axes (schema : Schema) : List (List Datum) :=
  (schema.map Descriptor.axis).filter fun xs => !xs.isEmpty

/-- No value of an enumeration is a list or a tuple. -/
def Descriptor.isFlat : Descriptor → Bool
  | .plain domain => domain.values.all fun v => decide (v.kind ≠ .list ∧ v.kind ≠ .tuple)
  | .object _ | .unsupported _ => true

theorem expanded_eq_axis (d : Descriptor) : d.expanded = d.axis := by
  cases d with
  | plain domain => cases domain <;> rfl
  | object properties => rw [Descriptor.expanded, Descriptor.axis, objectsOf_eq]
  | unsupported reason => rfl

theorem growRows_nil (rows : List (List Datum)) : growRows rows [] = rows := rfl

theorem expand_eq_foldl (schema : Schema) : schema.expand = schema.axes.foldl growRows [] := by
  rw [Schema.expand, Schema.axes]
  generalize ([] : List (List Datum)) = rows
  induction schema generalizing rows with
  | nil => rfl
  | cons d schema ih =>
    rw [List.foldl_cons, List.map_cons, expanded_eq_axis]
    by_cases hd : d.axis = []
    · rw [hd, growRows_nil, ih, List.filter_cons_of_neg (by simp)]
    · rw [ih, List.filter_cons_of_pos (by simpa using hd), List.foldl_cons]

/-! ## Rows as picks -/

/-- What a pick stands for behind a row: a list counts as its items. -/
def Pick.spliced (xss : List (List Datum)) (pick : Pick) : List Datum :=
  (pick.elements xss).flatMap Datum.spliced

/-- The row that a pick makes: the value of the first axis as it is, and what the others stand for.
-/
def Pick.row : List (List Datum) → Pick → List Datum
  | xs :: xss, k :: pick => (k.bind (xs[·]?)).toList ++ Pick.spliced xss pick
  | _, _ => []

/-- What the picks of some axes stand for. -/
def rests (xss : List (List Datum)) : List (List Datum) :=
  (optionalPicks xss).map (Pick.spliced xss)

/-- Either the first axis is left out, or one of its values comes first. -/
theorem rests_cons (xs : List Datum) (xss : List (List Datum)) :
    rests (xs :: xss) = rests xss ++ xs.flatMap fun x => (rests xss).map (x.spliced ++ ·) := by
  have hnone : ((optionalPicks xss).map (none :: ·)).map (Pick.spliced (xs :: xss)) =
      rests xss := by
    simp [rests, Pick.spliced, Function.comp_def]
  have hsome : ((positions xs).flatMap fun k => (optionalPicks xss).map (k :: ·)).map
      (Pick.spliced (xs :: xss)) = xs.flatMap fun x => (rests xss).map (x.spliced ++ ·) := by
    rw [List.map_flatMap]
    refine flatMap_positions xs _ _ fun i x hx => ?_
    simp [rests, Pick.spliced, Pick.elements_some_cons hx, Function.comp_def]
  rw [rests, optionalPicks_cons, List.map_append, hnone, hsome]

theorem nil_mem_rests (xss : List (List Datum)) : [] ∈ rests xss := by
  induction xss with
  | nil => simp [rests, optionalPicks, choices, Pick.spliced]
  | cons xs xss ih =>
    rw [rests_cons]
    exact List.mem_append_left _ ih

theorem rests_ne_nil (xss : List (List Datum)) : rests xss ≠ [] :=
  List.ne_nil_of_mem (nil_mem_rests xss)

theorem map_row_picks (xs : List Datum) (xss : List (List Datum)) :
    (picks (xs :: xss)).map (Pick.row (xs :: xss)) =
      xs.flatMap fun x => (rests xss).map (x :: ·) := by
  rw [picks_cons, List.map_flatMap]
  refine flatMap_positions xs _ _ fun i x hx => ?_
  simp [rests, Pick.row, hx, Function.comp_def]

theorem growRows_of_ne_nil {rows : List (List Datum)} (h : rows ≠ []) (values : List Datum) :
    growRows rows values =
      rows ++ rows.flatMap fun row => values.map fun v => row ++ v.spliced := by
  unfold growRows
  split_ifs with hv
  · simp [List.isEmpty_iff.1 hv]
  · simp [combine, h, hv, List.flatMap_map, Datum.spliced]

/-- Growing rows by some axes puts what every pick stands for behind every row. -/
theorem foldl_growRows_perm (xss : List (List Datum)) {rows : List (List Datum)}
    (h : rows ≠ []) :
    (xss.foldl growRows rows).Perm (rows.flatMap fun row => (rests xss).map (row ++ ·)) := by
  induction xss generalizing rows with
  | nil => simp [rests, optionalPicks, choices, Pick.spliced]
  | cons xs xss ih =>
    let extended (row : List Datum) := (rests xss).map (row ++ ·)
    have hne : growRows rows xs ≠ [] := by
      rw [growRows_of_ne_nil h]
      exact List.append_ne_nil_of_left_ne_nil h _
    have hgrown : (growRows rows xs).flatMap extended =
        rows.flatMap extended ++
          rows.flatMap fun row => xs.flatMap fun v => extended (row ++ v.spliced) := by
      rw [growRows_of_ne_nil h, List.flatMap_append, List.flatMap_assoc]
      simp only [List.flatMap_map]
    have hrests : ∀ row, (rests (xs :: xss)).map (row ++ ·) =
        extended row ++ xs.flatMap fun v => extended (row ++ v.spliced) := by
      intro row
      simp [rests_cons, extended, List.map_flatMap, Function.comp_def]
    rw [List.foldl_cons]
    refine (ih hne).trans ?_
    rw [hgrown]
    simp only [hrests]
    exact List.flatMap_append_perm rows extended _

theorem ne_nil_of_mem_axes {schema : Schema} : ∀ xs ∈ schema.axes, xs ≠ [] := by
  intro xs hxs
  simpa using (List.mem_filter.1 hxs).2

/-- **Expansion gives one row for each pick.** -/
theorem expand_perm (schema : Schema) :
    schema.expand.Perm ((picks schema.axes).map (Pick.row schema.axes)) := by
  rw [expand_eq_foldl]
  cases haxes : schema.axes with
  | nil => exact .refl _
  | cons xs xss =>
    have hxs : xs ≠ [] := ne_nil_of_mem_axes xs (haxes ▸ List.mem_cons_self)
    have hfirst : growRows [] xs = xs.map fun x => [x] := by
      simp [growRows, combine, explode, hxs]
    have hrows : (xs.map fun x => [x]) ≠ [] := by simpa using hxs
    have hgrown := foldl_growRows_perm xss hrows
    rw [List.foldl_cons, hfirst, map_row_picks]
    rw [List.flatMap_map] at hgrown
    simpa [Function.comp_def] using hgrown

theorem ne_nil_of_mem_expand {schema : Schema} {row : List Datum} (h : row ∈ schema.expand) :
    row ≠ [] := by
  rw [(expand_perm schema).mem_iff] at h
  cases haxes : schema.axes with
  | nil => simp [haxes, picks] at h
  | cons xs xss =>
    rw [haxes, map_row_picks] at h
    obtain ⟨x, -, hrow⟩ := List.mem_flatMap.1 h
    obtain ⟨rest, -, rfl⟩ := List.mem_map.1 hrow
    exact List.cons_ne_nil x rest

/-! ## Flat schemas -/

theorem spliced_eq_singleton {v : Datum} (h : v.kind ≠ .list ∧ v.kind ≠ .tuple) :
    v.spliced = [v] := by
  unfold Datum.kind at h
  unfold Datum.spliced
  split
  · rename_i hv
    rw [hv] at h
    exact absurd rfl h.1
  · rename_i hv
    rw [hv] at h
    exact absurd rfl h.2
  · rfl

theorem rests_cons_of_flat {xs : List Datum} {xss : List (List Datum)}
    (h : ∀ x ∈ xs, x.kind ≠ .list ∧ x.kind ≠ .tuple) :
    rests (xs :: xss) = rests xss ++ xs.flatMap fun x => (rests xss).map (x :: ·) := by
  rw [rests_cons]
  refine congrArg _ (List.flatMap_congr fun x hx => ?_)
  simp [spliced_eq_singleton (h x hx)]

theorem kind_of_mem_axis {d : Descriptor} (h : d.isFlat = true) :
    ∀ v ∈ d.axis, v.kind ≠ .list ∧ v.kind ≠ .tuple := by
  intro v hv
  cases d with
  | unsupported reason => cases hv
  | object properties =>
    obtain ⟨o, -, rfl⟩ := List.mem_map.1 hv
    exact ⟨by simp [Datum.kind], by simp [Datum.kind]⟩
  | plain domain =>
    cases domain with
    | boolean => cases hv
    | enum values => exact of_decide_eq_true (List.all_eq_true.1 h v hv)

/-- No value of some axes is a list or a tuple. -/
def IsFlat (xss : List (List Datum)) : Prop :=
  ∀ xs ∈ xss, ∀ v ∈ xs, v.kind ≠ .list ∧ v.kind ≠ .tuple

theorem isFlat_axes {schema : Schema} (h : ∀ d ∈ schema, d.isFlat = true) :
    IsFlat schema.axes := by
  intro xs hxs
  obtain ⟨d, hd, rfl⟩ := List.mem_map.1 (List.mem_filter.1 hxs).1
  exact kind_of_mem_axis (h d hd)

/-- Values that are no lists stand for themselves. -/
theorem spliced_eq_elements {xss : List (List Datum)} (h : IsFlat xss) (pick : Pick) :
    pick.spliced xss = pick.elements xss := by
  have hself : ∀ v ∈ pick.elements xss, v.spliced = [v] := by
    intro v hv
    obtain ⟨xs, hxs, hmem⟩ := Pick.mem_of_mem_elements hv
    exact spliced_eq_singleton (h xs hxs v hmem)
  rw [Pick.spliced, List.flatMap_congr hself]
  simp

theorem row_eq_elements {xss : List (List Datum)} (h : IsFlat xss) (pick : Pick) :
    pick.row xss = pick.elements xss := by
  cases xss with
  | nil => rfl
  | cons xs xss =>
    cases pick with
    | nil => simp [Pick.row]
    | cons k pick =>
      have hrest : IsFlat xss := fun ys hys => h ys (List.mem_cons_of_mem xs hys)
      rw [Pick.row, spliced_eq_elements hrest, Pick.elements_cons]

/-- **The candidates of a flat schema are the plain one and one for each pick of values.** -/
theorem candidates_enumerate {schema : Schema} (h : ∀ d ∈ schema, d.isFlat = true)
    (severity : Severity) :
    ∃ ps : List Pick, ps.Nodup ∧ (∀ pick, pick ∈ ps ↔ IsPick schema.axes pick) ∧
      ∃ rest, schema.candidates severity = ⟨severity, []⟩ :: rest ∧
        rest.Perm (ps.map fun pick => ⟨severity, pick.elements schema.axes⟩) ∧
        ∀ pick ∈ ps, Candidate.specificity ⟨severity, pick.elements schema.axes⟩ =
          1 + pick.countP Option.isSome := by
  refine ⟨picks schema.axes, nodup_picks _, fun pick => mem_picks, _, rfl, ?_, ?_⟩
  · have hrows : (picks schema.axes).map (Pick.row schema.axes) =
        (picks schema.axes).map fun pick => pick.elements schema.axes :=
      List.map_congr_left fun pick _ => row_eq_elements (isFlat_axes h) pick
    have hperm := (expand_perm schema).map (Candidate.mk severity)
    rw [hrows, List.map_map] at hperm
    exact hperm
  · intro pick hpick
    rw [Candidate.specificity, (mem_picks.1 hpick).within.length_elements]

/-- The theorem on two enumerations between which an object is left out. -/
theorem candidates_enumerate_semi :
    Candidate.mk .error [.text "never", .int 1] ∈
      Schema.candidates [.plain (.enum [.text "always", .text "never"]),
        .unsupported "oneOf is not supported", .object [("before", .boolean)],
        .plain (.enum [.int 1])] .error := by
  have hflat : ∀ d ∈ [Descriptor.plain (.enum [.text "always", .text "never"]),
      .unsupported "oneOf is not supported", .object [("before", .boolean)],
      .plain (.enum [.int 1])], d.isFlat = true := by decide
  obtain ⟨ps, -, hps, rest, hrest, hperm, -⟩ := candidates_enumerate hflat .error
  have hpick : [some 1, none, some 0] ∈ ps := by
    rw [hps]
    exact ⟨.cons (by decide) (.cons (by decide) (.cons (by decide) .nil)), 1, rfl⟩
  rw [hrest]
  exact List.mem_cons_of_mem _ (hperm.mem_iff.2 (List.mem_map.2 ⟨_, hpick, by decide⟩))

end RuleFit

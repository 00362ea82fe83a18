import RuleFit.Candidate.Distinct
import RuleFit.Proofs.Enumeration
import RuleFit.Schema.Reading

/-!
# When candidates are distinct

Two things are *apart* when neither counts as the other (`Apart`). Values of one enumeration may be
pairwise apart and still the candidates of a schema need not be: nothing in an expansion takes out
what comes twice, so two different picks can make the same row.

**Theorem (`pairwise_candidates_iff`).** Where every list of values of a schema has its values
pairwise apart, the candidates are pairwise apart exactly when

* properties of one name in one object list no value twice, and
* the axes behind the first are *readable*: what a pick of them stands for tells the pick.

Without lists behind the first axis, readable means that no two of these axes share a value.

The first axis is out of danger because every row starts with one value of it. So rows fall apart
into their first values and their rests (`pairwise_flatMap_cons`), and the same lemma, over and
over, takes the choices of values for an object apart (`pairwise_choices`).
-/

namespace RuleFit

/-! ## Apart -/

/-- Neither of two things counts as the other. -/
def Apart {α : Type} (same : α → α → Bool) (a b : α) : Prop :=
  same a b = false ∧ same b a = false

instance {α : Type} (same : α → α → Bool) (a b : α) : Decidable (Apart same a b) :=
  inferInstanceAs (Decidable (_ ∧ _))

instance {α : Type} (same : α → α → Bool) : Std.Symm (Apart same) :=
  ⟨fun _ _ h => ⟨h.2, h.1⟩⟩

/-- The images of different things are apart one by one when they are pairwise apart. -/
theorem pairwise_map_apart_iff {α β : Type} {same : β → β → Bool} {l : List α} (hl : l.Nodup)
    (f : α → β) : (l.map f).Pairwise (Apart same) ↔
      ∀ a ∈ l, ∀ b ∈ l, a ≠ b → same (f a) (f b) = false := by
  rw [List.pairwise_map]
  constructor
  · intro h a ha b hb hne
    have hsymm : Std.Symm fun a b => Apart same (f a) (f b) := ⟨fun _ _ h => ⟨h.2, h.1⟩⟩
    exact (h.forall ha hb hne).1
  · intro h
    exact hl.pairwise_of_forall_ne fun a ha b hb hne => ⟨h a ha b hb hne, h b hb a ha hne.symm⟩

/-- Lists made of a first value and a rest are apart when both, first values and rests, are. -/
theorem pairwise_flatMap_cons {xs : List Datum} {rests : List (List Datum)} (hxs : xs ≠ [])
    (hrests : rests ≠ []) :
    (xs.flatMap fun x => rests.map (x :: ·)).Pairwise (Apart Datum.eqvItems) ↔
      xs.Pairwise (Apart Datum.alike) ∧ rests.Pairwise (Apart Datum.eqvItems) := by
  obtain ⟨x₀, hx₀⟩ := List.exists_mem_of_ne_nil xs hxs
  obtain ⟨r₀, hr₀⟩ := List.exists_mem_of_ne_nil rests hrests
  have hbehind : ∀ x : Datum, (rests.map (x :: ·)).Pairwise (Apart Datum.eqvItems) ↔
      rests.Pairwise (Apart Datum.eqvItems) := by
    intro x
    rw [List.pairwise_map]
    exact List.Pairwise.iff fun a b => by simp [Apart, Datum.alike_refl]
  simp only [List.pairwise_flatMap, hbehind, List.forall_mem_map]
  constructor
  · -- Behind two first values stands one and the same rest, so the values must differ.
    rintro ⟨hrest, hfirst⟩
    refine ⟨hfirst.imp fun {x y} h => ?_, hrest x₀ hx₀⟩
    have hsame := h r₀ hr₀ r₀ hr₀
    simpa [Apart, Datum.eqvItems_refl] using hsame
  · rintro ⟨hfirst, hrest⟩
    exact ⟨fun _ _ => hrest, hfirst.imp fun h a _ b _ => by simp [Apart, h.1, h.2]⟩

/-- **Choices are apart when the items of every list are.** -/
theorem pairwise_choices {xss : List (List Datum)} (h : ∀ xs ∈ xss, xs ≠ []) :
    (choices xss).Pairwise (Apart Datum.eqvItems) ↔
      ∀ xs ∈ xss, xs.Pairwise (Apart Datum.alike) := by
  induction xss with
  | nil => simp [choices]
  | cons xs rest ih =>
    obtain ⟨hxs, hrest⟩ := List.forall_mem_cons.1 h
    rw [choices, pairwise_flatMap_cons hxs (choices_ne_nil hrest), ih hrest, List.forall_mem_cons]

/-! ## Objects -/

theorem objectOf_cons (n : Text) (ns : List Text) (v : Datum) (vs : List Datum) :
    objectOf (n :: ns) (v :: vs) = (.text n, v) :: objectOf ns vs := rfl

/-- A value under a name is looked for behind entries of other names. -/
theorem any_objectOf_append {es : Object} {n : Text} (h : Datum.text n ∉ es.map Prod.fst)
    (v : Datum) (es' : Object) :
    ((es ++ es').any fun e => (Datum.text n).alike e.1 && v.alike e.2) =
      es'.any fun e => (Datum.text n).alike e.1 && v.alike e.2 := by
  have hnone : (es.any fun e => (Datum.text n).alike e.1 && v.alike e.2) = false := by
    rw [List.any_eq_false]
    intro e he
    have hne : e.1 ≠ .text n := fun heq => h (heq ▸ List.mem_map_of_mem he)
    simp [hne]
  rw [List.any_append, hnone, Bool.false_or]

theorem keys_objectOf {ns : List Text} {vs : List Datum} (h : vs.length = ns.length) :
    (objectOf ns vs).map Prod.fst = ns.map Datum.text :=
  List.map_fst_zip (by simp [h])

/-- Objects with the same names are compared value by value. -/
theorem eqvEntries_objectOf (before : Object) {ns : List Text} {vs ws : List Datum}
    (hns : ns.Nodup) (hbefore : ∀ n ∈ ns, Datum.text n ∉ before.map Prod.fst)
    (hvs : vs.length = ns.length) (hws : ws.length = ns.length) :
    Datum.eqvEntries (objectOf ns vs) (before ++ objectOf ns ws) = Datum.eqvItems vs ws := by
  -- Every entry is looked for in the whole second object, so the names that are done stay before.
  induction ns generalizing before vs ws with
  | nil =>
    obtain rfl := List.eq_nil_of_length_eq_zero hvs
    obtain rfl := List.eq_nil_of_length_eq_zero hws
    simp [objectOf, Datum.eqvEntries, Datum.eqvItems]
  | cons n ns ih =>
    obtain ⟨v, vs, rfl⟩ := List.exists_cons_of_length_eq_add_one hvs
    obtain ⟨w, ws, rfl⟩ := List.exists_cons_of_length_eq_add_one hws
    rw [List.nodup_cons] at hns
    obtain ⟨hn, hbefore⟩ := List.forall_mem_cons.1 hbefore
    rw [List.length_cons, List.length_cons, Nat.add_right_cancel_iff] at hvs hws
    have hrest : Datum.text n ∉ (objectOf ns ws).map Prod.fst := by
      simpa [keys_objectOf hws] using hns.1
    have hhead : ((before ++ objectOf (n :: ns) (w :: ws)).any fun e =>
        (Datum.text n).alike e.1 && v.alike e.2) = v.alike w := by
      rw [any_objectOf_append hn, objectOf_cons, List.any_cons]
      have hnone := any_objectOf_append hrest v []
      rw [List.append_nil, List.any_nil] at hnone
      rw [hnone]
      simp
    have htail := ih (before ++ [(.text n, w)]) hns.2 ?_ hvs hws
    · rw [Datum.eqvEntries_eq_all] at htail ⊢
      rw [objectOf_cons, List.all_cons, hhead, Datum.eqvItems_cons, ← htail, objectOf_cons]
      simp
    · intro m hm
      have hne : m ≠ n := fun heq => hns.1 (heq ▸ hm)
      simpa [hne] using hbefore m hm

theorem alike_objectOf {ns : List Text} {vs ws : List Datum} (hns : ns.Nodup)
    (hvs : vs.length = ns.length) (hws : ws.length = ns.length) :
    (Datum.map (objectOf ns vs)).alike (.map (objectOf ns ws)) = Datum.eqvItems vs ws := by
  have hentries := eqvEntries_objectOf [] hns (fun _ _ => List.not_mem_nil) hvs hws
  have hlength : (objectOf ns vs).length = (objectOf ns ws).length := by simp [objectOf, hvs, hws]
  rw [List.nil_append] at hentries
  simp [Datum.alike, Datum.sameNan, Datum.eqv, hentries, hlength]

/-- The objects of an option are apart when the values under every name are. -/
theorem pairwise_objectAxis (es : List (Text × Datum)) :
    ((objectAxis es).map .map).Pairwise (Apart Datum.alike) ↔
      ∀ n, (valuesUnder es n).Pairwise (Apart Datum.alike) := by
  have hvalues : ∀ xs ∈ (names es).map (valuesUnder es), xs ≠ [] :=
    List.forall_mem_map.2 fun n hn => valuesUnder_ne_nil hn
  have hnames : (∀ xs ∈ (names es).map (valuesUnder es), xs.Pairwise (Apart Datum.alike)) ↔
      ∀ n, (valuesUnder es n).Pairwise (Apart Datum.alike) := by
    rw [List.forall_mem_map]
    refine ⟨fun h n => ?_, fun h n _ => h n⟩
    by_cases hn : n ∈ names es
    · exact h n hn
    · rw [valuesUnder_eq_nil hn]
      exact .nil
  rw [← hnames]
  unfold objectAxis
  split_ifs with hempty
  · simp [List.isEmpty_iff.1 hempty]
  · rw [← pairwise_choices hvalues, List.map_map, List.pairwise_map]
    refine List.Pairwise.iff_of_mem fun {vs ws} hvs hws => ?_
    have hvs : vs.length = (names es).length := by simpa using (mem_choices.1 hvs).length_eq
    have hws : ws.length = (names es).length := by simpa using (mem_choices.1 hws).length_eq
    simp only [Apart, Function.comp_apply, alike_objectOf (nodup_names es) hvs hws,
      alike_objectOf (nodup_names es) hws hvs]

/-! ## Options -/

/-- The values of every list of an option are pairwise apart. -/
def Descriptor.HasDistinctValues : Descriptor → Prop
  | .plain domain => domain.values.Pairwise (Apart Datum.alike)
  | .object properties => ∀ p ∈ properties, p.2.values.Pairwise (Apart Datum.alike)
  | .unsupported _ => True

/-- Properties of one name list no value twice. -/
def Descriptor.ListsApart : Descriptor → Prop
  | .object properties => properties.Pairwise fun p q =>
      p.1 = q.1 → ∀ v ∈ p.2.values, ∀ w ∈ q.2.values, Apart Datum.alike v w
  | .plain _ | .unsupported _ => True

instance : DecidablePred Descriptor.HasDistinctValues
  | .plain domain => inferInstanceAs (Decidable (domain.values.Pairwise (Apart Datum.alike)))
  | .object properties =>
    inferInstanceAs (Decidable (∀ p ∈ properties, p.2.values.Pairwise (Apart Datum.alike)))
  | .unsupported _ => .isTrue trivial

instance : DecidablePred Descriptor.ListsApart
  | .object properties => inferInstanceAs (Decidable (properties.Pairwise fun p q =>
      p.1 = q.1 → ∀ v ∈ p.2.values, ∀ w ∈ q.2.values, Apart Datum.alike v w))
  | .plain _ | .unsupported _ => .isTrue trivial

/-- **The values of an option are apart when properties of one name list no value twice.** -/
theorem pairwise_axis {d : Descriptor} (h : d.HasDistinctValues) :
    d.axis.Pairwise (Apart Datum.alike) ↔ d.ListsApart := by
  cases d with
  | unsupported reason => exact iff_of_true .nil trivial
  | plain domain =>
    cases domain with
    | boolean => exact iff_of_true .nil trivial
    | enum values => exact iff_of_true h trivial
  | object properties =>
    have hunder : ∀ n, (valuesUnder (listings properties) n).Pairwise (Apart Datum.alike) ↔
        properties.Pairwise fun p q => p.1 = n → q.1 = n →
          ∀ v ∈ p.2.values, ∀ w ∈ q.2.values, Apart Datum.alike v w := by
      intro n
      rw [valuesUnder_listings, List.pairwise_flatMap, List.pairwise_filter]
      simp only [decide_eq_true_iff]
      exact and_iff_right fun p hp => h p (List.mem_of_mem_filter hp)
    rw [Descriptor.axis, pairwise_objectAxis]
    simp only [hunder, Descriptor.ListsApart, List.pairwise_iff_getElem]
    constructor
    · intro happart i j hi hj hij hname
      exact happart _ i j hi hj hij hname rfl
    · intro happart n i j hi hj hij hp hq
      exact happart i j hi hj hij (hp.trans hq.symm)

/-! ## Rows -/

/-- What a pick stands for tells the pick. -/
def Readable (xss : List (List Datum)) : Prop :=
  ∀ ks ls : Pick, ks.Within xss → ls.Within xss → ks ≠ ls →
    Datum.eqvItems (ks.spliced xss) (ls.spliced xss) = false

theorem readable_iff (xss : List (List Datum)) :
    Readable xss ↔ (rests xss).Pairwise (Apart Datum.eqvItems) := by
  have hnodup : (optionalPicks xss).Nodup :=
    nodup_choices (List.forall_mem_map.2 fun xs _ => nodup_none_positions xs)
  rw [rests, pairwise_map_apart_iff hnodup]
  simp only [mem_optionalPicks]
  exact ⟨fun h ks hks ls hls => h ks ls hks hls, fun h ks ls hks hls => h ks hks ls hls⟩

/-- The rows of a schema are apart when the values of its first axis are and the axes behind it are
readable. -/
theorem pairwise_expand (schema : Schema) :
    schema.expand.Pairwise (Apart Datum.eqvItems) ↔
      (∀ xs ∈ schema.axes.head?, xs.Pairwise (Apart Datum.alike)) ∧ Readable schema.axes.tail := by
  rw [(expand_perm schema).pairwise_iff fun h => Std.Symm.symm _ _ h, readable_iff]
  cases haxes : schema.axes with
  | nil => simp [picks, rests, optionalPicks, choices]
  | cons xs xss =>
    have hxs : xs ≠ [] := ne_nil_of_mem_axes xs (haxes ▸ List.mem_cons_self)
    rw [map_row_picks, pairwise_flatMap_cons hxs (rests_ne_nil xss)]
    simp

theorem pairwise_candidates (schema : Schema) (s : Severity) :
    (schema.candidates s).Pairwise (Apart Candidate.eqv) ↔
      schema.expand.Pairwise (Apart Datum.eqvItems) := by
  have hplain : ∀ row ∈ schema.expand, Apart Candidate.eqv ⟨s, []⟩ ⟨s, row⟩ := by
    intro row hrow
    obtain ⟨x, rest, rfl⟩ := List.exists_cons_of_ne_nil (ne_nil_of_mem_expand hrow)
    simp [Apart, Candidate.eqv]
  rw [Schema.candidates, List.pairwise_cons, List.forall_mem_map, and_iff_right hplain,
    List.pairwise_map]
  exact List.Pairwise.iff fun a b => by simp [Apart, Candidate.eqv]

/-! ## Readable axes -/

section Flat

variable {xs : List Datum} {xss : List (List Datum)}

/-- In front of rests that are apart, first values decide. -/
theorem pairwise_flatMap_rests (h : (rests xss).Pairwise (Apart Datum.eqvItems)) :
    (xs.flatMap fun x => (rests xss).map (x :: ·)).Pairwise (Apart Datum.eqvItems) ↔
      xs.Pairwise (Apart Datum.alike) := by
  by_cases hxs : xs = []
  · simp [hxs]
  · rw [pairwise_flatMap_cons hxs (rests_ne_nil xss), and_iff_left h]

/-- Readable axes are apart within themselves. -/
theorem Readable.pairwise (h : Readable xss) (hxs : xs ∈ xss)
    (hflat : ∀ x ∈ xs, x.kind ≠ .list ∧ x.kind ≠ .tuple) : xs.Pairwise (Apart Datum.alike) := by
  rw [readable_iff] at h
  induction xss with
  | nil => cases hxs
  | cons ys xss ih =>
    rcases List.mem_cons.1 hxs with rfl | hxs
    · rw [rests_cons_of_flat hflat, List.pairwise_append] at h
      exact (pairwise_flatMap_rests h.1).1 h.2.1
    · rw [rests_cons, List.pairwise_append] at h
      exact ih h.1 hxs

theorem singleton_mem_rests (hflat : IsFlat xss) {v : Datum} (hxs : xs ∈ xss) (hv : v ∈ xs) :
    [v] ∈ rests xss := by
  induction xss with
  | nil => cases hxs
  | cons ys xss ih =>
    obtain ⟨hys, hxss⟩ := List.forall_mem_cons.1 hflat
    rw [rests_cons_of_flat hys, List.mem_append]
    rcases List.mem_cons.1 hxs with rfl | hxs
    · exact .inr (List.mem_flatMap.2 ⟨v, hv, List.mem_map_of_mem (nil_mem_rests xss)⟩)
    · exact .inl (ih hxss hxs)

theorem mem_of_mem_rests (hflat : IsFlat xss) {rest : List Datum} (h : rest ∈ rests xss) :
    ∀ v ∈ rest, ∃ xs ∈ xss, v ∈ xs := by
  obtain ⟨pick, -, rfl⟩ := List.mem_map.1 h
  rw [spliced_eq_elements hflat]
  exact fun v hv => Pick.mem_of_mem_elements hv

/-- **Axes without lists that are apart within themselves are readable when no two of them share a
value.** -/
theorem readable_iff_of_isFlat (hflat : IsFlat xss)
    (happart : ∀ xs ∈ xss, xs.Pairwise (Apart Datum.alike)) :
    Readable xss ↔ xss.Pairwise fun xs ys => ∀ v ∈ xs, ∀ w ∈ ys, Apart Datum.alike v w := by
  rw [readable_iff]
  induction xss with
  | nil => simp [rests, optionalPicks, choices]
  | cons xs xss ih =>
    obtain ⟨hxs, hxss⟩ := List.forall_mem_cons.1 hflat
    obtain ⟨hpairwise, hrest⟩ := List.forall_mem_cons.1 happart
    rw [List.pairwise_cons, ← ih hxss hrest, rests_cons_of_flat hxs, List.pairwise_append]
    constructor
    · -- A value shared with a later axis would be a rest with this axis as well as without it.
      rintro ⟨hrests, -, hfirst⟩
      refine ⟨fun ys hys v hv w hw => ?_, hrests⟩
      have hboth : Apart Datum.eqvItems [w] [v] :=
        hfirst _ (singleton_mem_rests hxss hys hw) _
          (List.mem_flatMap.2 ⟨v, hv, List.mem_map_of_mem (nil_mem_rests xss)⟩)
      simpa [Apart, and_comm] using hboth
    · rintro ⟨hshared, hrests⟩
      refine ⟨hrests, (pairwise_flatMap_rests hrests).2 hpairwise, fun rest hmem row hrow => ?_⟩
      obtain ⟨v, hv, hrow⟩ := List.mem_flatMap.1 hrow
      obtain ⟨behind, -, rfl⟩ := List.mem_map.1 hrow
      cases rest with
      | nil => simp [Apart]
      | cons w rest =>
        obtain ⟨ys, hys, hw⟩ := mem_of_mem_rests hxss hmem w List.mem_cons_self
        have hvw := hshared ys hys v hv w hw
        simp [Apart, hvw.1, hvw.2]

end Flat

/-! ## Candidates -/

theorem mem_axes {schema : Schema} {xs : List Datum} :
    xs ∈ schema.axes ↔ (∃ d ∈ schema, d.axis = xs) ∧ xs ≠ [] := by
  simp [Schema.axes]

/-- The objects of an option are apart where they are a readable axis or the first one. -/
theorem listsApart_iff {schema : Schema} (h : ∀ d ∈ schema, d.HasDistinctValues)
    (hreadable : Readable schema.axes.tail) :
    (∀ xs ∈ schema.axes.head?, xs.Pairwise (Apart Datum.alike)) ↔
      ∀ d ∈ schema, d.ListsApart := by
  constructor
  · intro hfirst d hd
    cases d with
    | plain domain => trivial
    | unsupported reason => trivial
    | object properties =>
      rw [← pairwise_axis (h _ hd)]
      by_cases hnil : (Descriptor.object properties).axis = []
      · rw [hnil]
        exact .nil
      · have hmem := mem_axes.2 ⟨⟨_, hd, rfl⟩, hnil⟩
        cases haxes : schema.axes with
        | nil => simp [haxes] at hmem
        | cons xs xss =>
          rw [haxes] at hmem hfirst hreadable
          rcases List.mem_cons.1 hmem with heq | htail
          · exact hfirst _ (by simp [heq])
          · exact hreadable.pairwise htail (kind_of_mem_axis rfl)
  · intro hlists xs hxs
    obtain ⟨⟨d, hd, rfl⟩, -⟩ := mem_axes.1 (List.mem_of_mem_head? hxs)
    exact (pairwise_axis (h d hd)).2 (hlists d hd)

/-- **Candidates are apart when properties of one name share no value and the axes behind the first
are readable, which for axes without lists means that no two share a value.** -/
theorem pairwise_candidates_iff {schema : Schema} (h : ∀ d ∈ schema, d.HasDistinctValues)
    (s : Severity) :
    ((schema.candidates s).Pairwise (Apart Candidate.eqv) ↔
      (∀ d ∈ schema, d.ListsApart) ∧ Readable schema.axes.tail) ∧
    (IsFlat schema.axes.tail →
      ((schema.candidates s).Pairwise (Apart Candidate.eqv) ↔
        (∀ d ∈ schema, d.ListsApart) ∧ schema.axes.tail.Pairwise fun xs ys =>
          ∀ v ∈ xs, ∀ w ∈ ys, Apart Datum.alike v w)) := by
  have hreadable : (schema.candidates s).Pairwise (Apart Candidate.eqv) ↔
      (∀ d ∈ schema, d.ListsApart) ∧ Readable schema.axes.tail := by
    rw [pairwise_candidates, pairwise_expand]
    exact and_congr_left (listsApart_iff h)
  refine ⟨hreadable, fun hflat => hreadable.trans (and_congr_right fun hlists => ?_)⟩
  refine readable_iff_of_isFlat hflat fun xs hxs => ?_
  obtain ⟨⟨d, hd, rfl⟩, -⟩ := mem_axes.1 (List.mem_of_mem_tail hxs)
  exact (pairwise_axis (h d hd)).2 (hlists d hd)

/-- The theorem on an option, an object and another option that share no value. -/
theorem pairwise_candidates_iff_semi :
    (Schema.candidates [.plain (.enum [.text "always", .text "never"]),
      .object [("before", .boolean), ("after", .enum [.int 1, .bool false])],
      .plain (.enum [.text "always", .null])] .error).Pairwise (Apart Candidate.eqv) := by
  have hflat : IsFlat (Schema.axes [.plain (.enum [.text "always", .text "never"]),
      .object [("before", .boolean), ("after", .enum [.int 1, .bool false])],
      .plain (.enum [.text "always", .null])]).tail := by
    unfold IsFlat
    decide
  exact ((pairwise_candidates_iff (by decide) .error).2 hflat).2 ⟨by decide, by decide⟩

/-- Something that is read as a schema with distinct values in every list, of which two candidates
are equal. -/
def HasTwins (raw : Datum) : Prop :=
  ∃ schema, Schema.read "schema" raw = .ok schema ∧ (∀ d ∈ schema, d.HasDistinctValues) ∧
    ¬ (schema.candidates .error).Pairwise (Apart Candidate.eqv)

/-- None of the conditions can be left out: two options behind the first share a value, two
properties with one name do, and a list stands for another value of its option. -/
theorem hasTwins_of_each :
    HasTwins (.list [.map [(.text "enum", .list [.text "a"])],
      .map [(.text "enum", .list [.text "b"])], .map [(.text "enum", .list [.text "b"])]]) ∧
    HasTwins (.list [.map [(.text "type", .text "object"), (.text "properties",
      .map [(.bool true, .map [(.text "enum", .list [.text "x"])]),
        (.text "True", .map [(.text "enum", .list [.text "x"])])])]]) ∧
    HasTwins (.list [.map [(.text "enum", .list [.text "a"])],
      .map [(.text "enum", .list [.text "c", .list [.text "c"]])]]) := by
  refine ⟨⟨_, rfl, by decide, by decide⟩, ⟨_, rfl, by decide, by decide⟩,
    ⟨_, rfl, by decide, by decide⟩⟩

end RuleFit

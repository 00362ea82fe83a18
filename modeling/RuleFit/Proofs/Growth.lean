import RuleFit.Proofs.Objects
import RuleFit.Proofs.Transposition

/-!
# How expansions grow

An expansion only ever grows at its end. Whatever rows it holds, an option keeps them in front and
puts behind them each row extended by each of its values; where there are no rows yet, the values
become the first ones. At the end the severity goes in front of every row, and the plain row in
front of all of them.

**Theorem (`addObject_expands`).** Let the properties of an object have different names. The values
of the option are the objects that give every property with values the one at some position, one
object for each choice of positions, in lexicographic order with the first property varying slowest.
Without such properties the expansion stays as it is.

**Theorem (`candidates_append`).** The candidates of a schema are the first candidates of every
schema that starts with it. So in a plan for either schema, candidate `i` of the shorter one is in
rule set `i`.

**Theorem (`candidates_built`).** The candidates of a schema are read off the expansion that its
options make one after the other and that takes its severity at the end.

The first theorem comes from the choices of values (`objectsOf_eq`), which are choices of positions
(`map_objectOf_choices`). The others follow the expansion from option to option: rows that are there
stay in front (`prefix_growRows`), and rows that are lists stay lists (`addOption_ofRows`).
-/

namespace RuleFit

/-! ## Objects by position -/

/-- The object that gives every property its value at a position. -/
def objectAt (properties : List (Text × Domain)) (positions : List Nat) : Object :=
  (properties.zip positions).filterMap fun e => e.1.2.values[e.2]?.map (Datum.text e.1.1, ·)

theorem objectAt_cons {p : Text × Domain} {i : Nat} {v : Datum} (h : p.2.values[i]? = some v)
    (properties : List (Text × Domain)) (positions : List Nat) :
    objectAt (p :: properties) (i :: positions) =
      (.text p.1, v) :: objectAt properties positions := by
  simp [objectAt, h]

/-- An object by position has every property, in order. -/
theorem keys_objectAt {properties : List (Text × Domain)} {positions : List Nat}
    (h : List.Forall₂ (fun i p => i < p.2.values.length) positions properties) :
    (objectAt properties positions).map Prod.fst = properties.map fun p => .text p.1 := by
  induction h with
  | nil => rfl
  | cons hi _ ih =>
    rw [objectAt_cons (List.getElem?_eq_getElem hi), List.map_cons, List.map_cons, ih]

/-- Choosing values is choosing their positions. -/
theorem map_objectOf_choices (properties : List (Text × Domain)) :
    (choices (properties.map fun p => p.2.values)).map (objectOf (properties.map Prod.fst)) =
      (choices (properties.map fun p => List.range p.2.values.length)).map
        (objectAt properties) := by
  induction properties with
  | nil => rfl
  | cons p properties ih =>
    simp only [List.map_cons, choices, List.map_flatMap, List.map_map]
    refine (flatMap_range p.2.values _ _ fun i v hv => ?_).symm
    simp only [Function.comp_def, objectAt_cons hv, objectOf, List.map_cons, List.zip_cons_cons]
    have hrest := congrArg (List.map ((Datum.text p.1, v) :: ·)) ih
    simpa [Function.comp_def, objectOf] using hrest.symm

/-- Of names that differ each stands for one property. -/
theorem filter_name_eq {properties : List (Text × Domain)} (h : (properties.map Prod.fst).Nodup)
    {p : Text × Domain} (hp : p ∈ properties) :
    (properties.filter fun q => decide (q.1 = p.1)) = [p] := by
  have hsame : ∀ q ∈ properties, decide (q.1 = p.1) = (q == p) := by
    intro q hq
    rw [Bool.eq_iff_iff, decide_eq_true_iff, beq_iff_eq]
    exact ⟨List.inj_on_of_nodup_map h hq hp, congrArg Prod.fst⟩
  rw [List.filter_congr hsame, List.filter_beq, List.count_eq_one_of_mem h.of_map hp]
  rfl

/-- The objects of an option whose properties have different names. -/
theorem objectsOf_of_nodup {properties : List (Text × Domain)}
    (h : (properties.map Prod.fst).Nodup) :
    objectsOf properties = if (valued properties).isEmpty then [] else
      (choices ((valued properties).map fun p => List.range p.2.values.length)).map
        (objectAt (valued properties)) := by
  have hsub : (valued properties).Sublist properties := List.filter_sublist
  have hnames : names (listings properties) = (valued properties).map Prod.fst := by
    rw [names_listings, eraseDups_of_nodup (h.sublist (hsub.map _))]
  have hvalues : ((valued properties).map Prod.fst).map (valuesUnder (listings properties)) =
      (valued properties).map fun p => p.2.values := by
    rw [List.map_map]
    refine List.map_congr_left fun p hp => ?_
    rw [Function.comp_apply, valuesUnder_listings, filter_name_eq h (hsub.subset hp),
      List.flatMap_singleton]
  rw [objectsOf_eq, objectAxis, hnames, hvalues, map_objectOf_choices, List.isEmpty_map]

/-! ## Adding an object option -/

/-- Objects are the first rows, or extend every row there is. -/
theorem grow_objects (rows : List Datum) {objects : List Object} (h : objects ≠ [])
    (finished : Bool) :
    Expansion.grow ⟨.list rows, finished⟩ (.list (objects.map .map)) =
      .ok ⟨.list (rows ++ if rows = [] then objects.map fun o => .list [.map o]
        else rows.flatMap fun row => objects.map fun o => .list (row.spliced ++ [.map o])),
        finished⟩ := by
  have hself : ∀ o : Object, (Datum.map o).spliced = [.map o] := fun o => rfl
  rw [Expansion.grow_list, if_neg (by simpa using h), combine]
  by_cases hrows : rows = []
  · simp [hrows, explode]
  · simp [hrows, h, hself, List.map_flatMap, Function.comp_def]

/-- **An object option extends every row by each object that its properties make.** -/
theorem addObject_expands {properties : List (Text × Domain)}
    (h : (properties.map Prod.fst).Nodup) (rows : List Datum) (finished : Bool) :
    ∃ positions : List (List Nat), positions.Pairwise (· < ·) ∧
      (∀ c, c ∈ positions ↔
        List.Forall₂ (fun i p => i < p.2.values.length) c (valued properties)) ∧
      let objects := positions.map (objectAt (valued properties))
      (∀ o ∈ objects, o.map Prod.fst = (valued properties).map fun p => .text p.1) ∧
      (valued properties = [] →
        Expansion.addObject ⟨.list rows, finished⟩ properties = .ok ⟨.list rows, finished⟩) ∧
      (valued properties ≠ [] →
        objectsOf properties = objects ∧
        Expansion.addObject ⟨.list rows, finished⟩ properties =
          .ok ⟨.list (rows ++ if rows = [] then objects.map fun o => .list [.map o]
            else rows.flatMap fun row => objects.map fun o => .list (row.spliced ++ [.map o])),
            finished⟩) := by
  let positions := choices ((valued properties).map fun p => List.range p.2.values.length)
  have hmem : ∀ c, c ∈ positions ↔
      List.Forall₂ (fun i p => i < p.2.values.length) c (valued properties) := by
    intro c
    simp only [positions, mem_choices, List.forall₂_map_right_iff, List.mem_range]
  refine ⟨positions, ?_, hmem, ?_, ?_, ?_⟩
  · apply pairwise_lt_choices
    rw [List.forall_mem_map]
    intro p _
    exact List.pairwise_lt_range
  · intro o ho
    obtain ⟨c, hc, rfl⟩ := List.mem_map.1 ho
    exact keys_objectAt ((hmem c).1 hc)
  · intro hnone
    rw [Expansion.addObject, objectsOf_of_nodup h, if_pos (List.isEmpty_iff.2 hnone),
      Expansion.grow_list]
    rfl
  · intro hsome
    have hobjects : objectsOf properties = positions.map (objectAt (valued properties)) := by
      rw [objectsOf_of_nodup h, if_neg (by simpa using hsome)]
    have hpositions : positions ≠ [] := by
      apply choices_ne_nil
      rw [List.forall_mem_map]
      intro p hp
      simpa using (List.mem_filter.1 hp).2
    refine ⟨hobjects, ?_⟩
    rw [Expansion.addObject, hobjects, grow_objects rows (by simpa using hpositions)]

/-- A word is extended by an object for `before` and `after`; `tag` has no values and is in none. -/
theorem addObject_expands_spacing :
    let properties : List (Text × Domain) :=
      [("before", .boolean), ("tag", .enum []), ("after", .enum [.int 0, .int 1])]
    ∃ rows, Expansion.addObject ⟨.list [.list [.text "always"]], false⟩ properties =
        .ok ⟨.list rows, false⟩ ∧
      .list [.text "always", .map [(.text "before", .bool false), (.text "after", .int 1)]] ∈
        rows := by
  intro properties
  have hnames : (properties.map Prod.fst).Nodup := by decide
  obtain ⟨positions, -, hmem, -, -, hgrown⟩ :=
    addObject_expands hnames [.list [.text "always"]] false
  have hchoice : [1, 1] ∈ positions :=
    (hmem [1, 1]).2 (.cons (by decide) (.cons (by decide) .nil))
  refine ⟨_, (hgrown (by decide)).2, List.mem_append_right _ ?_⟩
  rw [if_neg (by decide)]
  refine List.mem_flatMap.2 ⟨_, List.mem_singleton_self _, ?_⟩
  exact List.mem_map.2 ⟨_, List.mem_map_of_mem hchoice, rfl⟩

/-! ## Rows stay in front -/

theorem prefix_growRows (rows : List (List Datum)) (values : List Datum) :
    rows <+: growRows rows values := by
  unfold growRows
  split
  · exact List.prefix_rfl
  · exact List.prefix_append ..

theorem prefix_foldl_growRows (rows : List (List Datum)) (schema : Schema) :
    rows <+: schema.foldl (fun rows d => growRows rows d.expanded) rows := by
  induction schema generalizing rows with
  | nil => exact List.prefix_rfl
  | cons d schema ih => exact (prefix_growRows rows d.expanded).trans (ih _)

theorem candidates_isPrefix_append (first more : Schema) (severity : Severity) :
    first.candidates severity <+: (first ++ more).candidates severity := by
  have hrows : first.expand <+: (first ++ more).expand := by
    simp only [Schema.expand, List.foldl_append]
    exact prefix_foldl_growRows ..
  exact List.cons_prefix_cons.2 ⟨rfl, hrows.map _⟩

/-- **Longer schemas go on where shorter ones end.** -/
theorem candidates_append (first more : Schema) (severity : Severity) :
    first.candidates severity <+: (first ++ more).candidates severity ∧
    ∀ (n : Int) (board longer : Scoreboard) (id : Text),
      board.candidates.get? id = some (first.candidates severity) →
      longer.candidates.get? id = some ((first ++ more).candidates severity) →
      ((first ++ more).candidates severity).length ≤ n →
      ∃ plan longerPlan : List RuleSet, board.planUnder (.whole n) = .ok plan ∧
        longer.planUnder (.whole n) = .ok longerPlan ∧
        ∀ (i : Nat) c, (first.candidates severity)[i]? = some c →
          plan[i]?.bind (·.get? id) = some c ∧ longerPlan[i]?.bind (·.get? id) = some c := by
  have hfront := candidates_isPrefix_append first more severity
  refine ⟨hfront, ?_⟩
  intro n board longer id hboard hlonger hlength
  refine ⟨_, _, board.planUnder_whole n, longer.planUnder_whole n, ?_⟩
  intro i c hc
  have hshort : ((first.candidates severity).length : Int) ≤ n :=
    (Int.ofNat_le.2 hfront.length_le).trans hlength
  have hkept : ((first ++ more).candidates severity)[i]? = some c := by
    obtain ⟨rest, hrest⟩ := hfront
    rw [← hrest, List.getElem?_append_left (List.getElem?_eq_some_iff.1 hc).1, hc]
  rw [Scoreboard.getElem?_plan_bind hboard hshort, Scoreboard.getElem?_plan_bind hlonger hlength]
  exact ⟨hc, hkept⟩

/-- Where `semi` takes an object as well, the word `never` is still in rule set 2. -/
theorem candidates_append_semi :
    let words : Schema := [.plain (.enum [.text "always", .text "never"])]
    let more : Schema := [.unsupported "oneOf is not supported", .object [("body", .boolean)]]
    let board : Scoreboard := .ofCandidates (.single "semi" (words.candidates .error))
    let longer : Scoreboard := .ofCandidates ⟨[("eqeqeq", [⟨.error, []⟩]),
      ("semi", (words ++ more).candidates .error)], by decide⟩
    ∃ plan longerPlan : List RuleSet, board.planUnder (.whole 16) = .ok plan ∧
      longer.planUnder (.whole 16) = .ok longerPlan ∧
      plan[2]?.bind (·.get? "semi") = some ⟨.error, [.text "never"]⟩ ∧
      longerPlan[2]?.bind (·.get? "semi") = some ⟨.error, [.text "never"]⟩ := by
  intro words more board longer
  obtain ⟨plan, longerPlan, hplan, hlonger, hkept⟩ :=
    (candidates_append words more .error).2 16 board longer "semi" rfl rfl (by decide)
  exact ⟨plan, longerPlan, hplan, hlonger, hkept 2 _ rfl⟩

/-! ## Candidates step by step -/

/-- Grows by the values of an option. -/
def Expansion.addOption (e : Expansion) : Descriptor → Expansion.Change KindFault Expansion
  | .plain (.enum values) => e.grow (.list values)
  | .object properties => e.addObject properties
  | .plain .boolean | .unsupported _ => .ok e

theorem addOption_ofRows (rows : List (List Datum)) (finished : Bool) (d : Descriptor) :
    Expansion.addOption ⟨Expansion.ofRows rows, finished⟩ d =
      .ok ⟨Expansion.ofRows (growRows rows d.expanded), finished⟩ := by
  cases d with
  | plain domain =>
    cases domain with
    | enum values => exact Expansion.grow_ofRows rows values finished
    | boolean => rfl
  | object properties => exact Expansion.grow_ofRows rows _ finished
  | unsupported reason => rfl

theorem foldlM_addOption (schema : Schema) (rows : List (List Datum)) (finished : Bool) :
    schema.foldlM Expansion.addOption ⟨Expansion.ofRows rows, finished⟩ =
      .ok ⟨Expansion.ofRows (schema.foldl (fun rows d => growRows rows d.expanded) rows),
        finished⟩ := by
  induction schema generalizing rows with
  | nil => rfl
  | cons d schema ih =>
    rw [List.foldlM_cons, addOption_ofRows, List.foldl_cons, ← ih]
    rfl

/-- The severity goes in front of every row, and in front of all rows. -/
theorem addSeverity_ofRows (rows : List (List Datum)) (severity : Severity) :
    Expansion.addSeverity ⟨Expansion.ofRows rows, false⟩ severity =
      .ok ⟨Expansion.ofRows ([severity.toDatum] :: rows.map (severity.toDatum :: ·)), true⟩ := by
  have hrows : (rows.map Datum.list).mapM (Expansion.withSeverity severity) =
      .ok (rows.map fun row => .list (severity.toDatum :: row)) := by
    rw [List.mapM_map]
    exact List.mapM_pure
  have helements : (Expansion.ofRows rows).elements = .ok (rows.map Datum.list) := rfl
  simp only [Expansion.addSeverity, helements, hrows, Except.mapError, bind, Except.bind]
  simp [Expansion.ofRows, Function.comp_def, pure, Except.pure]

/-- Rows that start with a severity are read as candidates of it. -/
theorem toCandidates_ofRows (rows : List (List Datum)) (severity : Severity) (finished : Bool) :
    Expansion.toCandidates ⟨Expansion.ofRows (rows.map (severity.toDatum :: ·)), finished⟩ =
      .ok (rows.map (⟨severity, ·⟩)) := by
  have hrow : (Candidate.ofRow ∘ fun row => Datum.list (severity.toDatum :: row)) =
      fun row => pure ⟨severity, row⟩ := by
    funext row
    cases severity <;> rfl
  have hrows : (rows.map fun row => Datum.list (severity.toDatum :: row)).mapM Candidate.ofRow =
      .ok (rows.map (⟨severity, ·⟩)) := by
    rw [List.mapM_map, hrow]
    exact List.mapM_pure
  have helements : (Expansion.ofRows (rows.map (severity.toDatum :: ·))).elements =
      .ok (rows.map fun row => Datum.list (severity.toDatum :: row)) := by
    simp [Expansion.ofRows, Datum.elements, Datum.elements?, Function.comp_def]
  simp only [Expansion.toCandidates, helements, Except.mapError, bind, Except.bind, hrows]

/-- **The candidates of a schema are what comes of its options one by one and of the severity at the
end.** -/
theorem candidates_built (schema : Schema) (severity : Severity) :
    ∃ grown finished : Expansion,
      schema.foldlM Expansion.addOption (.start .null) = .ok grown ∧
      grown.addSeverity severity = .ok finished ∧
      finished.toCandidates = .ok (schema.candidates severity) := by
  refine ⟨_, _, foldlM_addOption schema [] false, addSeverity_ofRows _ severity, ?_⟩
  have hall : ∀ rows : List (List Datum),
      [severity.toDatum] :: rows.map (severity.toDatum :: ·) =
        ([] :: rows).map (severity.toDatum :: ·) := fun rows => rfl
  rw [hall, toCandidates_ofRows]
  rfl

end RuleFit

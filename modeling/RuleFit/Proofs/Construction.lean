import RuleFit.Proofs.Breaking

/-!
# Faults of values

Values are made of nodes, and no longer of a text: whatever goes wrong there is a flaw or a scalar
without a value (`Safe`, `Graph.value_finds`). With what compositions come to this settles what
loading a text comes to. A text that breaks off has no value, and only at such a text is a fault of
the encoding found (`load_ends`).
-/

namespace RuleFit.Yaml

/-- A value is found without a fault of the encoding but the one that a text breaks off at. -/
abbrev Finds {α : Type} (fault : Option Fault) (x : Except Fault α) : Prop :=
  Ends (Stems fault) (fun _ => True) x

variable {fault : Option Fault}

theorem finds_flaw {α : Type} {flaw : Flaw} : Finds fault (throw (.flaw flaw) : Except Fault α) :=
  stems_flaw

theorem finds_mapError {α : Type} (x : Except ScalarFault α) :
    Finds fault (x.mapError .scalar) := by
  cases x with
  | error f => exact stems_scalar
  | ok a => exact trivial

theorem foldlM_finds {α β : Type} {step : β → α → Except Fault β}
    (h : ∀ b a, Finds fault (step b a)) (xs : List α) (start : β) :
    Finds fault (xs.foldlM step start) := by
  induction xs generalizing start with
  | nil => exact trivial
  | cons a xs ih =>
    rw [List.foldlM_cons]
    exact (h start a).bind fun b _ => ih b

theorem bytesValue_finds (t : Text) : Finds fault (bytesValue t) := by
  unfold bytesValue
  split
  · exact trivial
  · exact stems_flaw

theorem scalarValue_finds (payload : Nat) (tag : Tag) (t : Text) :
    Finds fault (scalarValue payload tag t) := by
  unfold scalarValue
  split
  · exact trivial
  · exact finds_mapError _
  · exact finds_mapError _
  · exact finds_mapError _
  · exact finds_mapError _
  · exact (bytesValue_finds t).map fun _ _ => trivial
  · exact trivial
  all_goals exact stems_flaw

namespace Graph

theorem flattenFrom_finds (fuel : Nat) (g : Graph) (id index : Nat) (merged : List (Nat × Nat)) :
    Finds fault (g.flattenFrom fuel id index merged) := by
  induction fuel generalizing g id index merged with
  | zero => exact finds_flaw
  | succ fuel ih =>
    unfold flattenFrom
    dsimp only
    split
    · exact trivial
    split
    · exact ih _ _ _ _
    split
    · exact finds_flaw
    · exact (ih _ _ _ _).bind fun g' _ => ih _ _ _ _
    · refine Ends.bind (foldlM_finds ?_ _ _) fun r _ => ih _ _ _ _
      intro b item
      split
      · exact (ih _ _ _ _).bind fun _ _ => trivial
      · exact finds_flaw

theorem scalarText_finds (g : Graph) (fuel id : Nat) : Finds fault (g.scalarText fuel id) := by
  induction fuel generalizing id with
  | zero => exact stems_scalar
  | succ fuel ih =>
    unfold scalarText
    split
    · exact trivial
    · exact finds_flaw
    · split
      · exact ih _
      · exact finds_flaw

theorem scalar_finds (g : Graph) (id : Nat) : Finds fault (g.scalar id) := by
  unfold scalar
  dsimp only
  split
  · exact finds_flaw
  · exact finds_flaw
  · exact finds_flaw
  · exact (g.scalarText_finds _ _).bind fun _ _ => stems_scalar
  · exact (g.scalarText_finds _ _).bind fun _ _ => scalarValue_finds _ _ _

end Graph

namespace Construct

/-- A step of a construction ends with no fault of the encoding. -/
abbrev Safe {α : Type} (fault : Option Fault) (m : Construct α) : Prop :=
  Steady (fun _ : Construction => True) (Stems fault) m

theorem part_safe (id : Nat) : Safe fault (part id) := by
  unfold part
  refine steady_get.then fun s => ?_
  split
  · exact steady_pure
  · extract_lets isCollection
    have hbehind (p : Part) : Safe fault (do
        modify fun s => { s with
          parts := s.parts.setIfInBounds id (some p)
          noted := if isCollection then id :: s.noted else s.noted }
        return p : Construct Part) := (steady_modify fun _ _ => trivial).then fun _ => steady_pure
    split
    · exact hbehind _
    · exact (steady_lift (s.graph.scalar_finds id)).map.then hbehind

theorem key_safe (id : Nat) : Safe fault (key id) := by
  refine (part_safe id).then fun p => ?_
  split
  · exact steady_pure
  · exact .throw stems_flaw

theorem pair_safe (id : Nat) : Safe fault (pair id) := by
  refine steady_get.then fun s => ?_
  split
  · exact (part_safe _).then fun _ => (part_safe _).then fun _ => steady_get.then fun _ =>
      (steady_modify fun _ _ => trivial).then fun _ => steady_pure
  · exact .throw stems_flaw

theorem entries_safe (id : Nat) : Safe fault (entries id) := by
  refine steady_get.then fun s => ?_
  have hflat : Safe fault (s.graph.flattenFrom (s.extent + 2) id 0 []) :=
    steady_lift (s.graph.flattenFrom_finds _ _ _ _)
  refine hflat.then fun g => (steady_set trivial).then fun _ => ?_
  refine steady_foldlM (fun _ _ => ?_) _ _
  exact (key_safe _).then fun _ => (part_safe _).then fun _ => steady_pure

theorem fill_safe (id : Nat) : Safe fault (fill id) := by
  refine steady_get.then fun s => ?_
  have hbehind (filling : Filling) : Safe fault (modify fun s : Construction => { s with
      fillings := s.fillings.setIfInBounds id filling } : Construct PUnit) :=
    steady_modify fun _ _ => trivial
  dsimp only
  split
  · exact (steady_mapM part_safe _).map.then hbehind
  · exact (steady_mapM pair_safe _).map.then hbehind
  · exact (steady_mapM pair_safe _).map.then hbehind
  · exact (entries_safe _).map.then hbehind
  · exact (entries_safe _).map.then hbehind
  · exact (steady_throw stems_flaw).then hbehind

theorem fillAll_safe (rounds : Nat) : Safe fault (fillAll rounds) := by
  induction rounds with
  | zero => exact .throw stems_flaw
  | succ rounds ih =>
    unfold fillAll
    refine steady_get.then fun s => ?_
    dsimp only
    split_ifs
    · exact steady_pure
    · have hcleared : Safe fault (modify fun s : Construction => { s with noted := [] }) :=
        steady_modify fun _ _ => trivial
      exact hcleared.then fun _ => (steady_forM fill_safe _).then fun _ => ih

end Construct

/-- The value of a node is found, or there is a fault that is none of the encoding. -/
theorem Graph.value_finds (g : Graph) (root : Nat) : Finds fault (g.value root) := by
  have hsteps : Construct.Safe fault (do
      let p ← Construct.part root
      Construct.fillAll (g.size + 1)
      return p : Construct Part) :=
    (Construct.part_safe root).then fun _ => (Construct.fillAll_safe _).then fun _ => steady_pure
  exact (hsteps _ trivial).bind fun _ _ => trivial

/-! ## Documents -/

/-- A text that breaks off has no value, and only such a text has a fault of the encoding. -/
theorem load_ends (text : List Char) (fault : Option Fault) :
    Ends (Stems fault) (fun _ => fault = none) (load text fault) := by
  unfold load
  split
  · exact stems_of_eq rfl
  · refine (compose_ends text fault).bind fun root hwhole => ?_
    split
    · exact hwhole
    · exact (Graph.value_finds _ _).mono fun _ _ => hwhole

end RuleFit.Yaml

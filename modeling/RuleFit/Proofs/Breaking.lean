import RuleFit.Proofs.Lexing
import RuleFit.Yaml.Value

/-!
# Documents that break off

A composition goes through the tokens of a text, and all its steps keep the lexer sound (`Keeps`,
`Stays`): one lemma for each reader of nodes, with those it calls given less fuel
(`ReadersStay`). A document, or the lack of one, is only made out at the token for the end of the
text, so a text that breaks off comes to neither (`compose_ends`).
-/

namespace RuleFit.Yaml

namespace Compose

/-! ## Steps -/

/-- A step of a composition stays in the text, or ends at a fault in it. -/
abbrev Keeps {α : Type} (fault : Option Fault) (property : α → Prop) (m : Compose α) : Prop :=
  Yaml.Keeps (fun s : Composition => s.lexer.Sound fault) (Stems fault) property m

/-- The same where nothing else is said of what the step gives. -/
abbrev Stays {α : Type} (fault : Option Fault) (m : Compose α) : Prop :=
  Keeps fault (fun _ => True) m

variable {fault : Option Fault}

theorem refuse_keeps {α : Type} {flaw : Flaw} {property : α → Prop} :
    Keeps fault property (Compose.refuse flaw) :=
  .throw stems_flaw

theorem peek_keeps : Keeps fault (fun t => t = .textEnd → fault = none) peek := by
  intro s hs
  have hpeek := Lexer.peek_ends hs
  have hrun : peek.run s = s.lexer.peek.map fun r => (r.1, { s with lexer := r.2 }) := by
    unfold peek
    cases hread : s.lexer.peek with
    | error f =>
      simp only [StateT.run_bind, StateT.run_get, pure_bind, StateT.run_monadLift, hread]
      rfl
    | ok r =>
      simp only [StateT.run_bind, StateT.run_get, pure_bind, StateT.run_monadLift, hread]
      rfl
  rw [hrun]
  exact hpeek.map fun r hr => hr

theorem take_stays : Stays fault take := fun _ hs => ⟨trivial, hs.take⟩

theorem sees_stays {t : Token} : Stays fault (sees t) :=
  peek_keeps.bind fun _ _ => steady_pure

theorem seesAny_stays {ts : List Token} : Stays fault (seesAny ts) :=
  peek_keeps.bind fun _ _ => steady_pure

theorem expect_stays {t : Token} : Stays fault (expect t) := by
  refine sees_stays.then fun b => ?_
  split_ifs
  · exact take_stays
  · exact refuse_keeps

/-! ## Anchors and tags -/

theorem anchor_stays : Stays fault anchor := by
  refine peek_keeps.bind fun t _ => ?_
  split
  · exact take_stays.then fun _ => steady_pure
  · exact steady_pure

theorem tag_stays : Stays fault tag := by
  refine peek_keeps.bind fun t _ => ?_
  split
  · exact take_stays.then fun _ => steady_pure
  · exact steady_pure

theorem properties_stays : Stays fault properties := by
  refine anchor_stays.then fun found => ?_
  split
  · exact tag_stays.then fun _ => steady_pure
  · refine tag_stays.then fun found => ?_
    split
    · exact steady_pure
    · exact anchor_stays.then fun _ => steady_pure

theorem tagName_stays {p : Properties} : Stays fault (tagName p) := by
  unfold tagName
  split
  · exact steady_pure
  · exact steady_pure
  · refine steady_get.then fun s => ?_
    split
    · exact steady_pure
    · exact refuse_keeps

theorem add_stays {n : Node} : Stays fault (add n) := by
  refine steady_get.then fun s => (steady_modify ?_).then fun _ => steady_pure
  exact fun _ hs => hs

theorem enter_stays {name : Option String} : Stays fault (enter name) := by
  refine add_stays.then fun id => ?_
  split
  · exact steady_pure
  · refine steady_get.then fun s => ?_
    split_ifs
    · exact refuse_keeps
    · refine (steady_modify ?_).then fun _ => steady_pure
      exact fun _ hs => hs

theorem settle_stays {id : Nat} {n : Node} : Stays fault (settle id n) := by
  refine (steady_modify ?_).then fun _ => steady_pure
  exact fun _ hs => hs

theorem inside_stays {α : Type} {read : Compose α} (h : Stays fault read) :
    Stays fault (inside read) := by
  unfold inside
  refine steady_get.then fun s => ?_
  have hread : Stays fault (do
      modify fun s => { s with depth := s.depth + 1 }
      let a ← read
      modify fun s => { s with depth := s.depth - 1 }
      return a) := by
    refine (steady_modify ?_).then fun _ => h.then fun a => (steady_modify ?_).then fun _ =>
      steady_pure
    · exact fun _ hs => hs
    · exact fun _ hs => hs
  split_ifs
  · exact (steady_throw stems_scalar).then fun _ => hread
  · exact hread

theorem named_stays {name : String} : Stays fault (named name) := by
  refine steady_get.then fun s => ?_
  split
  · exact steady_pure
  · exact refuse_keeps

/-- A collection is entered before what is in it is read. -/
theorem collection_stays {α : Type} {read : Compose α} {name : Option String} {node : α → Node}
    (h : Stays fault read) : Stays fault (do
      let id ← enter name
      settle id (node (← inside read))) :=
  enter_stays.then fun _ => (inside_stays h).then fun _ => settle_stays

theorem leaf_stays {name : Option String} {node : Node} : Stays fault (do
    let id ← enter name
    settle id node) :=
  enter_stays.then fun _ => settle_stays

/-! ## Nodes -/

/-- All readers of nodes with so much fuel stay in the text. -/
structure ReadersStay (fault : Option Fault) (fuel : Nat) : Prop where
  node : ∀ block loose, Stays fault (node fuel block loose)
  nodeOr : ∀ ends block loose, Stays fault (nodeOr fuel ends block loose)
  blockItems : ∀ done, Stays fault (blockItems fuel done)
  looseItems : ∀ done, Stays fault (looseItems fuel done)
  blockEntries : ∀ done, Stays fault (blockEntries fuel done)
  valueOr : ∀ ends block, Stays fault (valueOr fuel ends block)
  flowItems : ∀ first done, Stays fault (flowItems fuel first done)
  flowEntries : ∀ first done, Stays fault (flowEntries fuel first done)

section Fuel

variable {fuel : Nat} (ih : ReadersStay fault fuel)

include ih

theorem node_stays (block loose : Bool) : Stays fault (node (fuel + 1) block loose) := by
  unfold Compose.node
  refine peek_keeps.then fun t => ?_
  split
  · exact take_stays.then fun _ => named_stays
  refine properties_stays.then fun p => tagName_stays.then fun name => ?_
  refine peek_keeps.then fun t => ?_
  split
  · split_ifs
    · exact collection_stays (ih.looseItems _)
    · exact refuse_keeps
    · exact leaf_stays
  · exact take_stays.then fun _ => leaf_stays
  · exact collection_stays (take_stays.then fun _ => ih.flowItems _ _)
  · exact collection_stays (take_stays.then fun _ => ih.flowEntries _ _)
  · split_ifs
    · exact collection_stays (take_stays.then fun _ => ih.blockItems _)
    · exact refuse_keeps
    · exact leaf_stays
  · split_ifs
    · exact collection_stays (take_stays.then fun _ => ih.blockEntries _)
    · exact refuse_keeps
    · exact leaf_stays
  · split_ifs
    · exact refuse_keeps
    · exact leaf_stays

theorem nodeOr_stays (ends : List Token) (block loose : Bool) :
    Stays fault (nodeOr (fuel + 1) ends block loose) := by
  unfold Compose.nodeOr
  refine seesAny_stays.then fun b => ?_
  split_ifs
  · exact add_stays
  · exact ih.node _ _

theorem blockItems_stays (done : List Nat) : Stays fault (blockItems (fuel + 1) done) := by
  unfold Compose.blockItems
  refine sees_stays.then fun b => ?_
  split_ifs
  · exact take_stays.then fun _ => (ih.nodeOr _ _ _).then fun _ => ih.blockItems _
  · exact expect_stays.then fun _ => steady_pure

theorem looseItems_stays (done : List Nat) : Stays fault (looseItems (fuel + 1) done) := by
  unfold Compose.looseItems
  refine sees_stays.then fun b => ?_
  split_ifs
  · exact take_stays.then fun _ => (ih.nodeOr _ _ _).then fun _ => ih.looseItems _
  · exact steady_pure

theorem blockEntries_stays (done : List (Nat × Nat)) :
    Stays fault (blockEntries (fuel + 1) done) := by
  unfold Compose.blockEntries
  refine sees_stays.then fun b => ?_
  split_ifs
  · exact take_stays.then fun _ => (ih.nodeOr _ _ _).then fun _ =>
      (ih.valueOr _ _).then fun _ => ih.blockEntries _
  · exact expect_stays.then fun _ => steady_pure

theorem valueOr_stays (ends : List Token) (block : Bool) :
    Stays fault (valueOr (fuel + 1) ends block) := by
  unfold Compose.valueOr
  refine sees_stays.then fun b => ?_
  split_ifs
  · exact take_stays.then fun _ => ih.nodeOr _ _ _
  · exact add_stays

theorem flowItems_stays (first : Bool) (done : List Nat) :
    Stays fault (flowItems (fuel + 1) first done) := by
  unfold Compose.flowItems
  refine sees_stays.then fun b => ?_
  split
  · exact take_stays.then fun _ => steady_pure
  extract_lets behind
  have hbehind (u : Unit) : Stays fault (behind u) := by
    refine sees_stays.then fun b => ?_
    split
    · have hentry : Stays fault (do
          let key ← nodeOr fuel [.value, .comma, .bracketClose] false false
          return (key, ← valueOr fuel [.comma, .bracketClose] false)) :=
        (ih.nodeOr _ _ _).then fun _ => (ih.valueOr _ _).then fun _ => steady_pure
      exact take_stays.then fun _ => (inside_stays hentry).then fun _ =>
        add_stays.then fun _ => ih.flowItems _ _
    · refine sees_stays.then fun b => ?_
      split
      · exact take_stays.then fun _ => steady_pure
      · exact (ih.node _ _).then fun _ => ih.flowItems _ _
  split
  · exact expect_stays.then hbehind
  · exact hbehind ()

theorem flowEntries_stays (first : Bool) (done : List (Nat × Nat)) :
    Stays fault (flowEntries (fuel + 1) first done) := by
  unfold Compose.flowEntries
  refine sees_stays.then fun b => ?_
  split
  · exact take_stays.then fun _ => steady_pure
  extract_lets behind
  have hbehind (u : Unit) : Stays fault (behind u) := by
    refine sees_stays.then fun b => ?_
    split
    · exact take_stays.then fun _ => (ih.nodeOr _ _ _).then fun _ =>
        (ih.valueOr _ _).then fun _ => ih.flowEntries _ _
    · refine sees_stays.then fun b => ?_
      split
      · exact take_stays.then fun _ => steady_pure
      · exact (ih.node _ _).then fun _ => add_stays.then fun _ => ih.flowEntries _ _
  split
  · exact expect_stays.then hbehind
  · exact hbehind ()

end Fuel

theorem readers_stay (fuel : Nat) : ReadersStay fault fuel := by
  induction fuel with
  | zero =>
    constructor <;> intros <;> exact refuse_keeps
  | succ fuel ih =>
    exact ⟨node_stays ih, nodeOr_stays ih, blockItems_stays ih, looseItems_stays ih,
      blockEntries_stays ih, valueOr_stays ih, flowItems_stays ih, flowEntries_stays ih⟩

/-! ## Documents -/

theorem directives_stay (fuel : Nat) (version : Bool) (handles : List (String × String)) :
    Stays fault (directives fuel version handles) := by
  induction fuel generalizing version handles with
  | zero => exact refuse_keeps
  | succ fuel ih =>
    unfold directives
    refine peek_keeps.then fun t => ?_
    split
    · refine take_stays.then fun _ => ?_
      split_ifs
      · exact refuse_keeps
      · exact ih _ _
    · refine take_stays.then fun _ => ?_
      split_ifs
      · exact refuse_keeps
      · exact ih _ _
    · exact take_stays.then fun _ => ih _ _
    · exact steady_pure

theorem skipEnds_stays (fuel : Nat) : Stays fault (skipEnds fuel) := by
  induction fuel with
  | zero => exact refuse_keeps
  | succ fuel ih =>
    unfold skipEnds
    refine sees_stays.then fun b => ?_
    split_ifs
    · exact take_stays.then fun _ => ih
    · exact steady_pure

theorem documentStart_stays (fuel : Nat) : Stays fault (documentStart fuel) := by
  refine (directives_stay fuel false []).then fun handles => ?_
  refine (steady_modify ?_).then fun _ => expect_stays
  exact fun _ hs => hs

/-- Only in a whole text is there no document. -/
theorem firstDocument_keeps (fuel : Nat) :
    Keeps fault (fun root => root = none → fault = none) (firstDocument fuel) := by
  refine peek_keeps.bind fun t ht => ?_
  have hnode : Keeps fault (fun root => root = none → fault = none)
      (do return some (← node fuel true false)) :=
    ((readers_stay fuel).node _ _).then fun _ => .pure nofun
  split
  · exact .pure fun _ => ht rfl
  · refine (documentStart_stays fuel).then fun _ => peek_keeps.then fun t => ?_
    split_ifs
    · exact add_stays.then fun _ => .pure nofun
    · exact hnode
  · refine (documentStart_stays fuel).then fun _ => peek_keeps.then fun t => ?_
    split_ifs
    · exact add_stays.then fun _ => .pure nofun
    · exact hnode
  · refine (steady_modify ?_).then fun _ => hnode
    exact fun _ hs => hs

theorem sees_end_keeps : Keeps fault (fun b => b = true → fault = none) (sees .textEnd) :=
  peek_keeps.bind fun _ ht => .pure fun h => ht (beq_iff_eq.mp h)

/-- Only a whole text comes to its end as a document, or as none. -/
theorem onlyDocument_keeps (fuel : Nat) :
    Keeps fault (fun _ => fault = none) (onlyDocument fuel) := by
  refine (firstDocument_keeps fuel).bind fun root hroot => ?_
  split
  · exact .pure (hroot rfl)
  · refine (skipEnds_stays fuel).then fun _ => sees_end_keeps.bind fun b hb => ?_
    split_ifs with h
    · exact .pure (hb h)
    · exact (documentStart_stays fuel).then fun _ => refuse_keeps

end Compose

theorem compose_ends (text : List Char) (fault : Option Fault) :
    Ends (Stems fault) (fun _ => fault = none) (compose text fault) := by
  have hkeeps := Compose.onlyDocument_keeps (16 * text.length + 64)
    { lexer := .start text fault } (Lexer.start_sound text fault)
  exact hkeeps.bind fun _ hr => hr.1

end RuleFit.Yaml

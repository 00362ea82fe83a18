import Mathlib.Tactic.SplitIfs
import RuleFit.Yaml.Property
import RuleFit.Yaml.Text

/-!
# How reading a text ends

Readers of a text go from place to place and end with a value or a fault (`Ends`), some of them in
steps that keep an invariant of a state (`Keeps`). A place knows where the text breaks off, and no
reader changes that (`Stays`); nor does any reader find a fault of the encoding but this one
(`Stems`). Each reader has one lemma, which follows its recursion. Who skips to the end of a text
has looked for more of it (`skip_strained`), so the place there passes as checked only in a whole
text (`checked_ends`).
-/

namespace RuleFit.Yaml

/-! ## Results -/

/-- A result is a value with a property, or a fault of a kind. -/
def Ends {α : Type} (kind : Fault → Prop) (property : α → Prop) : Except Fault α → Prop
  | .ok a => property a
  | .error f => kind f

section Results

variable {α β : Type} {kind : Fault → Prop} {property : α → Prop} {property' : β → Prop}

theorem Ends.pure {a : α} (h : property a) :
    Ends kind property (Pure.pure a : Except Fault α) := h

theorem Ends.throw {f : Fault} (h : kind f) :
    Ends kind property (MonadExcept.throw f : Except Fault α) := h

theorem Ends.bind {x : Except Fault α} {next : α → Except Fault β} (hx : Ends kind property x)
    (hnext : ∀ a, property a → Ends kind property' (next a)) :
    Ends kind property' (x >>= next) := by
  cases x with
  | error f => exact hx
  | ok a => exact hnext a hx

theorem Ends.map {x : Except Fault α} {g : α → β} (hx : Ends kind property x)
    (hg : ∀ a, property a → property' (g a)) : Ends kind property' (x.map g) := by
  cases x with
  | error f => exact hx
  | ok a => exact hg a hx

theorem Ends.mono {x : Except Fault α} {property' : α → Prop} (hx : Ends kind property x)
    (h : ∀ a, property a → property' a) : Ends kind property' x := by
  cases x with
  | error f => exact hx
  | ok a => exact h a hx

theorem Ends.of_ok {x : Except Fault α} {a : α} (hx : Ends kind property x) (h : x = .ok a) :
    property a := by
  subst h
  exact hx

theorem Ends.of_error {x : Except Fault α} {f : Fault} (hx : Ends kind property x)
    (h : x = .error f) : kind f := by
  subst h
  exact hx

end Results

/-! ## Steps -/

/-- A step keeps an invariant of the state and gives a value with a property, or it ends at a fault
of a kind. -/
def Keeps {σ α : Type} (invariant : σ → Prop) (kind : Fault → Prop) (property : α → Prop)
    (m : StateT σ (Except Fault) α) : Prop :=
  ∀ s, invariant s → Ends kind (fun r => property r.1 ∧ invariant r.2) (m.run s)

/-- The same where nothing is said of the value. -/
abbrev Steady {σ α : Type} (invariant : σ → Prop) (kind : Fault → Prop)
    (m : StateT σ (Except Fault) α) : Prop :=
  Keeps invariant kind (fun _ => True) m

section Steps

variable {σ α β : Type} {invariant : σ → Prop} {kind : Fault → Prop} {property : α → Prop}
  {property' : β → Prop} {m : StateT σ (Except Fault) α}

theorem Keeps.pure {a : α} (h : property a) :
    Keeps invariant kind property (Pure.pure a : StateT σ (Except Fault) α) :=
  fun _ hs => ⟨h, hs⟩

theorem Keeps.throw {f : Fault} (h : kind f) :
    Keeps invariant kind property (MonadExcept.throw f : StateT σ (Except Fault) α) :=
  fun _ _ => h

theorem Keeps.bind {next : α → StateT σ (Except Fault) β} (hm : Keeps invariant kind property m)
    (hnext : ∀ a, property a → Keeps invariant kind property' (next a)) :
    Keeps invariant kind property' (m >>= next) := by
  intro s hs
  rw [StateT.run_bind]
  exact (hm s hs).bind fun r hr => hnext r.1 hr.1 r.2 hr.2

theorem Keeps.then {next : α → StateT σ (Except Fault) β} (hm : Keeps invariant kind property m)
    (hnext : ∀ a, Keeps invariant kind property' (next a)) :
    Keeps invariant kind property' (m >>= next) :=
  hm.bind fun a _ => hnext a

theorem steady_pure {a : α} :
    Steady invariant kind (Pure.pure a : StateT σ (Except Fault) α) :=
  .pure trivial

theorem steady_throw {f : Fault} (h : kind f) :
    Steady invariant kind (MonadExcept.throw f : StateT σ (Except Fault) α) :=
  .throw h

theorem Keeps.map {g : α → β} (hm : Keeps invariant kind property m) :
    Steady invariant kind (g <$> m) := by
  rw [map_eq_pure_bind]
  exact hm.then fun _ => steady_pure

theorem steady_get : Steady invariant kind (get : StateT σ (Except Fault) σ) :=
  fun _ hs => ⟨trivial, hs⟩

theorem steady_modify {g : σ → σ} (hg : ∀ s, invariant s → invariant (g s)) :
    Steady invariant kind (modify g : StateT σ (Except Fault) PUnit) :=
  fun s hs => ⟨trivial, hg s hs⟩

theorem steady_set {s : σ} (hs : invariant s) :
    Steady invariant kind (set s : StateT σ (Except Fault) PUnit) :=
  fun _ _ => ⟨trivial, hs⟩

theorem steady_lift {x : Except Fault α} (hx : Ends kind (fun _ => True) x) :
    Steady invariant kind (liftM x : StateT σ (Except Fault) α) := by
  intro s hs
  cases x with
  | error f => exact hx
  | ok a => exact ⟨trivial, hs⟩

theorem steady_foldlM {step : β → α → StateT σ (Except Fault) β}
    (h : ∀ b a, Steady invariant kind (step b a)) (xs : List α) (start : β) :
    Steady invariant kind (xs.foldlM step start) := by
  induction xs generalizing start with
  | nil => exact steady_pure
  | cons a xs ih =>
    rw [List.foldlM_cons]
    exact (h start a).then fun b => ih b

theorem steady_mapM {step : α → StateT σ (Except Fault) β}
    (h : ∀ a, Steady invariant kind (step a)) (xs : List α) :
    Steady invariant kind (xs.mapM step) := by
  induction xs with
  | nil => exact steady_pure
  | cons a xs ih =>
    rw [List.mapM_cons]
    exact (h a).then fun _ => ih.then fun _ => steady_pure

theorem steady_forM {step : α → StateT σ (Except Fault) PUnit}
    (h : ∀ a, Steady invariant kind (step a)) (xs : List α) :
    Steady invariant kind (xs.forM step) := by
  induction xs with
  | nil => exact steady_pure
  | cons a xs ih => exact (h a).then fun _ => ih

end Steps

/-! ## Faults -/

/-- A fault found in reading a text: one of the encoding only where the text breaks off at it. -/
def Stems (fault : Option Fault) (f : Fault) : Prop := ∀ g, f = .encoding g → fault = some f

theorem stems_flaw {fault : Option Fault} {flaw : Flaw} : Stems fault (.flaw flaw) := nofun

theorem stems_scalar {fault : Option Fault} {f : ScalarFault} : Stems fault (.scalar f) := nofun

theorem stems_of_eq {fault : Option Fault} {f : Fault} (h : fault = some f) : Stems fault f :=
  fun _ _ => h

/-! ## Places -/

namespace Cursor

variable {cur : Cursor} {p : Char → Bool}

@[simp] theorem next_fault (cur : Cursor) : cur.next.fault = cur.fault := by
  unfold next
  split
  · rfl
  · dsimp only
    split_ifs <;> rfl

@[simp] theorem ask_fault (cur : Cursor) (count : Nat) : (cur.ask count).fault = cur.fault := by
  unfold ask
  split_ifs
  · rfl
  · rfl

@[simp] theorem forward_fault (cur : Cursor) (n : Nat) : (cur.forward n).fault = cur.fault := by
  induction n generalizing cur with
  | zero => rfl
  | succ n ih => rw [forward, ih, next_fault]

@[simp] theorem span_fault (cur : Cursor) (p : Char → Bool) : (cur.span p).2.fault = cur.fault :=
  forward_fault _ _

@[simp] theorem skipWhile_fault (cur : Cursor) (p : Char → Bool) :
    (cur.skipWhile p).fault = cur.fault :=
  span_fault _ _

@[simp] theorem askMark_fault (cur : Cursor) : cur.askMark.fault = cur.fault := ask_fault _ _

theorem skipFrom_fault (comment broke : Bool) (cur : Cursor) (rest : List Char) :
    (skipFrom comment broke cur rest).1.fault = cur.fault := by
  induction rest generalizing comment broke cur with
  | nil => rfl
  | cons c cs ih =>
    unfold skipFrom
    dsimp only
    split_ifs
    · rw [ih, next_fault]
    · rw [ih, next_fault]
    · rw [ih, next_fault]
    · rfl

@[simp] theorem skip_fault (cur : Cursor) : cur.skip.1.fault = cur.fault := skipFrom_fault _ _ _ _

/-- Who skips to the end of a text has looked for more of it. -/
theorem skipFrom_strained {comment broke : Bool} {cur : Cursor} {rest : List Char}
    (h : (skipFrom comment broke cur rest).1.rest = []) :
    (skipFrom comment broke cur rest).1.strained = true := by
  induction rest generalizing comment broke cur with
  | nil => rfl
  | cons c cs ih =>
    unfold skipFrom at h ⊢
    dsimp only at h ⊢
    split_ifs at h ⊢
    · exact ih h
    · exact ih h
    · exact ih h

theorem skip_strained (h : cur.skip.1.rest = []) : cur.skip.1.strained = true :=
  skipFrom_strained h

/-- A place that was checked is as it was, and nobody looked too far from it, unless the text is
whole. -/
theorem checked_ends {fault : Option Fault} (h : cur.fault = fault) : Ends (Stems fault)
    (fun next => next = cur ∧ (cur.strained = true → fault = none)) cur.checked := by
  unfold checked
  cases fault with
  | none =>
    rw [h]
    exact ⟨rfl, fun _ => rfl⟩
  | some f =>
    rw [h]
    cases hstrained : cur.strained with
    | false => exact ⟨rfl, nofun⟩
    | true => exact stems_of_eq rfl

theorem refuse_ends {α : Type} {fault : Option Fault} {flaw : Flaw} {property : α → Prop}
    (h : cur.fault = fault) : Ends (Stems fault) property (cur.refuse flaw) :=
  (checked_ends h).bind fun _ _ => stems_flaw

end Cursor

/-! ## Readers -/

/-- A reader stays in the text that it started in, or ends at a fault in it. -/
abbrev Stays {α : Type} (fault : Option Fault) (x : Except Fault (α × Cursor)) : Prop :=
  Ends (Stems fault) (fun r => r.2.fault = fault) x

theorem Stays.bind {α β : Type} {fault : Option Fault} {x : Except Fault (α × Cursor)}
    {next : α × Cursor → Except Fault β} {property : β → Prop} (hx : Stays fault x)
    (hnext : ∀ r, r.2.fault = fault → Ends (Stems fault) property (next r)) :
    Ends (Stems fault) property (x >>= next) :=
  Ends.bind hx hnext

open Cursor (next_fault checked_ends refuse_ends)

variable {fault : Option Fault} {cur : Cursor}

theorem Cursor.endLine_ends {flaw : Flaw} (h : cur.fault = fault) :
    Ends (Stems fault) (fun next => next.fault = fault) (cur.endLine flaw) := by
  unfold endLine
  dsimp only
  generalize hcur : (if ((cur.skipWhile fun x => x == ' ').rest.head? == some '#') = true then
    (cur.skipWhile fun x => x == ' ').skipWhile fun c => !isBreak c
    else cur.skipWhile fun x => x == ' ') = next
  have hnext : next.fault = fault := by
    rw [← hcur, apply_ite Cursor.fault]
    simp [h]
  split
  · exact hnext
  · split_ifs
    · exact (next_fault next).trans hnext
    · exact refuse_ends hnext

/-! ## Anchors, tags and directives -/

theorem anchorName_stays (h : cur.fault = fault) : Stays fault (anchorName cur) := by
  have hnext : (cur.next.span isNameChar).2.fault = fault := by simp [h]
  unfold anchorName
  dsimp only
  split_ifs
  · exact refuse_ends hnext
  · exact hnext
  · exact refuse_ends hnext

theorem percentBytes_stays {fuel : Nat} {done : List UInt8} (h : cur.fault = fault) :
    Stays fault (percentBytes fuel done cur) := by
  fun_induction percentBytes fuel done cur with
  | case1 done cur fuel tail _ ds _ ih => exact ih (by simp [h])
  | case2 done cur fuel tail _ ds _ => exact refuse_ends (by simp [h])
  | case3 => exact h

theorem tagTextFrom_stays {fuel : Nat} {done : List Char} (h : cur.fault = fault) :
    Stays fault (tagTextFrom fuel done cur) := by
  induction fuel generalizing done cur with
  | zero => exact h
  | succ fuel ih =>
    have hnext : (cur.span isTagChar).2.fault = fault := by simp [h]
    unfold tagTextFrom
    dsimp only
    split
    · split
      · rename_i hbytes
        exact (percentBytes_stays hnext).of_error hbytes
      · rename_i hbytes
        have hbehind := (percentBytes_stays hnext).of_ok hbytes
        split
        · exact refuse_ends hbehind
        · exact ih hbehind
    · exact hnext

theorem tagText_stays (h : cur.fault = fault) : Stays fault (tagText cur) := by
  refine (tagTextFrom_stays h).bind fun r hr => ?_
  dsimp only
  split_ifs
  · exact refuse_ends hr
  · exact hr

theorem tagHandle_stays (h : cur.fault = fault) : Stays fault (tagHandle cur) := by
  unfold tagHandle
  split
  · exact (next_fault cur).trans h
  · dsimp only
    split
    · simp [Ends, h]
    · exact refuse_ends (by simp [h])
  · exact refuse_ends h

theorem tagParts_stays (h : cur.fault = fault) : Stays fault (tagParts cur) := by
  have hend {α : Type} (r : α × Cursor) (hr : r.2.fault = fault) :
      Stays fault (if endsWord r.2.rest then pure r else r.2.refuse .badTag) := by
    split_ifs
    · exact hr
    · exact refuse_ends hr
  unfold tagParts
  dsimp only
  generalize hcur : cur.ask _ = start
  have hstart : start.fault = fault := by
    rw [← hcur]
    simp [h]
  have hnext : start.next.fault = fault := (next_fault start).trans hstart
  split
  · refine (tagText_stays (by simp [hstart])).bind fun r hr => ?_
    split_ifs
    · exact hend _ ((next_fault r.2).trans hr)
    · exact Stays.bind (refuse_ends hr) hend
  · split_ifs
    · exact hend _ hnext
    · refine (tagHandle_stays hstart).bind fun r hr => (tagText_stays hr).bind fun r' hr' => ?_
      exact hend _ hr'
    · exact (tagText_stays hnext).bind fun r' hr' => hend _ hr'

theorem versionNumber_stays (h : cur.fault = fault) : Stays fault (versionNumber cur) := by
  have hnext : (cur.span Char.isDigit).2.fault = fault := by simp [h]
  unfold versionNumber
  dsimp only
  split_ifs
  · exact refuse_ends hnext
  · refine (checked_ends hnext).bind fun next hchecked => ?_
    cases hread : Text.readWhole 10 (.ofChars (cur.span Char.isDigit).1) with
    | error f => exact stems_scalar
    | ok n =>
      show next.fault = fault
      rw [hchecked.1, hnext]

theorem versionDirective_stays (h : cur.fault = fault) : Stays fault (versionDirective cur) := by
  refine (versionNumber_stays (by simp [h])).bind fun r hr => ?_
  dsimp only
  split_ifs
  · exact refuse_ends hr
  · refine (versionNumber_stays (by simp [hr])).bind fun r' hr' => ?_
    split_ifs
    · exact hr'
    · exact refuse_ends hr'

theorem handleDirective_stays (h : cur.fault = fault) : Stays fault (handleDirective cur) := by
  refine (tagHandle_stays (by simp [h])).bind fun r hr => ?_
  dsimp only
  split_ifs
  · exact refuse_ends hr
  · refine (tagText_stays (by simp [hr])).bind fun r' hr' => ?_
    split_ifs
    · exact hr'
    · exact refuse_ends hr'

theorem directive_stays (h : cur.fault = fault) : Stays fault (directive cur) := by
  have hnext : (cur.next.span isNameChar).2.fault = fault := by simp [h]
  unfold directive
  dsimp only
  split_ifs
  · exact refuse_ends hnext
  · exact refuse_ends hnext
  · have hend (r : Directive × Cursor) (hr : r.2.fault = fault) : Stays fault (do
        return (r.1, ← r.2.endLine .badDirective)) :=
      (Cursor.endLine_ends hr).bind fun _ h => h
    split
    · exact (versionDirective_stays hnext).bind hend
    · exact (handleDirective_stays hnext).bind hend
    · exact hend (.other, _) (by simp [h])

/-! ## Scalars -/

@[simp] theorem skipLines_fault (tabs : Bool) (fuel : Nat) (breaks : List Char) (cur : Cursor) :
    (skipLines tabs fuel breaks cur).2.fault = cur.fault := by
  induction fuel generalizing breaks cur with
  | zero => rfl
  | succ fuel ih =>
    unfold skipLines
    dsimp only
    split_ifs
    · exact Cursor.askMark_fault cur
    · split
      · simp
      · split_ifs
        · rw [ih]
          simp
        · simp

theorem skipQuotedLines_stays {fuel : Nat} (h : cur.fault = fault) :
    Stays fault (skipQuotedLines fuel cur) := by
  have hnext : (skipLines true fuel [] cur).2.fault = fault := by simp [h]
  unfold skipQuotedLines
  dsimp only
  split_ifs
  · exact refuse_ends hnext
  · refine (checked_ends hnext).bind fun next hchecked => ?_
    show next.fault = fault
    rw [hchecked.1, hnext]

theorem codeEscape_stays {digits : Nat} (h : cur.fault = fault) :
    Stays fault (codeEscape digits cur) := by
  unfold codeEscape
  dsimp only
  split_ifs
  · unfold pointOf
    split_ifs
    · exact (Cursor.forward_fault cur digits).trans h
    · exact stems_scalar
    · exact stems_scalar
  · exact refuse_ends (by simp [h])

theorem escape_stays {fuel : Nat} (h : cur.fault = fault) : Stays fault (escape fuel cur) := by
  have hnext : cur.next.fault = fault := (next_fault cur).trans h
  unfold escape
  split
  · exact refuse_ends h
  · split_ifs
    · exact (skipQuotedLines_stays hnext).bind fun r hr => hr
    · split
      · exact hnext
      · exact codeEscape_stays hnext
      · exact refuse_ends h

theorem quotedSpaces_stays {fuel : Nat} (h : cur.fault = fault) :
    Stays fault (quotedSpaces fuel cur) := by
  have hnext : (cur.span fun c => c == ' ' || c == '\t').2.fault = fault := by simp [h]
  unfold quotedSpaces
  dsimp only
  split
  · exact refuse_ends hnext
  · split_ifs
    · exact (skipQuotedLines_stays (by simp [h])).bind fun r hr => hr
    · exact hnext

theorem quotedFrom_stays {quote : Char} {fuel : Nat} {done : List CodePoint}
    (h : cur.fault = fault) : Stays fault (quotedFrom quote fuel done cur) := by
  induction fuel generalizing done cur with
  | zero => exact stems_flaw
  | succ fuel ih =>
    have hnext : cur.next.fault = fault := (next_fault cur).trans h
    unfold quotedFrom
    split
    · exact refuse_ends h
    · split_ifs
      · exact ih (by simp [h])
      · exact hnext
      · split
        · rename_i hescape
          exact (escape_stays hnext).of_error hescape
        · rename_i hescape
          exact ih ((escape_stays hnext).of_ok hescape)
      · split
        · rename_i hspaces
          exact (quotedSpaces_stays h).of_error hspaces
        · rename_i hspaces
          exact ih ((quotedSpaces_stays h).of_ok hspaces)
      · exact ih hnext

theorem quotedScalar_stays {quote : Char} {fuel : Nat} (h : cur.fault = fault) :
    Stays fault (quotedScalar quote fuel cur) :=
  quotedFrom_stays ((next_fault cur).trans h)

@[simp] theorem behindRun_fault (cur : Cursor) (length : Nat) :
    (behindRun cur length).fault = cur.fault := by
  simp [behindRun]

@[simp] theorem plainSpaces_fault (fuel : Nat) (cur : Cursor) :
    (plainSpaces fuel cur).cursor.fault = cur.fault := by
  unfold plainSpaces
  dsimp only
  split
  · split_ifs <;> simp
  · simp

theorem plainFrom_fault (flow : Bool) (indent : Int) (fuel : Nat) (cur : Cursor) (broke : Bool) :
    (plainFrom flow indent fuel cur broke).cursor.fault = cur.fault := by
  induction fuel generalizing cur broke with
  | zero => rfl
  | succ fuel ih =>
    unfold plainFrom
    dsimp only
    split
    · rfl
    split
    · simp
    split
    · simp
    · exact (ih _ _).trans (by simp)

@[simp] theorem plainScalar_fault (flow : Bool) (indent : Int) (fuel : Nat) (cur : Cursor) :
    (plainScalar flow indent fuel cur).cursor.fault = cur.fault :=
  plainFrom_fault _ _ _ _ _

theorem chomping?_fault {cur next : Cursor} {chomping : Chomping}
    (h : chomping? cur = some (chomping, next)) : next.fault = cur.fault := by
  unfold chomping? at h
  split at h
  · obtain ⟨-, rfl⟩ := Prod.mk.inj (Option.some.inj h)
    exact next_fault cur
  · obtain ⟨-, rfl⟩ := Prod.mk.inj (Option.some.inj h)
    exact next_fault cur
  · cases h

theorem indentDigit?_ends (h : cur.fault = fault) :
    Ends (Stems fault) (fun found => ∀ r, found = some r → r.2.fault = fault)
      (indentDigit? cur) := by
  unfold indentDigit?
  split
  · split_ifs
    · exact refuse_ends h
    · rintro r ⟨⟩
      exact (next_fault cur).trans h
    · exact nofun
  · exact nofun

theorem blockSigns_ends (h : cur.fault = fault) :
    Ends (Stems fault) (fun r => r.2.2.fault = fault) (blockSigns cur) := by
  unfold blockSigns
  split
  · rename_i hchomping
    have hnext := (chomping?_fault hchomping).trans h
    refine (indentDigit?_ends hnext).bind fun found hfound => ?_
    split
    · exact hfound _ rfl
    · exact hnext
  · refine (indentDigit?_ends h).bind fun found hfound => ?_
    split
    · have hnext := hfound _ rfl
      split
      · rename_i hchomping
        exact (chomping?_fault hchomping).trans hnext
      · exact hnext
    · exact h

@[simp] theorem blockIndent_fault (fuel : Nat) (breaks : List Char) (widest : Nat) (cur : Cursor) :
    (blockIndent fuel breaks widest cur).2.2.fault = cur.fault := by
  induction fuel generalizing breaks widest cur with
  | zero => rfl
  | succ fuel ih =>
    unfold blockIndent
    dsimp only
    split
    · simp
    · split_ifs
      · simp [ih]
      · simp

@[simp] theorem skipToColumn_fault (column : Nat) (cur : Cursor) :
    (skipToColumn column cur).fault = cur.fault :=
  Cursor.forward_fault _ _

@[simp] theorem blockBreaks_fault (column fuel : Nat) (breaks : List Char) (cur : Cursor) :
    (blockBreaks column fuel breaks cur).2.fault = cur.fault := by
  induction fuel generalizing breaks cur with
  | zero => rfl
  | succ fuel ih =>
    unfold blockBreaks
    dsimp only
    split
    · simp
    · split_ifs
      · simp [ih]
      · simp

@[simp] theorem lineBreak_fault (cur : Cursor) : (lineBreak cur).2.fault = cur.fault := by
  unfold lineBreak
  split
  · split_ifs <;> simp
  · rfl

@[simp] theorem blockLines_fault (fold : Bool) (column fuel : Nat) (breaks : List Char)
    (cur : Cursor) : (blockLines fold column fuel breaks cur).cursor.fault = cur.fault := by
  induction fuel generalizing breaks cur with
  | zero => rfl
  | succ fuel ih =>
    unfold blockLines
    split
    · rfl
    dsimp only
    split
    · rfl
    split
    · simp
    split
    · simp
    · exact (ih _ _).trans (by simp)

theorem blockScalar_stays {fold : Bool} {indent : Int} {fuel : Nat} (h : cur.fault = fault) :
    Stays fault (blockScalar fold indent fuel cur) := by
  refine (blockSigns_ends ((next_fault cur).trans h)).bind fun signs hsigns => ?_
  obtain ⟨chomping, digit, next⟩ := signs
  have hrefuse : Ends (Stems fault) (fun _ : PUnit => True) (next.refuse .unexpected) :=
    refuse_ends hsigns
  have hline : Ends (Stems fault) (fun behind => behind.fault = fault)
      (next.endLine .unexpected) := Cursor.endLine_ends hsigns
  dsimp only
  split
  · refine hrefuse.bind fun _ _ => hline.bind fun behind hbehind => ?_
    cases digit <;> simp [Ends, hbehind, pure, Except.pure]
  · refine hline.bind fun behind hbehind => ?_
    cases digit <;> simp [Ends, hbehind, pure, Except.pure]

end RuleFit.Yaml

import RuleFit.Proofs.Endings
import RuleFit.Yaml.Token

/-!
# Tokens of a text that breaks off

A lexer is sound when it is in a text that breaks off where it should, and has neither come to the
end nor put the token for the end into its queue, unless the text is whole (`Sound`). Every step
keeps this. The end is read only where nothing is left, and to see that a reader has to look for
more than there is (`advance_steps`). So the token for the end is never seen in a text that breaks
off (`peek_ends`).
-/

namespace RuleFit.Yaml

open Cursor (next_fault checked_ends refuse_ends)

namespace Lexer

/-- A lexer is in a text that breaks off at a fault, or is whole. Only in a whole text does it come
to the end. -/
structure Sound (fault : Option Fault) (l : Lexer) : Prop where
  fault_eq : l.cursor.fault = fault
  finished : l.finished = true → fault = none
  ended : .textEnd ∈ l.tokens → fault = none

/-- A step of a lexer stays in the text, or ends at a fault in it. -/
abbrev Steps (fault : Option Fault) (x : Except Fault Lexer) : Prop :=
  Ends (Stems fault) (Sound fault) x

variable {fault : Option Fault} {l : Lexer}

theorem Sound.refuse {α : Type} {flaw : Flaw} {property : α → Prop} (h : l.Sound fault) :
    Ends (Stems fault) property (l.cursor.refuse flaw) :=
  refuse_ends h.fault_eq

theorem Sound.emit {t : Token} {next : Cursor} (h : l.Sound fault) (ht : t ≠ .textEnd)
    (hnext : next.fault = fault) : (l.emit t next).Sound fault := by
  refine ⟨hnext, h.finished, fun hmem => ?_⟩
  rcases List.mem_append.mp hmem with hmem | hmem
  · exact h.ended hmem
  · exact absurd (List.mem_singleton.mp hmem).symm ht

theorem Sound.emit_next {t : Token} (h : l.Sound fault) (ht : t ≠ .textEnd) :
    (l.emit t l.cursor.next).Sound fault :=
  h.emit ht ((next_fault _).trans h.fault_eq)

/-- What else a lexer remembers has no say. -/
theorem Sound.same {l' : Lexer} (h : l.Sound fault) (hcursor : l'.cursor = l.cursor)
    (hfinished : l'.finished = l.finished) (htokens : l'.tokens = l.tokens) : l'.Sound fault :=
  ⟨hcursor ▸ h.fault_eq, hfinished ▸ h.finished, htokens ▸ h.ended⟩

/-! ## Possible keys and indentation -/

theorem giveUp_ends {p : PossibleKey → Bool} (h : l.Sound fault) :
    Ends (Stems fault) (fun next => next.Sound fault ∧ next.tokens = l.tokens) (l.giveUp p) := by
  unfold giveUp
  split_ifs
  · exact h.refuse
  · exact ⟨h.same rfl rfl rfl, rfl⟩

theorem dropStale_steps (h : l.Sound fault) : Steps fault l.dropStale :=
  (giveUp_ends h).mono fun _ h' => h'.1

theorem dropKey_steps (h : l.Sound fault) : Steps fault l.dropKey :=
  (giveUp_ends h).mono fun _ h' => h'.1

theorem saveKey_steps (h : l.Sound fault) : Steps fault l.saveKey := by
  unfold saveKey
  split_ifs
  · exact (dropKey_steps h).bind fun _ h' => h'.same rfl rfl rfl
  · exact h

theorem mem_unwindFrom {column indent : Int} {tokens : List Token} {outer : List Int}
    (h : .textEnd ∈ (unwindFrom column tokens indent outer).1) : .textEnd ∈ tokens := by
  induction outer generalizing tokens indent with
  | nil => exact h
  | cons out outer ih =>
    unfold unwindFrom at h
    split_ifs at h
    · rcases List.mem_append.mp (ih h) with hmem | hmem
      · exact hmem
      · cases List.mem_singleton.mp hmem
    · exact h

theorem Sound.unwind (h : l.Sound fault) (column : Int) : (l.unwind column).Sound fault := by
  unfold Lexer.unwind
  split_ifs
  · exact ⟨h.fault_eq, h.finished, fun hmem => h.ended (mem_unwindFrom hmem)⟩
  · exact h

theorem Sound.insert {t : Token} (h : l.Sound fault) (number : Nat) (ht : t ≠ .textEnd) :
    (l.insert number t).Sound fault := by
  refine ⟨h.fault_eq, h.finished, fun hmem => ?_⟩
  rcases List.mem_append.mp hmem with hmem | hmem
  · exact h.ended (List.mem_of_mem_take hmem)
  · rcases List.mem_cons.mp hmem with hmem | hmem
    · exact absurd hmem.symm ht
    · exact h.ended (List.mem_of_mem_drop hmem)

theorem Sound.begin {t : Token} (h : l.Sound fault) (column number : Nat) (ht : t ≠ .textEnd) :
    (l.begin column number t).Sound fault := by
  unfold Lexer.begin
  split_ifs
  · exact (h.insert number ht).same rfl rfl rfl
  · exact h

theorem beginHere_steps {t : Token} (h : l.Sound fault) (ht : t ≠ .textEnd) :
    Steps fault (l.beginHere t) := by
  unfold beginHere
  split_ifs
  · exact h
  · exact h.begin _ _ ht
  · exact h.refuse

/-! ## Single tokens -/

theorem leave_steps (h : l.Sound fault) : Steps fault l.leave :=
  (dropKey_steps (h.unwind _)).bind fun _ h' => h'.same rfl rfl rfl

/-- The end of a text comes only where the text is whole. -/
theorem readEnd_steps (h : l.Sound fault) (hfault : fault = none) : Steps fault l.readEnd :=
  (leave_steps h).bind fun _ h' => ⟨h'.fault_eq, fun _ => hfault, fun _ => hfault⟩

theorem readMark_steps {t : Token} (h : l.Sound fault) (ht : t ≠ .textEnd) :
    Steps fault (l.readMark t) :=
  (leave_steps h).bind fun _ h' => h'.emit ht (by simp [h'.fault_eq])

theorem readDirective_steps (h : l.Sound fault) : Steps fault l.readDirective :=
  (leave_steps h).bind fun _ h' =>
    (directive_stays h'.fault_eq).bind fun _ hr => h'.emit (by nofun) hr

theorem readOpening_steps {t : Token} (h : l.Sound fault) (ht : t ≠ .textEnd) :
    Steps fault (l.readOpening t) :=
  (saveKey_steps h).bind fun _ h' => (h'.emit_next ht).same rfl rfl rfl

theorem readClosing_steps {t : Token} (h : l.Sound fault) (ht : t ≠ .textEnd) :
    Steps fault (l.readClosing t) :=
  (dropKey_steps h).bind fun _ h' => (h'.emit_next ht).same rfl rfl rfl

theorem readComma_steps (h : l.Sound fault) : Steps fault l.readComma :=
  (dropKey_steps h).bind fun _ h' => (h'.emit_next (by nofun)).same rfl rfl rfl

theorem readDash_steps (h : l.Sound fault) : Steps fault l.readDash := by
  unfold readDash
  refine (beginHere_steps h (by nofun)).bind fun _ h' => (dropKey_steps h').bind fun _ h'' => ?_
  exact (h''.emit_next (by nofun)).same rfl rfl rfl

theorem readKey_steps (h : l.Sound fault) : Steps fault l.readKey := by
  unfold readKey
  refine (beginHere_steps h (by nofun)).bind fun _ h' => (dropKey_steps h').bind fun _ h'' => ?_
  exact (h''.emit_next (by nofun)).same rfl rfl rfl

theorem readColon_steps (h : l.Sound fault) : Steps fault l.readColon := by
  unfold readColon
  split
  · rename_i k _
    have hkeys : ({ l with keys := l.keys.filter fun k => k.depth != l.depth } : Lexer).Sound
        fault := h.same rfl rfl rfl
    have hkey := hkeys.insert (t := .key) k.number nofun
    dsimp only
    split_ifs
    · exact ((hkey.begin _ _ (by nofun)).emit_next (by nofun)).same rfl rfl rfl
    · exact (hkey.emit_next (by nofun)).same rfl rfl rfl
  · refine (beginHere_steps h (by nofun)).bind fun _ h' => ?_
    exact (h'.emit_next (by nofun)).same rfl rfl rfl

theorem readKeyPart_steps {read : Cursor → Except Fault (Token × Cursor)} (h : l.Sound fault)
    (hread : ∀ cur : Cursor, cur.fault = fault →
      Ends (Stems fault) (fun r => r.1 ≠ .textEnd ∧ r.2.fault = fault) (read cur)) :
    Steps fault (l.readKeyPart read) :=
  (saveKey_steps h).bind fun _ h' => (hread _ h'.fault_eq).bind fun _ hr =>
    (h'.emit hr.1 hr.2).same rfl rfl rfl

theorem readQuoted_steps {quote : Char} (h : l.Sound fault) : Steps fault (l.readQuoted quote) :=
  readKeyPart_steps h fun _ hcur => (quotedScalar_stays hcur).map fun _ hr => ⟨by nofun, hr⟩

theorem readBlock_steps {fold : Bool} (h : l.Sound fault) : Steps fault (l.readBlock fold) :=
  (dropKey_steps h).bind fun _ h' => (blockScalar_stays h'.fault_eq).bind fun _ hr =>
    (h'.emit (by nofun) hr).same rfl rfl rfl

theorem readPlain_steps (h : l.Sound fault) : Steps fault l.readPlain := by
  refine (saveKey_steps h).bind fun l' h' => ?_
  have hplain (flow : Bool) (indent : Int) (fuel : Nat) :
      (plainScalar flow indent fuel l'.cursor).cursor.fault = fault :=
    (plainScalar_fault _ _ _ _).trans h'.fault_eq
  exact (h'.emit (by nofun) (hplain _ _ _)).same rfl rfl rfl

/-! ## The next token -/

theorem readFrom_steps {c : Char} {rest : List Char} (h : l.Sound fault) :
    Steps fault (l.readFrom c rest) := by
  unfold readFrom
  dsimp only
  split
  · exact readDirective_steps h
  split
  · exact readMark_steps h (by nofun)
  split
  · exact readMark_steps h (by nofun)
  split
  · exact readDash_steps h
  split
  · exact readKey_steps h
  split
  · exact readColon_steps h
  split
  · exact readOpening_steps h (by nofun)
  · exact readOpening_steps h (by nofun)
  · exact readClosing_steps h (by nofun)
  · exact readClosing_steps h (by nofun)
  · exact readComma_steps h
  · exact readKeyPart_steps h fun _ hcur => (anchorName_stays hcur).map fun _ hr => ⟨by nofun, hr⟩
  · exact readKeyPart_steps h fun _ hcur => (anchorName_stays hcur).map fun _ hr => ⟨by nofun, hr⟩
  · exact readKeyPart_steps h fun _ hcur => (tagParts_stays hcur).map fun _ hr => ⟨by nofun, hr⟩
  · exact readQuoted_steps h
  · exact readQuoted_steps h
  · split_ifs
    · exact readBlock_steps h
    · exact readPlain_steps h
    · exact h.refuse

@[simp] theorem askStart_fault (l : Lexer) (c : Char) : (l.askStart c).fault = l.cursor.fault := by
  unfold askStart
  dsimp only
  split_ifs <;> simp

/-- Reading on comes to the end of the text only where the text is whole: to see that nothing is
left, a reader looks for more than there is. -/
theorem advance_steps (h : l.Sound fault) : Steps fault l.advance := by
  unfold advance
  dsimp only
  have hskip : l.cursor.skip.1.fault = fault := by simp [h.fault_eq]
  refine (checked_ends hskip).bind fun cursor hchecked => ?_
  obtain ⟨rfl, hstrained⟩ := hchecked
  have hhere (keyAllowed : Bool) :
      ({ l with cursor := l.cursor.skip.1, keyAllowed } : Lexer).Sound fault :=
    ⟨hskip, h.finished, h.ended⟩
  refine (dropStale_steps (hhere _)).bind fun l' h' => ?_
  split
  · rename_i hrest
    exact readEnd_steps (h'.unwind _) (hstrained (Cursor.skip_strained hrest))
  · rename_i c rest _
    have hunwind := h'.unwind l.cursor.skip.1.column
    have hask : ((l'.unwind l.cursor.skip.1.column).askStart c).fault = fault := by
      rw [askStart_fault, hunwind.fault_eq]
    refine (checked_ends hask).bind fun next hnext => ?_
    have hready : ({ l'.unwind l.cursor.skip.1.column with cursor := next } : Lexer).Sound fault :=
      ⟨hnext.1 ▸ hask, hunwind.finished, hunwind.ended⟩
    refine (readFrom_steps hready).bind fun l'' h'' => ?_
    exact (checked_ends h''.fault_eq).bind fun behind hbehind =>
      ⟨hbehind.1 ▸ h''.fault_eq, h''.finished, h''.ended⟩

theorem settle_ends {fuel : Nat} (h : l.Sound fault) : Ends (Stems fault)
    (fun next => next.Sound fault ∧ (next.tokens = [] → fault = none)) (settle fuel l) := by
  induction fuel generalizing l with
  | zero => exact stems_flaw
  | succ fuel ih =>
    unfold settle
    split_ifs with hfinished htokens
    · exact ⟨h, fun _ => h.finished hfinished⟩
    · exact (advance_steps h).bind fun _ h' => ih h'
    · refine (giveUp_ends h).bind fun l' h' => ?_
      split_ifs
      · exact (advance_steps h'.1).bind fun _ h'' => ih h''
      · refine ⟨h'.1, fun hempty => ?_⟩
        rw [h'.2] at hempty
        exact absurd (List.isEmpty_iff.mpr hempty) htokens

theorem start_sound (text : List Char) (fault : Option Fault) : (start text fault).Sound fault :=
  ⟨rfl, nofun, nofun⟩

/-- The token for the end of a text is seen only where the text is whole. -/
theorem peek_ends (h : l.Sound fault) : Ends (Stems fault)
    (fun r => (r.1 = .textEnd → fault = none) ∧ r.2.Sound fault) l.peek := by
  refine (settle_ends h).bind fun next hnext => ⟨fun hend => ?_, hnext.1⟩
  cases htokens : next.tokens with
  | nil => exact hnext.2 htokens
  | cons t ts =>
    rw [htokens] at hend
    refine hnext.1.ended ?_
    rw [htokens, ← show t = .textEnd from hend]
    exact List.mem_cons_self

theorem Sound.take (h : l.Sound fault) : l.take.Sound fault :=
  ⟨h.fault_eq, h.finished, fun hmem => h.ended (List.mem_of_mem_tail hmem)⟩

end Lexer

end RuleFit.Yaml

import RuleFit.Command.Basic
import RuleFit.Proofs.Sources

/-!
# Catalog files

A catalog file that can be looked at and is legible gives a catalog, or the catalog is at fault
(`load_of_answerable`). The command that lists candidates exits with two exactly where the catalog
is (`expandRule_answers`). A file that is no UTF-8 is not answered for: `expandRule_of_byte_ff`.
-/

namespace RuleFit

open Text (IsUtf8)

namespace Catalog

/-- A catalog file is answerable when its path is one, and what it holds, if it holds anything, is
legible. -/
structure Answerable (fs : FileSystem) (path : Text) : Prop where
  isPath : ∀ f, readBytes fs (showPath path) ≠ .error (.notAPath f)
  legible : ∀ bytes, readBytes fs (showPath path) = .ok bytes → Yaml.Legible bytes

variable {fs : FileSystem} {path : Text} {bytes : List UInt8}

theorem load_unreadable {f : FileFault} (h : readBytes fs (showPath path) = .error f)
    (hpath : ∀ p, f ≠ .notAPath p) : load fs path = .error (.unreadable (showPath path) f) := by
  unfold load
  dsimp only
  rw [h]
  cases f with
  | notAPath p => exact absurd rfl (hpath p)
  | _ => rfl

theorem load_flaw {flaw : Yaml.Flaw} (h : readBytes fs (showPath path) = .ok bytes)
    (hflaw : Yaml.loadBytes bytes = .error (.flaw flaw)) :
    load fs path = .error (.notYaml (showPath path) flaw) := by
  simp only [load, h, hflaw]

theorem load_encoding {f : Text.Utf8Fault} (h : readBytes fs (showPath path) = .ok bytes)
    (hf : Yaml.loadBytes bytes = .error (.encoding f)) :
    load fs path = .error (.undecodable f) := by
  simp only [load, h, hf]

theorem load_valueless {f : Yaml.ScalarFault} (h : readBytes fs (showPath path) = .ok bytes)
    (hf : Yaml.loadBytes bytes = .error (.scalar f)) : load fs path = .error (.scalar f) := by
  simp only [load, h, hf]

theorem load_value {d : Datum} (h : readBytes fs (showPath path) = .ok bytes)
    (hd : Yaml.loadBytes bytes = .ok d) :
    load fs path = (Catalog.read (showPath path) d).mapError .catalog := by
  simp only [load, h, hd]

/-- An answerable file gives a catalog, or the catalog is at fault. -/
theorem load_of_answerable (h : Answerable fs path) : (∃ c, load fs path = .ok c) ∨
    ∃ f, load fs path = .error f ∧ f.isOfCatalog = true := by
  cases hread : readBytes fs (showPath path) with
  | error f =>
    have hpath (p : PathFault) : f ≠ .notAPath p := by
      rintro rfl
      exact h.isPath p hread
    exact .inr ⟨_, load_unreadable hread hpath, rfl⟩
  | ok bytes =>
    rcases (h.legible bytes hread).value_or_flaw with ⟨d, hd⟩ | ⟨flaw, hflaw⟩
    · rw [load_value hread hd]
      cases Catalog.read (showPath path) d with
      | ok c => exact .inl ⟨c, rfl⟩
      | error f => exact .inr ⟨_, rfl, rfl⟩
    · exact .inr ⟨_, load_flaw hread hflaw, rfl⟩

/-- A catalog is only ever read from UTF-8. -/
theorem isUtf8_of_load {c : Catalog} (h : load fs path = .ok c) :
    ∃ bytes, readBytes fs (showPath path) = .ok bytes ∧ IsUtf8 bytes := by
  unfold load at h
  dsimp only at h
  split at h
  · cases h
  · cases h
  · rename_i bytes hread
    split at h
    · cases h
    · cases h
    · cases h
    · rename_i d hd
      exact ⟨bytes, hread, Yaml.isUtf8_of_loadBytes hd⟩

theorem load_undecodable (h : readBytes fs (showPath path) = .ok bytes) (hnot : ¬IsUtf8 bytes)
    (hlength : bytes.length ≤ 2 * Yaml.Source.blockSize) :
    ∃ f, load fs path = .error (.undecodable f) := by
  obtain ⟨f, hf⟩ := Yaml.loadBytes_encoding hnot hlength
  exact ⟨f, load_encoding h hf⟩

end Catalog

namespace Command

variable {σ : Type} {w : World σ} {level : Level} {r : ExpandRequest}

theorem expandRule_refuses {f : CatalogFileFault} (h : Catalog.load w.files r.catalog = .error f)
    (hf : f.isOfCatalog = true) :
    expandRule w level r = { ending := .exit 2, err := errorLine f.message } := by
  unfold expandRule
  dsimp only
  split
  · rename_i hload
    rw [h] at hload
    obtain rfl := Except.error.inj hload
    cases hf
  · rename_i f' _ hload
    obtain rfl := Except.error.inj (h.symm.trans hload)
    rw [if_pos hf]
  · rename_i hload
    rw [h] at hload
    cases hload

theorem expandRule_crashes {f : Text.Utf8Fault}
    (h : Catalog.load w.files r.catalog = .error (.undecodable f)) :
    (expandRule w level r).ending = .crash (.catalog (.undecodable f)) := by
  simp only [expandRule, h, CatalogFileFault.isOfCatalog, Bool.false_eq_true, if_false]

theorem of_expandRule_exit (h : (expandRule w level r).ending = .exit 2) :
    ∃ f, Catalog.load w.files r.catalog = .error f ∧ f.isOfCatalog = true := by
  unfold expandRule at h
  dsimp only at h
  split at h
  · cases h
  · rename_i f _ hload
    split_ifs at h with hf
    · exact ⟨f, hload, hf⟩
  · split at h
    · cases h
    · split at h
      · cases h
      · cases h

/-- The command exits with two exactly where the catalog is at fault, and says so. A file is not
answered for that is no path, that is no UTF-8 or in which a scalar has no value: from bytes that
are no UTF-8 no catalog is read, and where they are few the command always breaks off at them. -/
theorem expandRule_answers (w : World σ) (level : Level) (r : ExpandRequest) :
    ((expandRule w level r).ending = .exit 2 ↔
      ∃ f, Catalog.load w.files r.catalog = .error f ∧ f.isOfCatalog = true) ∧
    (∀ f, Catalog.load w.files r.catalog = .error f → f.isOfCatalog = true →
      expandRule w level r = { ending := .exit 2, err := errorLine f.message }) ∧
    (Catalog.Answerable w.files r.catalog → (∃ c, Catalog.load w.files r.catalog = .ok c) ∨
      ∃ f, Catalog.load w.files r.catalog = .error f ∧ f.isOfCatalog = true) ∧
    ∀ bytes, readBytes w.files (showPath r.catalog) = .ok bytes →
      (∀ f, Yaml.loadBytes bytes = .error (.scalar f) →
        Catalog.load w.files r.catalog = .error (.scalar f)) ∧
      (¬IsUtf8 bytes → ∀ c, Catalog.load w.files r.catalog ≠ .ok c) ∧
      (¬IsUtf8 bytes → bytes.length ≤ 2 * Yaml.Source.blockSize →
        ∃ f, Catalog.load w.files r.catalog = .error (.undecodable f) ∧
          (expandRule w level r).ending = .crash (.catalog (.undecodable f))) := by
  refine ⟨⟨of_expandRule_exit, ?_⟩, fun f h hf => expandRule_refuses h hf,
    Catalog.load_of_answerable, fun bytes hread => ⟨fun f hf => ?_, fun hnot c hc => ?_,
      fun hnot hlength => ?_⟩⟩
  · rintro ⟨f, h, hf⟩
    rw [expandRule_refuses h hf]
  · exact Catalog.load_valueless hread hf
  · obtain ⟨bytes', hread', hutf8⟩ := Catalog.isUtf8_of_load hc
    obtain rfl := Except.ok.inj (hread.symm.trans hread')
    exact hnot hutf8
  · obtain ⟨f, hf⟩ := Catalog.load_undecodable hread hnot hlength
    exact ⟨f, hf, expandRule_crashes hf⟩

/-- A file of a single byte that starts no character is no catalog, and no fault of one either. -/
theorem expandRule_of_byte_ff :
    let w : World Unit := {
      files := FileTree.system [] [("catalog.yml", .file [0xff])], directory := "/work"
      modules := [], clock := .stopped }
    ¬((∃ c, Catalog.load w.files "catalog.yml" = .ok c) ∨
      ∃ f, Catalog.load w.files "catalog.yml" = .error f ∧ f.isOfCatalog = true) ∧
    (expandRule w .warning ⟨"semi", "catalog.yml"⟩).ending =
      .crash (.catalog (.undecodable ⟨.badStart, 0, [0xff]⟩)) := by
  intro w
  have hread : readBytes w.files (showPath "catalog.yml") = .ok [0xff] := by decide +kernel
  have hbytes : Yaml.loadBytes [0xff] = .error (.encoding ⟨.badStart, 0, [0xff]⟩) := by
    decide +kernel
  have hload := Catalog.load_encoding hread hbytes
  refine ⟨?_, expandRule_crashes hload⟩
  rintro (⟨c, hc⟩ | ⟨f, hf, hcatalog⟩)
  · rw [hload] at hc
    cases hc
  · rw [hload] at hf
    obtain rfl := Except.error.inj hf
    cases hcatalog

end Command

end RuleFit

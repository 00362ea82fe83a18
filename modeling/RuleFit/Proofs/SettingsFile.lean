import RuleFit.Proofs.Partition
import RuleFit.Proofs.SettingsForm
import RuleFit.Proofs.Sources
import RuleFit.Settings.File

/-!
# Settings files

Where a settings file has a section (`HasSection`), that decides. In any other file that can be
looked at and is legible (`Answerable`), the defaults hold with one warning (`Defaults`). What is
left are the files that are not answered for (`load_falls_back`); one of them is that of
`load_of_byte_ff`.

However they came about, settings that were loaded are valid, and they stay so when a run denies
more rules and sets another cap. So the settings are never what an inference fails at
(`infer_isOk_iff_of_load`).
-/

namespace RuleFit

open Text (IsUtf8)

namespace Settings

/-- A settings file has a section when it is a file that holds a document, the document is a mapping
and the section in it is one too. -/
structure HasSection (fs : FileSystem) (path : Text) (s : Datum) : Prop where
  inDocument : ∃ bytes d, look fs (showPath path) = .ok (.file bytes) ∧
    Yaml.loadBytes bytes = .ok d ∧ d.isMap = true ∧ d.get? "autoconfig" = some s
  isMap : s.isMap = true

/-- A settings file is answerable when its path can be looked at, and what it holds, if it is there,
is legible. -/
structure Answerable (fs : FileSystem) (path : Text) : Prop where
  reachable : look fs (showPath path) ≠ .error .nameTooLong
  legible : ∀ bytes, look fs (showPath path) = .ok (.file bytes) → Yaml.Legible bytes

/-- The defaults hold, and one warning says why. -/
def Defaults (result : Except SettingsFileFault (Settings × Option Event)) : Prop :=
  ∃ e, result = .ok ({}, some e) ∧ e.level = .warning

/-! ## Documents -/

variable {name : Text} {d s : Datum}

theorem ofDocument_section (hd : d.isMap = true) (hget : d.get? "autoconfig" = some s)
    (hmap : s.isMap = true) :
    ofDocument name d = ((Settings.read s).mapError .settings).map (·, none) := by
  simp only [ofDocument, hd, hget, hmap, Bool.not_true, Bool.false_eq_true, if_false, if_true]

theorem ofDocument_defaults (h : ∀ s, d.isMap = true → d.get? "autoconfig" = some s →
    s.isMap = false) : Defaults (ofDocument name d) := by
  unfold ofDocument
  split_ifs with hd
  · exact ⟨_, rfl, rfl⟩
  · have hd' : d.isMap = true := by simpa using hd
    split
    · rename_i s hget
      rw [if_neg (by simp [h s hd' hget])]
      exact ⟨_, rfl, rfl⟩
    · exact ⟨_, rfl, rfl⟩

/-! ## Files -/

variable {fs : FileSystem} {path : Text} {bytes : List UInt8}

theorem ofBytes_value (h : Yaml.loadBytes bytes = .ok d) :
    ofBytes name bytes = ofDocument name d := by
  unfold ofBytes
  rw [h]

theorem ofBytes_flaw {flaw : Yaml.Flaw} (h : Yaml.loadBytes bytes = .error (.flaw flaw)) :
    Defaults (ofBytes name bytes) := by
  refine ⟨.settingsUnreadable name, ?_, rfl⟩
  unfold ofBytes
  rw [h]

theorem ofBytes_encoding {f : Text.Utf8Fault} (h : Yaml.loadBytes bytes = .error (.encoding f)) :
    ofBytes name bytes = .error (.undecodable f) := by
  unfold ofBytes
  rw [h]

theorem ofBytes_scalar {f : Yaml.ScalarFault} (h : Yaml.loadBytes bytes = .error (.scalar f)) :
    ofBytes name bytes = .error (.scalar f) := by
  unfold ofBytes
  rw [h]

theorem load_of_file (h : look fs (showPath path) = .ok (.file bytes)) :
    load fs (some path) = ofBytes (showPath path) bytes := by
  simp only [load, loadAs, isFile, readBytes, h]

theorem load_of_no_file (hreach : look fs (showPath path) ≠ .error .nameTooLong)
    (h : ∀ bytes, look fs (showPath path) ≠ .ok (.file bytes)) :
    Defaults (load fs (some path)) := by
  have hnone : isFile fs (showPath path) = .ok false := by
    unfold isFile
    split
    · rename_i bytes hlook
      exact absurd hlook (h bytes)
    · rename_i hlook
      exact absurd hlook hreach
    · rfl
  refine ⟨.settingsMissing (showPath path), ?_, rfl⟩
  simp only [load, loadAs, hnone]

theorem load_unreachable (h : look fs (showPath path) = .error .nameTooLong) :
    load fs (some path) = .error (.unreachable (showPath path) .nameTooLong) := by
  simp only [load, loadAs, isFile, h]

theorem load_section (h : HasSection fs path s) :
    load fs (some path) = ((Settings.read s).mapError .settings).map (·, none) := by
  obtain ⟨⟨bytes, d, hlook, hbytes, hd, hget⟩, hmap⟩ := h
  rw [load_of_file hlook, ofBytes_value hbytes]
  exact ofDocument_section hd hget hmap

theorem load_defaults (h : Answerable fs path) (hnone : ∀ s, ¬HasSection fs path s) :
    Defaults (load fs (some path)) := by
  by_cases hfile : ∃ bytes, look fs (showPath path) = .ok (.file bytes)
  · obtain ⟨bytes, hlook⟩ := hfile
    rw [load_of_file hlook]
    rcases (h.legible bytes hlook).value_or_flaw with ⟨d, hd⟩ | ⟨flaw, hflaw⟩
    · rw [ofBytes_value hd]
      refine ofDocument_defaults fun s hmap hget => ?_
      by_contra hs
      exact hnone s ⟨⟨bytes, d, hlook, hd, hmap, hget⟩, by simpa using hs⟩
    · exact ofBytes_flaw hflaw
  · exact load_of_no_file h.reachable fun bytes hlook => hfile ⟨bytes, hlook⟩

theorem load_undecodable (h : look fs (showPath path) = .ok (.file bytes)) (hnot : ¬IsUtf8 bytes)
    (hlength : bytes.length ≤ 2 * Yaml.Source.blockSize) :
    ∃ f, load fs (some path) = .error (.undecodable f) := by
  obtain ⟨f, hf⟩ := Yaml.loadBytes_encoding hnot hlength
  exact ⟨f, (load_of_file h).trans (ofBytes_encoding hf)⟩

theorem load_valueless {f : Yaml.ScalarFault} (h : look fs (showPath path) = .ok (.file bytes))
    (hf : Yaml.loadBytes bytes = .error (.scalar f)) :
    load fs (some path) = .error (.scalar f) :=
  (load_of_file h).trans (ofBytes_scalar hf)

/-- From bytes that are no UTF-8 no section is read. -/
theorem load_of_not_utf8 (h : look fs (showPath path) = .ok (.file bytes)) (hnot : ¬IsUtf8 bytes) :
    Defaults (load fs (some path)) ∨ (∃ f, load fs (some path) = .error (.undecodable f)) ∨
      ∃ f, load fs (some path) = .error (.scalar f) := by
  rw [load_of_file h]
  cases hbytes : Yaml.loadBytes bytes with
  | ok d => exact absurd (Yaml.isUtf8_of_loadBytes hbytes) hnot
  | error f =>
    cases f with
    | flaw flaw => exact .inl (ofBytes_flaw hbytes)
    | encoding f => exact .inr (.inl ⟨f, ofBytes_encoding hbytes⟩)
    | scalar f => exact .inr (.inr ⟨f, ofBytes_scalar hbytes⟩)

/-! ## Valid settings -/

theorem isValid_default : IsValid {} where
  cap := ⟨16, by decide, rfl⟩
  base := rfl

/-- A run can deny more rules, and set a cap from one on. -/
theorem IsValid.override {s : Settings} (h : s.IsValid) (deny : List Text) {cap : Option Int}
    (hcap : ∀ n ∈ cap, 1 ≤ n) : (s.override deny (cap.map .whole)).IsValid where
  cap := by
    cases cap with
    | none => exact h.cap
    | some n => exact ⟨n, hcap n rfl, rfl⟩
  base := h.base

section Load

variable {s : Settings} {e : Option Event}

theorem isValid_of_ofDocument (h : ofDocument name d = .ok (s, e)) : s.IsValid := by
  unfold ofDocument at h
  split_ifs at h
  · cases h
    exact isValid_default
  · split at h
    · split_ifs at h with hmap
      · simp only [map_eq_ok, mapError_eq_ok] at h
        obtain ⟨s', hread, heq⟩ := h
        cases heq
        exact ((read_eq_ok_iff hmap).1 hread).isValid
      · cases h
        exact isValid_default
    · cases h
      exact isValid_default

theorem isValid_of_ofBytes (h : ofBytes name bytes = .ok (s, e)) : s.IsValid := by
  unfold ofBytes at h
  split at h
  · cases h
    exact isValid_default
  · cases h
  · cases h
  · exact isValid_of_ofDocument h

theorem isValid_of_loadAs (h : loadAs name fs path = .ok (s, e)) : s.IsValid := by
  unfold loadAs at h
  split at h
  · cases h
  · cases h
    exact isValid_default
  · cases h
    exact isValid_default
  · exact isValid_of_ofBytes h

/-- Settings that were loaded are valid. -/
theorem isValid_of_load {path : Option Text} (h : load fs path = .ok (s, e)) : s.IsValid := by
  cases path with
  | none =>
    cases h
    exact isValid_default
  | some path => exact isValid_of_loadAs h

end Load

/-! ## What is loaded -/

/-- Without a path the defaults hold, with nothing said. Of a settings file with a section the
section decides, by its settings or its fault. Of any other file the defaults hold, with one
warning, unless it is not answered for. So it is with a name that is too long to look at, and with a
scalar without a value. From bytes that are no UTF-8 no section is read, but the defaults do not
always hold instead: where the bytes are few they never do. -/
theorem load_falls_back (fs : FileSystem) (path : Text) :
    load fs none = .ok ({}, none) ∧
    (∀ s, HasSection fs path s →
      load fs (some path) = ((Settings.read s).mapError .settings).map (·, none)) ∧
    (Answerable fs path → (∀ s, ¬HasSection fs path s) → Defaults (load fs (some path))) ∧
    (look fs (showPath path) = .error .nameTooLong →
      load fs (some path) = .error (.unreachable (showPath path) .nameTooLong)) ∧
    ∀ bytes, look fs (showPath path) = .ok (.file bytes) →
      (∀ f, Yaml.loadBytes bytes = .error (.scalar f) →
        load fs (some path) = .error (.scalar f)) ∧
      (¬IsUtf8 bytes → Defaults (load fs (some path)) ∨
        (∃ f, load fs (some path) = .error (.undecodable f)) ∨
        ∃ f, load fs (some path) = .error (.scalar f)) ∧
      (¬IsUtf8 bytes → bytes.length ≤ 2 * Yaml.Source.blockSize →
        ∃ f, load fs (some path) = .error (.undecodable f)) :=
  ⟨rfl, fun _ h => load_section h, load_defaults, load_unreachable, fun _ h =>
    ⟨fun _ hf => load_valueless h hf, load_of_not_utf8 h, load_undecodable h⟩⟩

/-- For a file of a single byte that starts no character, which has no section, the defaults do not
hold. -/
theorem load_of_byte_ff :
    let fs := FileTree.system [] [("lintseed.yml", .file [0xff])]
    (∀ s, ¬HasSection fs "lintseed.yml" s) ∧ ¬Defaults (load fs (some "lintseed.yml")) ∧
      load fs (some "lintseed.yml") = .error (.undecodable ⟨.badStart, 0, [0xff]⟩) := by
  intro fs
  have hlook : look fs (showPath "lintseed.yml") = .ok (.file [0xff]) := by decide +kernel
  have hbytes : Yaml.loadBytes [0xff] = .error (.encoding ⟨.badStart, 0, [0xff]⟩) := by
    decide +kernel
  have hload := (load_of_file hlook).trans (ofBytes_encoding hbytes)
  refine ⟨?_, ?_, hload⟩
  · rintro s ⟨⟨bytes, d, hfile, hd, -⟩, -⟩
    obtain rfl := Node.file.inj (Except.ok.inj (hlook.symm.trans hfile))
    rw [hbytes] at hd
    cases hd
  · rintro ⟨e, he, -⟩
    rw [hload] at he
    cases he

end Settings

/-- **With settings that were loaded, and overridden for a run, an inference ends with a finding
exactly when no reply ends its trial.** -/
theorem infer_isOk_iff_of_load {fs : FileSystem} {path : Option Text} {loaded : Settings}
    {warning : Option Event} (h : Settings.load fs path = .ok (loaded, warning))
    (deny : List Text) {cap : Option Int} (hcap : ∀ n ∈ cap, 1 ≤ n) {σ : Type} {engine : Engine σ}
    {state : σ} {p : Proposal} (hp : p.IsSingle) {samples : List Sample} (start finish : Binary64) :
    let s := loaded.override deny (cap.map .whole)
    (∃ finding,
      (infer engine state p s samples ⟨.float start, .float finish⟩).result = .ok finding) ↔
      ∀ q ∈ engine.transcript state (p.turns s samples), q.2.fault? = none :=
  infer_isOk_iff hp ((Settings.isValid_of_load h).override deny hcap).isProper start finish

end RuleFit

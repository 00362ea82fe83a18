import RuleFit.Proofs.CatalogForm
import RuleFit.Proofs.Equality
import RuleFit.Proofs.Table

/-!
# What becomes of the rules of a document

Rules are filed by the texts that their ids are shown as. That can bring two rules of a document
together, such as those under `true` and `"True"`, and nothing keeps a document from having both.

**Theorem (`read_keeps`).** The rules of a catalog are the shown ids of the document, each once and
where it first comes. There are as many as the document has rules exactly when no two ids are shown
alike. The schema of a rule is the one read from its last entry, so a schema is lost only when a
later rule has an id shown alike. Where all ids are texts, none is lost (`nodup_shownIds`).

What is lost otherwise is seen in `twoTrues`: of two rules one is left, with the schema of the
second (`read_twoTrues`).
-/

namespace RuleFit.Catalog

open Datum

variable {source : Text} {d : Datum} {c : Catalog}

/-- The texts that the ids of rules are shown as. -/
def shownIds (entries : List (Datum × Datum)) : List Text := entries.map fun e => e.1.display

/-- A catalog is filled with the rows that its rules are read to. -/
theorem rows_of_read (h : read source d = .ok c) : ∃ entries rows, HasRules d entries ∧
    entries.mapM (readRule source) = .ok rows ∧ c.schemas = .ofRows rows := by
  obtain ⟨entries, hrules⟩ := exists_hasRules h
  rw [read_of_hasRules hrules] at h
  obtain ⟨rows, hrows, rfl⟩ := map_eq_ok.1 h
  exact ⟨entries, rows, hrules, hrows, rfl⟩

theorem map_fst_rows {entries : List (Datum × Datum)} {rows : List (Text × Schema)}
    (h : entries.mapM (readRule source) = .ok rows) : rows.map Prod.fst = shownIds entries :=
  map_of_mapM_eq_ok (fun _ _ hr => (readRule_eq_ok_iff.1 hr).2.1.symm) h

/-- Every rule of a document is under the text its id is shown as, and the schema of the last one
counts. -/
theorem read_keeps (h : read source d = .ok c) :
    ∃ entries, HasRules d entries ∧
      c.schemas.ids = (shownIds entries).eraseDups ∧
      (c.schemas.size = entries.length ↔ (shownIds entries).Nodup) ∧
      ∀ before e after, entries = before ++ e :: after → e.1.display ∉ shownIds after →
        ∃ schema, Schema.read (place source e.1.display) (rawSchema e.2) = .ok schema ∧
          c.schemas.get? e.1.display = some schema := by
  obtain ⟨entries, rows, hrules, hrows, hschemas⟩ := rows_of_read h
  have hids : c.schemas.ids = (shownIds entries).eraseDups := by
    rw [hschemas, RuleTable.ids_ofRows, map_fst_rows hrows]
  refine ⟨entries, hrules, hids, ?_, ?_⟩
  · have hsize : c.schemas.size = (shownIds entries).eraseDups.length := by
      rw [← hids, RuleTable.ids, List.length_map]
      rfl
    have hlength : entries.length = (shownIds entries).length := (List.length_map _).symm
    rw [hsize, hlength, length_eraseDups_eq_iff]
  · intro before e after hsplit hlast
    subst hsplit
    simp only [List.mapM_append, List.mapM_cons, bind_eq_ok] at hrows
    obtain ⟨first, -, rest, ⟨r, hr, last, hafter, hrest⟩, hrows⟩ := hrows
    cases hrest
    cases hrows
    obtain ⟨-, hid, hread⟩ := readRule_eq_ok_iff.1 hr
    refine ⟨r.2, hread, ?_⟩
    rw [hschemas, hid]
    refine RuleTable.get?_ofRows first r ?_
    intro x hx hsame
    apply hlast
    rw [hid, ← hsame, ← map_fst_rows hafter]
    exact List.mem_map_of_mem hx

/-- Texts are shown as themselves, so rules whose ids are texts are kept one and all. -/
theorem nodup_shownIds {entries : List (Datum × Datum)}
    (htexts : ∀ e ∈ entries, ∃ t, e.1 = .text t)
    (hkeys : entries.Pairwise fun a b => a.1.alike b.1 = false) : (shownIds entries).Nodup := by
  unfold shownIds List.Nodup
  rw [List.pairwise_map]
  refine hkeys.imp_of_mem ?_
  intro a b ha hb hdiffer hsame
  obtain ⟨s, hs⟩ := htexts a ha
  obtain ⟨t, ht⟩ := htexts b hb
  rw [hs, ht] at hdiffer hsame
  obtain rfl : s = t := hsame
  rw [alike_refl] at hdiffer
  cases hdiffer

/-! ## Two ids shown alike -/

/-- The rules of a document with a rule under a truth value and another under its name. -/
def trueRules : List (Datum × Datum) :=
  [(.bool true, .null), (.text "True", .list [.map [(.text "type", .text "boolean")]])]

def twoTrues : Datum := .map [(.text "rules", .map trueRules)]

theorem read_twoTrues : read "catalog" twoTrues = .ok ⟨.ofRows [("True", []),
    ("True", [.unsupported "type 'boolean' is not expanded"])]⟩ := by
  rfl

theorem read_keeps_twoTrues : ∃ c, read "catalog" twoTrues = .ok c ∧ c.schemas.ids = ["True"] := by
  obtain ⟨entries, hrules, hids, -⟩ := read_keeps read_twoTrues
  cases hrules
  exact ⟨_, read_twoTrues, hids⟩

/-- The two ids are different keys, yet of their rules one is left, without the schema of the
first. -/
theorem read_twoTrues_loses : (Datum.bool true).alike (.text "True") = false ∧
    HasRules twoTrues trueRules ∧ Schema.read (place "catalog" "True") (rawSchema .null) = .ok [] ∧
    ∃ c, read "catalog" twoTrues = .ok c ∧ c.schemas.size ≠ trueRules.length ∧
      c.schemas.get? "True" ≠ some [] := by
  refine ⟨by decide, rfl, rfl, _, read_twoTrues, ?_, ?_⟩
  · decide
  · decide

end RuleFit.Catalog

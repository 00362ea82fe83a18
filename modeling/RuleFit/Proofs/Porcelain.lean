import Mathlib
import RuleFit.Proofs.Table
import RuleFit.Proofs.TextOrder
import RuleFit.Report.Porcelain

/-!
# Reading the porcelain report

A report is read line by line. The lines are the parts between line feeds, and there are none in the
empty text. A line ends in a number, and the last colon stands before it: whatever colons and digits
an id has of its own come further in front.

**Theorem (`porcelain_reads`).** Of a report whose ids hold no line feed, the porcelain form is read
back as the ids in ascending order, each with the specificity of its configuration. So two reports
have one porcelain form exactly when they give the same ids the same specificities.

Nothing else goes into the text than these pairs (`porcelain_eq`). The lines come back because none
of them is empty or holds a line feed (`lines_intercalate`), and each pair comes back from its line
because digits are no colons (`readLine_entryLine`).
-/

namespace RuleFit

namespace Text

/-! ## Lines -/

theorem splitAll_eq_splitOnP {α : Type} (test : α → Bool) (xs : List α) :
    splitAll test xs = xs.splitOnP test := by
  induction xs with
  | nil => rfl
  | cons x xs ih =>
    rw [splitAll, List.splitOnP_cons_eq_if_modifyHead, ih]
    obtain ⟨part, parts, h⟩ := List.exists_cons_of_ne_nil (List.splitOnP_ne_nil test xs)
    rw [h, List.modifyHead_cons]

theorem points_intercalate (between : Text) (ts : List Text) :
    (intercalate between ts).points = between.points.intercalate (ts.map points) := by
  fun_induction intercalate between ts with
  | case1 => rfl
  | case2 t => simp
  | case3 t ts hne ih =>
    obtain ⟨u, us, rfl⟩ := List.exists_cons_of_ne_nil hne
    have happend : (t ++ between ++ intercalate between (u :: us)).points =
        t.points ++ between.points ++ (intercalate between (u :: us)).points := rfl
    rw [happend, ih]
    simp

/-- Texts put one behind the other are the parts between the places where they meet. -/
theorem splitOn_intercalate {c : Char} {ts : List Text} (hne : ts ≠ [])
    (h : ∀ t ∈ ts, CodePoint.char c ∉ t.points) :
    (intercalate (single c) ts).splitOn c = ts := by
  have hparts : ∀ part ∈ ts.map points, CodePoint.char c ∉ part := by simpa using h
  rw [splitOn, splitAll_eq_splitOnP, points_intercalate, ← List.splitOn_eq_splitOnP, single,
    List.splitOn_intercalate _ hparts (by simpa using hne), List.map_map]
  exact List.map_id' ts

/-- The lines of a text; the empty text has none. -/
def lines (t : Text) : List Text := if t.isEmpty then [] else t.splitOn '\n'

theorem lines_intercalate {ts : List Text} (hne : ∀ t ∈ ts, t.isEmpty = false)
    (h : ∀ t ∈ ts, CodePoint.char '\n' ∉ t.points) : (intercalate "\n" ts).lines = ts := by
  cases ts with
  | nil => rfl
  | cons t ts =>
    have hempty : (intercalate "\n" (t :: ts)).isEmpty = false := by
      have ht := hne t List.mem_cons_self
      rw [isEmpty, List.isEmpty_eq_false_iff] at ht ⊢
      rw [points_intercalate]
      cases ts <;> simp [ht]
    rw [lines, hempty]
    exact splitOn_intercalate (List.cons_ne_nil t ts) h

/-! ## The last place of a character -/

/-- What stands before the last place of an item and what stands behind it. -/
def splitLast? {α : Type} [DecidableEq α] (a : α) : List α → Option (List α × List α)
  | [] => none
  | x :: xs =>
    match splitLast? a xs with
    | some (front, back) => some (x :: front, back)
    | none => if x = a then some ([], xs) else none

section SplitLast

variable {α : Type} [DecidableEq α] {a : α}

theorem splitLast?_eq_none {xs : List α} (h : a ∉ xs) : splitLast? a xs = none := by
  induction xs with
  | nil => rfl
  | cons x xs ih =>
    rw [List.mem_cons, not_or] at h
    simp [splitLast?, ih h.2, Ne.symm h.1]

theorem splitLast?_append (front : List α) {back : List α} (h : a ∉ back) :
    splitLast? a (front ++ a :: back) = some (front, back) := by
  induction front with
  | nil => simp [splitLast?, splitLast?_eq_none h]
  | cons x front ih => simp [splitLast?, ih]

end SplitLast

/-- The parts of a text before and behind the last place where a character stands. -/
def rsplit? (t : Text) (c : Char) : Option (Text × Text) :=
  (splitLast? (CodePoint.char c) t.points).map fun parts => (⟨parts.1⟩, ⟨parts.2⟩)

theorem rsplit?_append {c : Char} (front : Text) {back : Text}
    (h : CodePoint.char c ∉ back.points) :
    (front ++ single c ++ back).rsplit? c = some (front, back) := by
  have hpoints : (front ++ single c ++ back).points =
      front.points ++ CodePoint.char c :: back.points :=
    List.append_assoc front.points [CodePoint.char c] back.points
  rw [rsplit?, hpoints, splitLast?_append front.points h]
  rfl

/-! ## Numbers -/

theorem string?_ofString (s : String) : (ofString s).string? = some s := by
  have hchars : ∀ cs : List Char, (ofChars cs).chars? = some cs := by
    intro cs
    induction cs with
    | nil => rfl
    | cons c cs ih =>
      rw [chars?, ofChars] at ih ⊢
      rw [List.map_cons, List.mapM_cons, ih]
      rfl
  rw [string?, ofString, hchars, Option.map_some, String.ofList_toList]

/-- A number is written in digits. -/
theorem not_mem_toString (n : Nat) {c : Char} (hc : c.isDigit = false) :
    CodePoint.char c ∉ (ofString (toString n)).points := by
  intro hmem
  obtain ⟨d, hd, heq⟩ := List.mem_map.1 hmem
  rw [Nat.toString_eq_ofList_toDigits, String.toList_ofList] at hd
  obtain rfl := CodePoint.char.inj heq
  have hdigit := Nat.isDigit_of_mem_toDigits (by decide) (by decide) hd
  rw [hc] at hdigit
  cases hdigit

end Text

namespace Report

/-! ## Entries -/

/-- The ids in ascending order, each with the specificity of its configuration. -/
def entries (r : Report) : List (Text × Nat) :=
  r.rules.sortedRows.map fun row => (row.1, row.2.specificity)

/-- The line of an entry. -/
def entryLine (e : Text × Nat) : Text := e.1 ++ ":" ++ toString e.2

/-- The porcelain form is made of the entries alone. -/
theorem porcelain_eq (r : Report) :
    r.porcelain = Text.intercalate "\n" (r.entries.map entryLine) := by
  rw [porcelain, entries, List.map_map]
  rfl

theorem mem_entries {r : Report} {e : Text × Nat} :
    e ∈ r.entries ↔ (r.rules.get? e.1).map Candidate.specificity = some e.2 := by
  have hrow : ∀ row, row ∈ r.rules.sortedRows ↔ r.rules.get? row.1 = some row.2 := by
    intro row
    rw [RuleTable.get?_eq_some_iff]
    exact (List.mergeSort_perm r.rules.rows _).mem_iff
  rw [entries, List.mem_map, Option.map_eq_some_iff]
  constructor
  · rintro ⟨row, hmem, rfl⟩
    exact ⟨row.2, (hrow row).1 hmem, rfl⟩
  · rintro ⟨c, hget, hspec⟩
    exact ⟨(e.1, c), (hrow (e.1, c)).2 hget, Prod.ext rfl hspec⟩

theorem map_fst_entries_perm (r : Report) : (r.entries.map Prod.fst).Perm r.rules.ids := by
  rw [entries, List.map_map]
  exact (List.mergeSort_perm r.rules.rows _).map Prod.fst

/-- The entries come in ascending order, each id once. -/
theorem pairwise_entries (r : Report) :
    r.entries.Pairwise fun e e' => e.1.before e'.1 = true := by
  have hsorted : r.rules.sortedRows.Pairwise fun a b => a.1.notAfter b.1 = true :=
    List.pairwise_mergeSort (fun a b c => Text.notAfter_trans a.1 b.1 c.1)
      (fun a b => Text.notAfter_total a.1 b.1) r.rules.rows
  have hascending : r.entries.Pairwise fun e e' => e.1.notAfter e'.1 = true :=
    hsorted.map _ fun _ _ h => h
  have hnodup : (r.entries.map Prod.fst).Nodup :=
    (map_fst_entries_perm r).nodup_iff.2 r.rules.nodup_ids
  have hdiffer : r.entries.Pairwise fun e e' => e.1 ≠ e'.1 := List.pairwise_map.1 hnodup
  refine (hascending.and hdiffer).imp fun {e e'} h => ?_
  rw [Text.before_iff]
  exact lt_of_le_of_ne (Text.notAfter_iff.1 h.1) fun heq => h.2 (Text.numbers_injective heq)

theorem nodup_entries (r : Report) : r.entries.Nodup :=
  ((map_fst_entries_perm r).nodup_iff.2 r.rules.nodup_ids).of_map

/-- Reports have the same entries when they give the same ids the same specificities. -/
theorem entries_eq_iff {r r' : Report} : r.entries = r'.entries ↔
    ∀ id, (r.rules.get? id).map Candidate.specificity =
      (r'.rules.get? id).map Candidate.specificity := by
  constructor
  · intro h id
    refine Option.ext fun n => ?_
    rw [← mem_entries (e := (id, n)), h, mem_entries]
  · intro h
    have hmem : ∀ e, e ∈ r.entries ↔ e ∈ r'.entries := fun e => by
      rw [mem_entries, mem_entries, h]
    have hperm : r.entries.Perm r'.entries :=
      (List.perm_ext_iff_of_nodup (nodup_entries r) (nodup_entries r')).2 hmem
    refine hperm.eq_of_pairwise (fun e e' _ _ hbefore hafter => ?_) (pairwise_entries r)
      (pairwise_entries r')
    rw [Text.before_iff] at hbefore hafter
    exact absurd hafter hbefore.asymm

/-! ## Reading -/

/-- Reads a line as an id, up to the last colon, and a number. -/
def readLine (line : Text) : Option (Text × Nat) := do
  let (id, digits) ← line.rsplit? ':'
  let n ← digits.string?.bind String.toNat?
  return (id, n)

/-- Reads the entries of a report, one from each line. -/
def readPorcelain (t : Text) : Option (List (Text × Nat)) := t.lines.mapM readLine

theorem readLine_entryLine (e : Text × Nat) : readLine (entryLine e) = some e := by
  have hsplit : (entryLine e).rsplit? ':' = some (e.1, Text.ofString (toString e.2)) :=
    Text.rsplit?_append e.1 (Text.not_mem_toString e.2 (by decide))
  simp [readLine, hsplit, Text.string?_ofString]

theorem mapM_readLine (es : List (Text × Nat)) : (es.map entryLine).mapM readLine = some es := by
  induction es with
  | nil => rfl
  | cons e es ih => simp [readLine_entryLine, ih]

/-- A line has a colon, so it is not empty. -/
theorem isEmpty_entryLine (e : Text × Nat) : (entryLine e).isEmpty = false := by
  rw [Text.isEmpty, List.isEmpty_eq_false_iff]
  refine List.ne_nil_of_mem (a := CodePoint.char ':') ?_
  exact List.mem_append_left _ (List.mem_append_right e.1.points List.mem_cons_self)

theorem not_mem_entryLine {e : Text × Nat} (h : CodePoint.char '\n' ∉ e.1.points) :
    CodePoint.char '\n' ∉ (entryLine e).points := by
  have hnumber : CodePoint.char '\n' ∉ (Text.ofString (toString e.2)).points :=
    Text.not_mem_toString e.2 (by decide)
  have hpoints : (entryLine e).points =
      e.1.points ++ [CodePoint.char ':'] ++ (Text.ofString (toString e.2)).points := rfl
  rw [hpoints, List.mem_append, List.mem_append, not_or, not_or]
  exact ⟨⟨h, by decide⟩, hnumber⟩

/-- Of ids without line feeds the entries come back. -/
theorem readPorcelain_porcelain {r : Report}
    (h : ∀ id ∈ r.rules.ids, CodePoint.char '\n' ∉ id.points) :
    readPorcelain r.porcelain = some r.entries := by
  have hlines : r.porcelain.lines = r.entries.map entryLine := by
    rw [porcelain_eq]
    refine Text.lines_intercalate (List.forall_mem_map.2 fun e _ => isEmpty_entryLine e)
      (List.forall_mem_map.2 fun e he => not_mem_entryLine (h e.1 ?_))
    exact (map_fst_entries_perm r).mem_iff.1 (List.mem_map_of_mem he)
  rw [readPorcelain, hlines, mapM_readLine]

/-- **The porcelain form tells the specificity of every rule, and nothing else.** -/
theorem porcelain_reads (r : Report) (h : ∀ id ∈ r.rules.ids, CodePoint.char '\n' ∉ id.points) :
    (∃ entries, readPorcelain r.porcelain = some entries ∧
      (entries.map Prod.fst).Perm r.rules.ids ∧
      (entries.Pairwise fun e e' => e.1.before e'.1 = true) ∧
      ∀ id n, (id, n) ∈ entries ↔ ∃ c, r.rules.get? id = some c ∧ c.specificity = n) ∧
    ∀ r' : Report, (∀ id ∈ r'.rules.ids, CodePoint.char '\n' ∉ id.points) →
      (r.porcelain = r'.porcelain ↔ ∀ id, (r.rules.get? id).map Candidate.specificity =
        (r'.rules.get? id).map Candidate.specificity) := by
  refine ⟨⟨r.entries, readPorcelain_porcelain h, map_fst_entries_perm r, pairwise_entries r,
    fun id n => ?_⟩, fun r' h' => ?_⟩
  · rw [mem_entries, Option.map_eq_some_iff]
  · rw [← entries_eq_iff]
    constructor
    · intro heq
      have hread := readPorcelain_porcelain h
      rw [heq, readPorcelain_porcelain h'] at hread
      exact (Option.some.inj hread).symm
    · intro heq
      rw [porcelain_eq, porcelain_eq, heq]

/-- Ids that look like lines: the line of `a` is the id of another rule. -/
def lookalikes : Report where
  rules := ⟨[("a:1", ⟨.error, [.text "always"]⟩), ("", ⟨.warn, []⟩), ("a", ⟨.error, []⟩)],
    by decide⟩

/-- The same ids, but `a` has options as well. -/
def lookalikesOptioned : Report where
  rules := ⟨[("a", ⟨.error, [.text "b", .text "c"]⟩), ("a:1", ⟨.error, [.text "b"]⟩),
    ("", ⟨.off, []⟩)], by decide⟩

/-- The theorem on these: the colons of the ids are not mistaken for the last one. -/
theorem porcelain_reads_lookalikes :
    (∀ id ∈ lookalikes.rules.ids, CodePoint.char '\n' ∉ id.points) ∧
    (∃ entries, readPorcelain lookalikes.porcelain = some entries ∧
      (entries.map Prod.fst).Perm ["a:1", "", "a"] ∧
      ((("a:1" : Text), 2) ∈ entries) ∧ (("a" : Text), 1) ∈ entries) ∧
    lookalikes.porcelain ≠ lookalikesOptioned.porcelain := by
  have hids : ∀ id ∈ lookalikes.rules.ids, CodePoint.char '\n' ∉ id.points := by decide
  have hids' : ∀ id ∈ lookalikesOptioned.rules.ids, CodePoint.char '\n' ∉ id.points := by decide
  obtain ⟨⟨entries, hread, hperm, -, hmem⟩, hsame⟩ := porcelain_reads lookalikes hids
  refine ⟨hids, ⟨entries, hread, hperm, ?_, ?_⟩, fun heq => ?_⟩
  · exact (hmem "a:1" 2).2 ⟨_, rfl, rfl⟩
  · exact (hmem "a" 1).2 ⟨_, rfl, rfl⟩
  · have ha := (hsame lookalikesOptioned hids').1 heq "a"
    revert ha
    decide

end Report
end RuleFit

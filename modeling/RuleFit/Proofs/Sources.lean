import RuleFit.Proofs.Construction
import RuleFit.Proofs.Streaming
import RuleFit.Yaml.Source

/-!
# What is read of the bytes of a document

Reading in blocks comes to the whole text where that is one a document may hold, and to the fault
that it breaks off at otherwise (`Renders`, `ofBytes_renders`). So the value of a document is that
of the whole text (`loadBytes_whole`). Bytes that are no UTF-8 have no value
(`isUtf8_of_loadBytes`), and a fault of the encoding is found in no others
(`not_isUtf8_of_loadBytes`). A text no longer than the blocks that are read first has that fault and
no other (`loadBytes_encoding`); in a longer one a flaw may show before it. What is legible has a
value or a flaw (`Legible.value_or_flaw`).
-/

namespace RuleFit.Yaml

open Text (IsUtf8 Stream decodeAll unifyNewlines)

namespace Source

/-! ## Blocks -/

theorem readBlock_spec (s : Stream) :
    (∃ f, readBlock s = .error (.encoding f) ∧ ∀ text, ¬s.Holds text) ∨
    ∃ got next, readBlock s = .ok (got, next) ∧ s.ReadsTo got next ∧ s.Exhausts blockSize got := by
  have hfuel : s.pieces < s.bytes.length + 2 := Nat.lt_succ_of_le s.pieces_le
  unfold readBlock Stream.read
  rcases Stream.readFrom_spec hfuel blockSize [] with
    ⟨f, hf, hno⟩ | ⟨got, next, hgot, hreads, hend⟩
  · exact .inl ⟨f, by rw [hf]; rfl, hno⟩
  · exact .inr ⟨got, next, by rw [hgot]; rfl, hreads, hend⟩

/-- What a source says of a stream behind some characters: all its text where a document may hold
that, or else the fault that it breaks off at. -/
structure Renders (source : Source) (done : List Char) (s : Stream) : Prop where
  whole : ∀ text, s.Holds text → text.all isAllowed → source = ⟨done ++ text, none⟩
  unprintable : ∀ text, s.Holds text → ¬text.all isAllowed →
    source.fault = some (.flaw .unprintable)
  broken : (∀ text, ¬s.Holds text) →
    source.fault = some (.flaw .unprintable) ∨ ∃ f, source.fault = some (.encoding f)

theorem renders_error {done : List Char} {s : Stream} {f : Text.Utf8Fault}
    (h : ∀ text, ¬s.Holds text) : Renders ⟨done, some (.encoding f)⟩ done s :=
  ⟨fun text htext => absurd htext (h text), fun text htext => absurd htext (h text),
    fun _ => .inr ⟨f, rfl⟩⟩

theorem renders_end {done : List Char} {s : Stream} (h : ∀ text, s.Holds text ↔ text = []) :
    Renders ⟨done, none⟩ done s := by
  refine ⟨fun text htext _ => ?_, fun text htext hnot => ?_, fun hno => ?_⟩
  · rw [(h text).mp htext, List.append_nil]
  · rw [(h text).mp htext] at hnot
    exact absurd rfl hnot
  · exact absurd ((h []).mpr rfl) (hno [])

theorem renders_unprintable {source : Source} {done got : List Char} {s next : Stream}
    (hreads : s.ReadsTo got next) (hgot : ¬got.all isAllowed)
    (hsource : source.fault = some (.flaw .unprintable)) : Renders source done s := by
  refine ⟨fun text htext hall => ?_, fun _ _ _ => hsource, fun _ => .inl hsource⟩
  obtain ⟨rest, -, rfl⟩ := (hreads.holds text).mp htext
  rw [List.all_append, Bool.and_eq_true] at hall
  exact absurd hall.1 hgot

theorem Renders.of_next {source : Source} {done got : List Char} {s next : Stream}
    (hreads : s.ReadsTo got next) (hgot : got.all isAllowed)
    (h : Renders source (done ++ got) next) : Renders source done s := by
  have hall (rest : List Char) : (got ++ rest).all isAllowed = rest.all isAllowed := by
    rw [List.all_append, hgot, Bool.true_and]
  refine ⟨fun text htext hallowed => ?_, fun text htext hnot => ?_, fun hno => ?_⟩
  · obtain ⟨rest, hrest, rfl⟩ := (hreads.holds text).mp htext
    rw [h.whole rest hrest (hall rest ▸ hallowed), List.append_assoc]
  · obtain ⟨rest, hrest, rfl⟩ := (hreads.holds text).mp htext
    exact h.unprintable rest hrest (hall rest ▸ hnot)
  · exact h.broken fun rest hrest => hno _ ((hreads.holds _).mpr ⟨rest, hrest, rfl⟩)

theorem readOn_renders {fuel : Nat} {done : List Char} {s : Stream} (hfuel : s.weight < fuel) :
    Renders (readOn fuel done s) done s := by
  induction fuel generalizing done s with
  | zero => exact absurd hfuel (Nat.not_lt_zero _)
  | succ fuel ih =>
    unfold readOn
    rcases readBlock_spec s with ⟨f, hf, hno⟩ | ⟨got, next, hgot, hreads, hend⟩
    · simp only [hf]
      exact renders_error hno
    · simp only [hgot]
      split_ifs with hempty hallowed
      · refine renders_end ?_
        rw [List.isEmpty_iff.mp hempty] at hend
        exact hend.resolve_left (by decide)
      · have hpos : got ≠ [] := fun h => hempty (List.isEmpty_iff.mpr h)
        have hlength := List.length_pos_iff.mpr hpos
        have hweight := hreads.weight
        exact .of_next hreads hallowed (ih (by omega))
      · exact renders_unprintable hreads hallowed rfl

theorem readFirst_spec (s : Stream) :
    (∃ f, readFirst s = .error (.encoding f) ∧ ∀ text, ¬s.Holds text) ∨
    ∃ got next, s.ReadsTo got next ∧
      readFirst s = if got.all isAllowed then .ok (got, next) else .error (.flaw .unprintable) := by
  unfold readFirst
  rcases readBlock_spec s with ⟨f, hf, hno⟩ | ⟨first, middle, hfirst, hreads, -⟩
  · exact .inl ⟨f, by rw [hf]; rfl, hno⟩
  rcases readBlock_spec middle with ⟨f, hf, hno⟩ | ⟨second, next, hsecond, hreads', -⟩
  · refine .inl ⟨f, by rw [hfirst]; simp only [bind, Except.bind, hf], fun text htext => ?_⟩
    obtain ⟨rest, hrest, -⟩ := (hreads.holds text).mp htext
    exact hno rest hrest
  · refine .inr ⟨first ++ second, next, hreads.append hreads', ?_⟩
    rw [hfirst]
    simp only [bind, Except.bind, hsecond]
    rfl

theorem ofBytes_renders (bytes : List UInt8) : Renders (ofBytes bytes) [] { bytes } := by
  unfold ofBytes
  rcases readFirst_spec { bytes } with ⟨f, hf, hno⟩ | ⟨got, next, hreads, hfirst⟩
  · rw [hf]
    exact renders_error hno
  · rw [hfirst]
    split_ifs with hallowed
    · have hweight : got.length + next.weight ≤ bytes.length := by
        simpa [Stream.weight, Stream.held] using hreads.weight
      exact .of_next hreads hallowed (readOn_renders (by omega))
    · exact renders_unprintable hreads hallowed rfl

/-! ## Bytes -/

variable {bytes : List UInt8} {cs : List Char}

theorem holds_bytes {text : List Char} : Stream.Holds { bytes } text ↔
    ∃ cs, decodeAll bytes = .ok cs ∧ text = unifyNewlines cs :=
  Iff.rfl

/-- Of a text that a document may hold nothing is lost, however long it is. -/
theorem ofBytes_whole (h : decodeAll bytes = .ok cs) (hall : (unifyNewlines cs).all isAllowed) :
    ofBytes bytes = ⟨unifyNewlines cs, none⟩ :=
  (ofBytes_renders bytes).whole _ (holds_bytes.mpr ⟨cs, h, rfl⟩) hall

theorem ofBytes_unprintable (h : decodeAll bytes = .ok cs)
    (hall : ¬(unifyNewlines cs).all isAllowed) :
    (ofBytes bytes).fault = some (.flaw .unprintable) :=
  (ofBytes_renders bytes).unprintable _ (holds_bytes.mpr ⟨cs, h, rfl⟩) hall

/-- Bytes that are no UTF-8 break off at a fault. -/
theorem ofBytes_broken (h : ¬IsUtf8 bytes) :
    (ofBytes bytes).fault = some (.flaw .unprintable) ∨
      ∃ f, (ofBytes bytes).fault = some (.encoding f) := by
  refine (ofBytes_renders bytes).broken fun text htext => h ?_
  obtain ⟨cs, hcs, -⟩ := holds_bytes.mp htext
  exact Text.isUtf8_iff.mpr ⟨cs, hcs⟩

/-- A source breaks off at a broken encoding only where the bytes are no UTF-8. -/
theorem not_isUtf8_of_fault {f : Text.Utf8Fault} (h : (ofBytes bytes).fault = some (.encoding f)) :
    ¬IsUtf8 bytes := by
  intro hutf8
  obtain ⟨cs, hcs⟩ := Text.isUtf8_iff.mp hutf8
  by_cases hall : (unifyNewlines cs).all isAllowed
  · rw [ofBytes_whole hcs hall] at h
    cases h
  · rw [ofBytes_unprintable hcs hall] at h
    cases h

/-- A text that is no longer than the first blocks is decoded as a whole before anything else is
looked at. -/
theorem readFirst_encoding (h : ¬IsUtf8 bytes) (hlength : bytes.length ≤ 2 * blockSize) :
    ∃ f, readFirst { bytes } = .error (.encoding f) := by
  have hno (text : List Char) : ¬Stream.Holds { bytes } text := by
    intro htext
    obtain ⟨cs, hcs, -⟩ := holds_bytes.mp htext
    exact h (Text.isUtf8_iff.mpr ⟨cs, hcs⟩)
  have hweight : Stream.weight { bytes } = bytes.length := by simp [Stream.weight, Stream.held]
  unfold readFirst
  rcases readBlock_spec { bytes } with ⟨f, hf, -⟩ | ⟨first, middle, hfirst, hreads, hend⟩
  · exact ⟨f, by rw [hf]; rfl⟩
  rcases readBlock_spec middle with ⟨f, hf, -⟩ | ⟨second, next, -, hreads', hend'⟩
  · exact ⟨f, by rw [hfirst]; simp only [bind, Except.bind, hf]⟩
  exfalso
  rcases hend with hfull | hall
  · have hbound := hreads.weight
    have hrest : middle.weight ≤ blockSize := by omega
    exact hno _ ((hreads.holds _).mpr ⟨second, hreads'.holds_of_weight hend' hrest, rfl⟩)
  · exact hno first ((hall first).mpr rfl)

theorem ofBytes_encoding (h : ¬IsUtf8 bytes) (hlength : bytes.length ≤ 2 * blockSize) :
    ∃ f, ofBytes bytes = ⟨[], some (.encoding f)⟩ := by
  obtain ⟨f, hf⟩ := readFirst_encoding h hlength
  refine ⟨f, ?_⟩
  unfold ofBytes
  rw [hf]

end Source

/-! ## Values -/

variable {bytes : List UInt8}

/-- Bytes that are no UTF-8 have no value. -/
theorem isUtf8_of_loadBytes {d : Datum} (h : loadBytes bytes = .ok d) : IsUtf8 bytes := by
  by_contra hnot
  have hwhole := (load_ends _ _).of_ok h
  rcases Source.ofBytes_broken hnot with hfault | ⟨f, hfault⟩
  · rw [hfault] at hwhole
    cases hwhole
  · rw [hfault] at hwhole
    cases hwhole

/-- A fault of the encoding is found only in bytes that are no UTF-8. -/
theorem not_isUtf8_of_loadBytes {f : Text.Utf8Fault} (h : loadBytes bytes = .error (.encoding f)) :
    ¬IsUtf8 bytes :=
  Source.not_isUtf8_of_fault ((load_ends _ _).of_error h f rfl)

/-- Of a short text the encoding shows before any flaw. -/
theorem loadBytes_encoding (h : ¬IsUtf8 bytes) (hlength : bytes.length ≤ 2 * Source.blockSize) :
    ∃ f, loadBytes bytes = .error (.encoding f) := by
  obtain ⟨f, hf⟩ := Source.ofBytes_encoding h hlength
  exact ⟨f, by simp only [loadBytes, hf, load]; rfl⟩

/-- A text that a document may hold is read as a whole, in however many pieces it comes. -/
theorem loadBytes_whole {cs : List Char} (h : decodeAll bytes = .ok cs)
    (hall : (unifyNewlines cs).all isAllowed) : loadBytes bytes = load (unifyNewlines cs) none := by
  unfold loadBytes
  rw [Source.ofBytes_whole h hall]

/-- Bytes are legible when they are UTF-8 and no scalar in them is without a value. -/
structure Legible (bytes : List UInt8) : Prop where
  utf8 : IsUtf8 bytes
  scalars : ∀ f, loadBytes bytes ≠ .error (.scalar f)

theorem Legible.value_or_flaw (h : Legible bytes) :
    (∃ d, loadBytes bytes = .ok d) ∨ ∃ flaw, loadBytes bytes = .error (.flaw flaw) := by
  cases hload : loadBytes bytes with
  | ok d => exact .inl ⟨d, rfl⟩
  | error f =>
    cases f with
    | flaw flaw => exact .inr ⟨flaw, rfl⟩
    | scalar f => exact absurd hload (h.scalars f)
    | encoding f => exact absurd h.utf8 (not_isUtf8_of_loadBytes hload)

end RuleFit.Yaml

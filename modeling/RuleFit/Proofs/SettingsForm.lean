import RuleFit.Proofs.Native
import RuleFit.Proofs.Setup
import RuleFit.Proofs.Steps
import RuleFit.Settings.Basic

/-!
# Which mappings are settings

Settings are stated under four keys, each of which may be missing. For every key it is laid down
what a value has to be and what it then states (`IsDenyList`, `IsCap`, `IsSeverity`, `IsBase`).

**Theorem (`read_decides`).** Of a mapping, settings are read exactly when the values under the four
keys are what they have to be, and they are the ones stated, with the default for every key that is
missing (`Stated`). They are valid: the cap is a number from one on, and the base is a mapping.
Otherwise comes the fault of the first key at fault (`Faulty`). Nothing but the values under the
four keys counts.

One thing is asked beyond what the values are: the denied rules are put into texts, so nothing in
their list may be a number too long to be written out (`denial_refused`).

All four keys are read in one way (`readOr`), so what there is to say about a missing key is said
once, and every key has its own reader to account for.
-/

namespace RuleFit

namespace Text

theorem mapM_char?_eq_some_iff {ps : List CodePoint} {cs : List Char} :
    ps.mapM CodePoint.char? = some cs ↔ ps = cs.map .char := by
  induction ps generalizing cs with
  | nil => cases cs <;> simp
  | cons p ps ih =>
    cases p with
    | char c =>
      simp only [List.mapM_cons, CodePoint.char?, Option.pure_def, Option.bind_eq_bind,
        Option.bind_some, Option.bind_eq_some_iff, ih]
      cases cs <;> simp [and_comm]
    | surrogate k => cases cs <;> simp [CodePoint.char?]

/-- A text is the string that it is taken for. -/
theorem string?_eq_some_iff {t : Text} {s : String} : t.string? = some s ↔ t = s := by
  obtain ⟨ps⟩ := t
  rw [string?, chars?, Option.map_eq_some_iff]
  constructor
  · rintro ⟨cs, hcs, rfl⟩
    rw [mapM_char?_eq_some_iff] at hcs
    rw [ofString, String.toList_ofList]
    exact congrArg Text.mk hcs
  · intro h
    refine ⟨s.toList, mapM_char?_eq_some_iff.2 (congrArg points h), String.ofList_toList⟩

end Text

namespace Severity

/-- The name of a severity in settings. -/
def word : Severity → String
  | .off => "off"
  | .warn => "warn"
  | .error => "error"

theorem ofName?_eq_some_iff {name : Text} {s : Severity} :
    ofName? name = some s ↔ name.lower = s.word := by
  rw [← Text.string?_eq_some_iff, ofName?]
  split
  · next h => cases s <;> simp [h, word]
  · next h => cases s <;> simp [h, word]
  · next h => cases s <;> simp [h, word]
  · next hoff hwarn herror =>
    refine iff_of_false (by simp) ?_
    intro h
    cases s with
    | off => exact hoff h
    | warn => exact hwarn h
    | error => exact herror h

/-- Different whole numbers are different quantities. -/
theorem ofInt_inj {m n : Int} : Dyadic.ofInt m = Dyadic.ofInt n ↔ m = n := by
  constructor
  · intro h
    have hm : (Dyadic.ofInt m).toRat = m := Dyadic.toRat_intCast m
    rw [h, show (Dyadic.ofInt n).toRat = n from Dyadic.toRat_intCast n] at hm
    exact (Rat.intCast_inj.1 hm).symm
  · exact congrArg Dyadic.ofInt

theorem ofDatum?_int_eq_some_iff {n : Int} {s : Severity} :
    ofDatum? (.int n) = some s ↔ n = s.level := by
  have hof : ofDatum? (.int n) = some s ↔ ofDatum (.int n) = .ok s := by
    unfold ofDatum
    cases ofDatum? (.int n) <;> simp
  rw [hof, ofDatum_eq_ok_iff]
  simp [Datum.sameQuantity, Datum.quantity?, toDatum, ofInt_inj]

end Severity

namespace Settings

/-! ## The form of the values -/

/-- A value that denies rules: a list of what can be put into texts, or anything empty. -/
inductive IsDenyList (v : Datum) : List Text → Prop where
  | empty (h : v.isEmpty = true) : IsDenyList v []
  | list {items : List Datum} (h : v.opened = .list items) (hall : ∀ x ∈ items, x.writable = true) :
    IsDenyList v (items.map Datum.display)

/-- A value that is a cap: a whole number from one on. -/
inductive IsCap : Datum → Cap → Prop where
  | whole {n : Int} (h : 1 ≤ n) : IsCap (.int n) (.whole n)

/-- A value that is a severity: its level, or its name in letters of either case. -/
inductive IsSeverity : Datum → Severity → Prop where
  | level (s : Severity) : IsSeverity (.int s.level) s
  | name {t : Text} {s : Severity} (h : t.lower = s.word) : IsSeverity (.text t) s

/-- A value that is a base configuration: a mapping, or anything empty. -/
inductive IsBase (v : Datum) : Datum → Prop where
  | map (h : v.isMap = true) : IsBase v v
  | empty (h : v.isEmpty = true) (hnot : v.isMap = false) : IsBase v (.map [])

/-- What stands under a key states a value, and where nothing does the default holds. -/
def States {α : Type} (is : Datum → α → Prop) (default : α) : Option Datum → α → Prop
  | none, a => a = default
  | some v, a => is v a

/-- What stands under a key, if anything does, states some value. -/
def Sound {α : Type} (is : Datum → α → Prop) (v : Option Datum) : Prop :=
  ∀ x, v = some x → ∃ a, is x a

/-- The mapping states these settings. -/
structure Stated (d : Datum) (s : Settings) : Prop where
  deny : States IsDenyList [] (d.get? "deny_list") s.deny
  cap : States IsCap (.whole 16) (d.get? "max_config_combinations") s.cap
  severity : States IsSeverity .error (d.get? "default_severity") s.severity
  base : States IsBase (.map []) (d.get? "base_config") s.base

/-! ## Faults -/

/-- The fault of a value that denies no rules: it holds a number too long, or is no list. -/
def denyFault (v : Datum) : SettingsFault :=
  match v.opened with
  | .list _ => .unwritable ⟨⟩
  | _ => .denyNotList

/-- The fault of a value that is no severity. -/
def severityFault (v : Datum) : SettingsFault :=
  match v with
  | .bool _ => .severityBool v
  | .int _ => .severityLevel v
  | _ => .severityName v

/-- What is wrong with a mapping: the first key at fault, in the order in which they are read. -/
inductive Faulty (d : Datum) : SettingsFault → Prop where
  | deny {v : Datum} (h : d.get? "deny_list" = some v) (hf : ∀ deny, ¬IsDenyList v deny) :
    Faulty d (denyFault v)
  | cap {v : Datum} (hdeny : Sound IsDenyList (d.get? "deny_list"))
    (h : d.get? "max_config_combinations" = some v) (hf : ∀ cap, ¬IsCap v cap) :
    Faulty d (.badCap v)
  | severity {v : Datum} (hdeny : Sound IsDenyList (d.get? "deny_list"))
    (hcap : Sound IsCap (d.get? "max_config_combinations"))
    (h : d.get? "default_severity" = some v) (hf : ∀ s, ¬IsSeverity v s) :
    Faulty d (severityFault v)
  | base {v : Datum} (hdeny : Sound IsDenyList (d.get? "deny_list"))
    (hcap : Sound IsCap (d.get? "max_config_combinations"))
    (hseverity : Sound IsSeverity (d.get? "default_severity"))
    (h : d.get? "base_config" = some v) (hf : ∀ base, ¬IsBase v base) : Faulty d .baseNotMapping

/-! ## Readers -/

/-- A reader gives what a value of the right form states, and has one fault for any other value. -/
structure Reads {α : Type} (reader : Datum → Except SettingsFault α) (is : Datum → α → Prop)
    (fault : Datum → SettingsFault) : Prop where
  ok_iff : ∀ v a, reader v = .ok a ↔ is v a
  refuses : ∀ v f, reader v = .error f → f = fault v

theorem readDeny_list {v : Datum} {items : List Datum} (h : v.opened = .list items) :
    readDeny v = (items.mapM Datum.shown).mapError .unwritable := by
  rw [readDeny, h]

theorem readDeny_of_not_list {v : Datum} (h : ∀ items, v.opened ≠ .list items) :
    readDeny v = if v.isEmpty then .ok [] else .error .denyNotList := by
  unfold readDeny
  split
  · next items hlist => exact absurd hlist (h items)
  · rfl

/-- A list is empty as a value when nothing is in it. -/
theorem isEmpty_list {v : Datum} {items : List Datum} (h : v.opened = .list items) :
    v.isEmpty = items.isEmpty := by
  rw [Datum.isEmpty, h]

theorem readDeny_eq_ok_iff {v : Datum} {deny : List Text} :
    readDeny v = .ok deny ↔ IsDenyList v deny := by
  by_cases hlist : ∃ items, v.opened = .list items
  · obtain ⟨items, hlist⟩ := hlist
    rw [readDeny_list hlist, mapError_eq_ok, Datum.mapM_shown_eq_ok_iff]
    constructor
    · rintro ⟨hall, rfl⟩
      exact .list hlist hall
    · intro h
      cases h with
      | empty hempty =>
        rw [isEmpty_list hlist, List.isEmpty_iff] at hempty
        simp [hempty]
      | list hlist' hall =>
        cases hlist.symm.trans hlist'
        exact ⟨hall, rfl⟩
  · have hnot : ∀ items, v.opened ≠ .list items := not_exists.1 hlist
    rw [readDeny_of_not_list hnot]
    constructor
    · intro h
      split_ifs at h with hempty
      cases h
      exact .empty hempty
    · intro h
      cases h with
      | empty hempty => rw [if_pos hempty]
      | list hlist' => exact absurd hlist' (hnot _)

theorem reads_deny : Reads readDeny IsDenyList denyFault where
  ok_iff _ _ := readDeny_eq_ok_iff
  refuses v f h := by
    unfold readDeny at h
    unfold denyFault
    generalize v.opened = raw at h
    cases raw with
    | list items =>
      obtain ⟨⟨⟩, -, rfl⟩ := mapError_eq_error.1 h
      rfl
    | _ =>
      dsimp only at h
      split_ifs at h
      cases h
      rfl

theorem reads_cap : Reads readCap IsCap .badCap where
  ok_iff v cap := by
    constructor
    · intro h
      unfold readCap at h
      split at h
      · split_ifs at h with hn
        cases h
        exact .whole hn
      · cases h
    · rintro ⟨h⟩
      rw [readCap, if_pos h]
  refuses v f h := by
    unfold readCap at h
    split at h
    · split_ifs at h
      cases h
      rfl
    · cases h
      rfl

theorem isSeverity_int_iff {n : Int} {s : Severity} :
    IsSeverity (.int n) s ↔ Severity.ofDatum? (.int n) = some s := by
  rw [Severity.ofDatum?_int_eq_some_iff]
  constructor
  · rintro ⟨⟩
    rfl
  · rintro rfl
    exact .level s

theorem isSeverity_text_iff {t : Text} {s : Severity} :
    IsSeverity (.text t) s ↔ Severity.ofName? t = some s := by
  rw [Severity.ofName?_eq_some_iff]
  constructor
  · rintro (_ | h)
    exact h
  · exact .name

theorem reads_severity : Reads readSeverity IsSeverity severityFault where
  ok_iff v s := by
    cases v with
    | int n =>
      rw [isSeverity_int_iff, readSeverity]
      cases Severity.ofDatum? (.int n) <;> simp
    | text t =>
      rw [isSeverity_text_iff, readSeverity]
      cases Severity.ofName? t <;> simp
    | _ =>
      refine iff_of_false (by simp [readSeverity]) ?_
      rintro ⟨⟩
  refuses v f h := by
    unfold readSeverity at h
    split at h
    · cases h
      rfl
    · split at h <;> cases h
      rfl
    · split at h <;> cases h
      rfl
    · cases h
      simp [severityFault]

theorem reads_base : Reads readBase IsBase fun _ => .baseNotMapping where
  ok_iff v base := by
    unfold readBase
    constructor
    · intro h
      split_ifs at h with hmap hempty
      · cases h
        exact .map hmap
      · cases h
        exact .empty hempty (by simpa using hmap)
    · intro h
      cases h with
      | map hmap => rw [if_pos hmap]
      | empty hempty hnot => rw [hnot, hempty]; rfl
  refuses v f h := by
    unfold readBase at h
    split_ifs at h
    cases h
    rfl

/-! ## Keys -/

/-- Whatever the default, a key is sound when it states something. -/
theorem sound_iff {α : Type} {is : Datum → α → Prop} {v : Option Datum} (default : α) :
    Sound is v ↔ ∃ a, States is default v a := by
  cases v with
  | none => simp [Sound, States]
  | some v => simp [Sound, States]

section Keys

variable {α : Type} {reader : Datum → Except SettingsFault α} {is : Datum → α → Prop}
  {fault : Datum → SettingsFault} {d : Datum} {key : Text} {default : α}

theorem member?_of_isMap (h : d.isMap = true) : d.member? key = .ok (d.get? key) := by
  unfold Datum.isMap at h
  unfold Datum.member? Datum.get?
  generalize d.opened = raw at h
  cases raw with
  | map => rfl
  | _ => cases h

theorem readOr_eq (h : d.isMap = true) : readOr d key default reader =
    match d.get? key with
    | none => .ok default
    | some v => reader v := by
  rw [readOr, member?_of_isMap h]
  rfl

theorem Reads.readOr_eq_ok_iff (hreads : Reads reader is fault) (h : d.isMap = true) {a : α} :
    readOr d key default reader = .ok a ↔ States is default (d.get? key) a := by
  rw [readOr_eq h]
  cases d.get? key with
  | none => simp [States, eq_comm]
  | some v => exact hreads.ok_iff v a

theorem Reads.exists_readOr_iff (hreads : Reads reader is fault) (h : d.isMap = true)
    (default : α) : (∃ a, readOr d key default reader = .ok a) ↔ Sound is (d.get? key) := by
  rw [sound_iff default]
  exact exists_congr fun _ => hreads.readOr_eq_ok_iff h

theorem Reads.readOr_eq_error_iff (hreads : Reads reader is fault) (h : d.isMap = true)
    {f : SettingsFault} : readOr d key default reader = .error f ↔
      ∃ v, d.get? key = some v ∧ (∀ a, ¬is v a) ∧ fault v = f := by
  rw [readOr_eq h]
  cases d.get? key with
  | none => simp
  | some v =>
    constructor
    · intro herror
      refine ⟨v, rfl, ?_, (hreads.refuses v f herror).symm⟩
      intro a ha
      cases herror.symm.trans ((hreads.ok_iff v a).2 ha)
    · rintro ⟨v', hv', hnot, rfl⟩
      cases hv'
      cases hv : reader v with
      | ok a => exact absurd ((hreads.ok_iff v a).1 hv) (hnot a)
      | error f =>
        show reader v = _
        rw [hv, hreads.refuses v f hv]

end Keys

/-! ## All keys -/

/-- The keys that settings are stated under. -/
def keys : List Text :=
  ["deny_list", "max_config_combinations", "default_severity", "base_config"]

/-- Settings that everything behind them can work with. -/
structure IsValid (s : Settings) : Prop where
  cap : ∃ n : Int, 1 ≤ n ∧ s.cap = .whole n
  base : s.base.isMap = true

theorem IsValid.isProper {s : Settings} (h : s.IsValid) : s.IsProper where
  cap := by
    obtain ⟨n, -, hcap⟩ := h.cap
    rw [hcap]
    rfl
  base := h.base

variable {d : Datum}

theorem Stated.isValid {s : Settings} (h : Stated d s) : s.IsValid where
  cap := by
    have hcap := h.cap
    cases hv : d.get? "max_config_combinations" with
    | none =>
      rw [hv] at hcap
      exact ⟨16, by decide, hcap⟩
    | some v =>
      have his : IsCap v s.cap := by simpa [hv, States] using hcap
      cases hcap' : s.cap with
      | whole n =>
        rw [hcap'] at his
        obtain ⟨hn⟩ := his
        exact ⟨n, hn, rfl⟩
      | value =>
        rw [hcap'] at his
        cases his
  base := by
    have hbase := h.base
    cases hv : d.get? "base_config" with
    | none =>
      rw [hv] at hbase
      rw [show s.base = .map [] from hbase]
      rfl
    | some v =>
      have his : IsBase v s.base := by simpa [hv, States] using hbase
      generalize s.base = base at his
      cases his with
      | map hmap => exact hmap
      | empty => rfl

theorem read_eq_ok_iff (h : d.isMap = true) {s : Settings} : read d = .ok s ↔ Stated d s := by
  simp only [read, bind_eq_ok, reads_deny.readOr_eq_ok_iff h, reads_cap.readOr_eq_ok_iff h,
    reads_severity.readOr_eq_ok_iff h, reads_base.readOr_eq_ok_iff h]
  constructor
  · rintro ⟨deny, hdeny, cap, hcap, severity, hseverity, base, hbase, hs⟩
    cases hs
    exact ⟨hdeny, hcap, hseverity, hbase⟩
  · rintro ⟨hdeny, hcap, hseverity, hbase⟩
    exact ⟨_, hdeny, _, hcap, _, hseverity, _, hbase, rfl⟩

theorem exists_read_iff (h : d.isMap = true) : (∃ s, read d = .ok s) ↔
    Sound IsDenyList (d.get? "deny_list") ∧ Sound IsCap (d.get? "max_config_combinations") ∧
      Sound IsSeverity (d.get? "default_severity") ∧ Sound IsBase (d.get? "base_config") := by
  simp only [read_eq_ok_iff h, sound_iff [], sound_iff (Cap.whole 16), sound_iff Severity.error,
    sound_iff (Datum.map [])]
  constructor
  · rintro ⟨s, hs⟩
    exact ⟨⟨_, hs.deny⟩, ⟨_, hs.cap⟩, ⟨_, hs.severity⟩, ⟨_, hs.base⟩⟩
  · rintro ⟨⟨deny, hdeny⟩, ⟨cap, hcap⟩, ⟨severity, hseverity⟩, ⟨base, hbase⟩⟩
    exact ⟨⟨deny, cap, severity, base⟩, hdeny, hcap, hseverity, hbase⟩

/-- A fault comes from the first key that has one, and the keys before it pass. -/
theorem read_eq_error_iff (h : d.isMap = true) {f : SettingsFault} :
    read d = .error f ↔ Faulty d f := by
  constructor
  · intro herror
    rcases bind_eq_error.1 herror with herror | ⟨deny, hdeny, herror⟩
    · obtain ⟨v, hv, hnot, rfl⟩ := (reads_deny.readOr_eq_error_iff h).1 herror
      exact .deny hv hnot
    replace hdeny := (reads_deny.exists_readOr_iff h _).1 ⟨deny, hdeny⟩
    rcases bind_eq_error.1 herror with herror | ⟨cap, hcap, herror⟩
    · obtain ⟨v, hv, hnot, rfl⟩ := (reads_cap.readOr_eq_error_iff h).1 herror
      exact .cap hdeny hv hnot
    replace hcap := (reads_cap.exists_readOr_iff h _).1 ⟨cap, hcap⟩
    rcases bind_eq_error.1 herror with herror | ⟨severity, hseverity, herror⟩
    · obtain ⟨v, hv, hnot, rfl⟩ := (reads_severity.readOr_eq_error_iff h).1 herror
      exact .severity hdeny hcap hv hnot
    replace hseverity := (reads_severity.exists_readOr_iff h _).1 ⟨severity, hseverity⟩
    rcases bind_eq_error.1 herror with herror | ⟨base, -, herror⟩
    · obtain ⟨v, hv, hnot, rfl⟩ := (reads_base.readOr_eq_error_iff h).1 herror
      exact .base hdeny hcap hseverity hv hnot
    · cases herror
  -- the keys before the one at fault pass, so reading comes to it
  · intro hfault
    cases hfault with
    | deny hv hnot =>
      exact bind_eq_error.2 (.inl ((reads_deny.readOr_eq_error_iff h).2 ⟨_, hv, hnot, rfl⟩))
    | cap hdeny hv hnot =>
      obtain ⟨deny, hdeny⟩ := (reads_deny.exists_readOr_iff h []).2 hdeny
      refine bind_eq_error.2 (.inr ⟨deny, hdeny, ?_⟩)
      exact bind_eq_error.2 (.inl ((reads_cap.readOr_eq_error_iff h).2 ⟨_, hv, hnot, rfl⟩))
    | severity hdeny hcap hv hnot =>
      obtain ⟨deny, hdeny⟩ := (reads_deny.exists_readOr_iff h []).2 hdeny
      obtain ⟨cap, hcap⟩ := (reads_cap.exists_readOr_iff h (.whole 16)).2 hcap
      refine bind_eq_error.2 (.inr ⟨deny, hdeny, bind_eq_error.2 (.inr ⟨cap, hcap, ?_⟩)⟩)
      exact bind_eq_error.2 (.inl ((reads_severity.readOr_eq_error_iff h).2 ⟨_, hv, hnot, rfl⟩))
    | base hdeny hcap hseverity hv hnot =>
      obtain ⟨deny, hdeny⟩ := (reads_deny.exists_readOr_iff h []).2 hdeny
      obtain ⟨cap, hcap⟩ := (reads_cap.exists_readOr_iff h (.whole 16)).2 hcap
      obtain ⟨severity, hseverity⟩ := (reads_severity.exists_readOr_iff h .error).2 hseverity
      refine bind_eq_error.2 (.inr ⟨deny, hdeny, bind_eq_error.2 (.inr ⟨cap, hcap, ?_⟩)⟩)
      refine bind_eq_error.2 (.inr ⟨severity, hseverity, ?_⟩)
      exact bind_eq_error.2 (.inl ((reads_base.readOr_eq_error_iff h).2 ⟨_, hv, hnot, rfl⟩))

/-- A mapping can be asked for every key. -/
theorem Faulty.ne_kind {f : SettingsFault} (h : Faulty d f) (k : KindFault) : f ≠ .kind k := by
  cases h with
  | @deny v => unfold denyFault; split <;> simp
  | @severity v => unfold severityFault; split <;> simp
  | cap | base => simp

/-- Nothing but the values under the four keys counts. -/
theorem read_congr {d' : Datum} (h : d.isMap = true) (h' : d'.isMap = true)
    (hkeys : ∀ key ∈ keys, d'.get? key = d.get? key) : read d' = read d := by
  simp only [keys, List.forall_mem_cons] at hkeys
  obtain ⟨hdeny, hcap, hseverity, hbase, -⟩ := hkeys
  simp only [read, readOr_eq h, readOr_eq h', hdeny, hcap, hseverity, hbase]

/-- Of a mapping, the settings that it states are read if its values have the right form, and they
are valid. Otherwise comes the fault of the first key that has one. Nothing but the values under the
four keys counts. -/
theorem read_decides (h : d.isMap = true) :
    ((∃ s, read d = .ok s) ↔
      Sound IsDenyList (d.get? "deny_list") ∧ Sound IsCap (d.get? "max_config_combinations") ∧
        Sound IsSeverity (d.get? "default_severity") ∧ Sound IsBase (d.get? "base_config")) ∧
    (∀ s, read d = .ok s ↔ Stated d s) ∧ (∀ s, read d = .ok s → s.IsValid) ∧
    (∀ f, read d = .error f ↔ Faulty d f) ∧ (∀ k, read d ≠ .error (.kind k)) ∧
    ∀ d', d'.isMap = true → (∀ key ∈ keys, d'.get? key = d.get? key) → read d' = read d := by
  refine ⟨exists_read_iff h, fun s => read_eq_ok_iff h, ?_, fun f => read_eq_error_iff h, ?_, ?_⟩
  · intro s hs
    exact ((read_eq_ok_iff h).1 hs).isValid
  · intro k hk
    exact ((read_eq_error_iff h).1 hk).ne_kind k rfl
  · intro d' h' hkeys
    exact read_congr h h' hkeys

/-- A severity in letters of either case, and an empty value for the base. -/
theorem read_decides_warn : read (.map [(.text "default_severity", .text "Warn"),
    (.text "base_config", .int 0)]) = .ok { severity := .warn } := by
  refine ((read_decides rfl).2.1 _).2 ⟨rfl, rfl, .name ?_, .empty rfl rfl⟩
  decide

/-- The denial of a number. -/
def denial (n : Int) : Datum := .map [(.text "deny_list", .list [.int n])]

theorem get?_denial_deny (n : Int) : (denial n).get? "deny_list" = some (.list [.int n]) := rfl

theorem get?_denial (n : Int) {key : Text} (h : key ∈ keys.tail) : (denial n).get? key = none := by
  simp only [keys, List.tail_cons, List.mem_cons, List.not_mem_nil, or_false] at h
  rcases h with rfl | rfl | rfl <;> rfl

theorem read_denial {n : Int} (h : isWritable n = false) :
    read (denial n) = .error (.unwritable ⟨⟩) := by
  have hnot : ∀ deny, ¬IsDenyList (.list [.int n]) deny := by
    intro deny hdeny
    cases hdeny with
    | empty hempty => cases hempty
    | list hlist hall =>
      cases hlist
      have hlong : (Datum.int n).writable = false := h
      cases hlong.symm.trans (hall (.int n) (List.mem_singleton_self _))
  exact (read_eq_error_iff rfl).2 (.deny (get?_denial_deny n) hnot)

/-- The least number too long to be written out cannot be denied, though a list is all that is asked
for and no other key is there. -/
theorem denial_refused : (denial (posPow 10 digitLimit)).isMap = true ∧
    (denial (posPow 10 digitLimit)).get? "deny_list" = some (.list [.int (posPow 10 digitLimit)]) ∧
    (∀ key ∈ keys.tail, (denial (posPow 10 digitLimit)).get? key = none) ∧
    ∀ s, read (denial (posPow 10 digitLimit)) ≠ .ok s := by
  refine ⟨rfl, get?_denial_deny _, fun key => get?_denial _, ?_⟩
  intro s hs
  cases hs.symm.trans (read_denial isWritable_posPow)

end Settings

end RuleFit

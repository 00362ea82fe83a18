import RuleFit.Datum.Equality

/-!
# Linter engines

An engine checks a source text under a configuration and answers with diagnostics, of which only the
rule matters here. It may keep a state between calls. Besides finite answers there are three ways to
fail: the call fails, or there is no answer at all, or the answer breaks off while it is read.
-/

namespace RuleFit

/-- The rule of a diagnostic; a problem that belongs to no rule has none. -/
abbrev Diagnostic := Option Text

/-- What comes of a call. -/
inductive Reply where
  | diagnostics (found : List Diagnostic)
  | failed (message : Text)
  | missing
  | broken (found : List Diagnostic) (message : Text)
  deriving DecidableEq

/-- A call: the source text and the configuration. -/
structure Call where
  source : Text
  config : Datum
  deriving DecidableEq

/-- An engine with states in `σ`. -/
structure Engine (σ : Type) where
  verify : σ → Call → Reply × σ

/-- The engine that answers every call alike, whenever it comes. -/
def Engine.stateless (answer : Call → Reply) : Engine Unit :=
  ⟨fun _ call => (answer call, ())⟩

end RuleFit

import RuleFit.Text.Stream
import RuleFit.Yaml.Value

/-!
# YAML documents from bytes

A document is read in blocks of 4096 characters, the first two of them before anything else. Every
block must be text that a document may hold. A fault in a later block shows only if reading comes to
it: a document that has a flaw before is said to have that flaw.
-/

namespace RuleFit.Yaml

/-- A text as far as it can be read, and the fault that it breaks off at, if it does. -/
structure Source where
  text : List Char
  fault : Option Fault

namespace Source

/-- The number of characters in a block. -/
def blockSize : Nat := 4096

/-- Reads the next block. -/
def readBlock (s : Text.Stream) : Except Fault (List Char × Text.Stream) :=
  (s.read blockSize).mapError .encoding

/-- Reads the first blocks, which have to be all right together. -/
def readFirst (s : Text.Stream) : Except Fault (List Char × Text.Stream) := do
  let (first, s) ← readBlock s
  let (second, s) ← readBlock s
  let text := first ++ second
  if text.all isAllowed then return (text, s) else throw (.flaw .unprintable)

/-- Reads the blocks behind `done`, up to the end of the text or a fault. -/
def readOn (fuel : Nat) (done : List Char) (s : Text.Stream) : Source :=
  match fuel with
  | 0 => ⟨done, none⟩
  | fuel + 1 =>
    match readBlock s with
    | .error f => ⟨done, some f⟩
    | .ok (block, next) =>
      if block.isEmpty then ⟨done, none⟩
      else if block.all isAllowed then readOn fuel (done ++ block) next
      else ⟨done, some (.flaw .unprintable)⟩

/-- The text that some bytes encode. -/
def ofBytes (bytes : List UInt8) : Source :=
  match readFirst { bytes } with
  | .error f => ⟨[], some f⟩
  | .ok (text, s) => readOn (bytes.length + 1) text s

end Source

/-- The value of the document that some bytes encode. -/
def loadBytes (bytes : List UInt8) : Except Fault Datum :=
  let source := Source.ofBytes bytes
  load source.text source.fault

end RuleFit.Yaml

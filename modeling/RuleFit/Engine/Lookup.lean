import RuleFit.Text.Quoted

/-!
# Looking engines up

An engine is named by a module and a member of it, with a colon between them; points lead on to
members of members. Behind the name stands an object, which is an engine or not, or a maker, which
makes an object or fails to. Modules have no parts that are modules.
-/

namespace RuleFit

/-- Something that a module exports, where engines are of type `ε`. -/
inductive Export (ε : Type) where
  | object (engine : Option ε) (members : List (Text × Export ε))
  | maker (made : Except Text (Option ε))

/-- A module and what it exports. -/
structure EngineModule (ε : Type) where
  name : Text
  members : List (Text × Export ε)

/-- Why a name leads to no engine. -/
inductive LookupFault where
  | notASpec (spec : Text)
  | relative (module : Text)
  | noModule (module missing : Text)
  | notAPackage (module parent missing : Text)
  | noAttribute (module member : Text)
  | notMade (spec cause : Text)
  | notAnEngine (spec : Text)
  deriving DecidableEq

def LookupFault.message : LookupFault → Text
  | .notASpec spec => "Engine must be given as 'module:attribute', got '" ++ spec ++ "'"
  | .relative m =>
    "the 'package' argument is required to perform a relative import for " ++ Text.quoted m
  | .noModule m missing =>
    "Cannot import engine module '" ++ m ++ "': No module named " ++ Text.quoted missing
  | .notAPackage m parent missing =>
    "Cannot import engine module '" ++ m ++ "': No module named " ++ Text.quoted missing ++ "; "
      ++ Text.quoted parent ++ " is not a package"
  | .noAttribute m member => "Module '" ++ m ++ "' has no attribute '" ++ member ++ "'"
  | .notMade spec cause => "Cannot create engine from '" ++ spec ++ "': " ++ cause
  | .notAnEngine spec => "'" ++ spec ++ "' does not provide a verify(source, config) method"

namespace EngineModule

variable {ε : Type}

/-- Splits a name at its first colon; both sides must hold something. -/
def splitSpec? (spec : Text) : Option (Text × Text) :=
  let name := spec.points.takeWhile (· ≠ .char ':')
  let member := spec.points.drop (name.length + 1)
  if name.isEmpty || member.isEmpty then none else some (⟨name⟩, ⟨member⟩)

/-- Finds a module by its name. -/
def find (modules : List (EngineModule ε)) (name : Text) :
    Except LookupFault (EngineModule ε) :=
  match modules.find? fun m => m.name == name with
  | some m => .ok m
  | none =>
    match name.splitOn '.' with
    | ⟨[]⟩ :: _ => .error (.relative name)
    | first :: second :: _ =>
      if modules.any fun m => m.name == first then
        .error (.notAPackage name first (first ++ "." ++ second))
      else .error (.noModule name first)
    | _ => .error (.noModule name name)

/-- Follows names from member to member. -/
def follow? (members : List (Text × Export ε)) : List Text → Option (Export ε)
  | [] => none
  | [part] => members.lookup part
  | part :: parts =>
    match members.lookup part with
    | some (.object _ inner) => follow? inner parts
    | _ => none

/-- The engine that a name leads to. -/
def resolve (modules : List (EngineModule ε)) (spec : Text) : Except LookupFault ε :=
  match splitSpec? spec with
  | none => .error (.notASpec spec)
  | some (name, member) => do
    let m ← find modules name
    match follow? m.members (member.splitOn '.') with
    | none => .error (.noAttribute name member)
    | some (.maker (.error cause)) => .error (.notMade spec cause)
    | some (.maker (.ok (some e))) | some (.object (some e) _) => .ok e
    | some (.maker (.ok none)) | some (.object none _) => .error (.notAnEngine spec)

end EngineModule

end RuleFit

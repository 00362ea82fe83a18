import RuleFit.Catalog.Basic
import RuleFit.Files
import RuleFit.Yaml.Source

/-!
# Catalog files

A catalog file is a YAML document. Its path names the catalog in messages.
-/

namespace RuleFit

/-- Why a file gives no catalog. What is no path at all, a broken encoding and a scalar without a
value are not faults of the catalog. -/
inductive CatalogFileFault where
  | unreadable (path : Text) (fault : FileFault)
  | notYaml (path : Text) (flaw : Yaml.Flaw)
  | catalog (fault : CatalogFault)
  | notAPath (fault : PathFault)
  | undecodable (fault : Text.Utf8Fault)
  | scalar (fault : Yaml.ScalarFault)
  deriving DecidableEq

def CatalogFileFault.message : CatalogFileFault → Text
  | .unreadable path f => "Cannot read rule catalog " ++ path ++ ": " ++ f.message path
  | .notYaml path _ => "Invalid YAML in rule catalog " ++ path
  | .catalog f => f.message
  | .notAPath f => f.message
  | .undecodable f => f.message
  | .scalar f => f.message

/-- Whether the catalog is at fault. -/
def CatalogFileFault.isOfCatalog : CatalogFileFault → Bool
  | .unreadable .. | .notYaml .. | .catalog _ => true
  | .notAPath _ | .undecodable _ | .scalar _ => false

/-- Whether a run answers for a fault and does not break off at it. -/
def CatalogFileFault.isAnswered : CatalogFileFault → Bool
  | .scalar f => f.saysNoValue
  | _ => true

/-- Reads the catalog file at a path. -/
def Catalog.load (fs : FileSystem) (path : Text) : Except CatalogFileFault Catalog :=
  let shown := showPath path
  match readBytes fs shown with
  | .error (.notAPath f) => .error (.notAPath f)
  | .error f => .error (.unreadable shown f)
  | .ok bytes =>
    match Yaml.loadBytes bytes with
    | .error (.flaw f) => .error (.notYaml shown f)
    | .error (.encoding f) => .error (.undecodable f)
    | .error (.scalar f) => .error (.scalar f)
    | .ok d => (Catalog.read shown d).mapError .catalog

end RuleFit

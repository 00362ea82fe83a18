import RuleFit.Text.Utf8

/-!
# Files

The program reads files by path and sees a file, a directory or a device there, or a fault. A text
with a zero character or with a surrogate in it is no path. `FileTree` lists what is below some
directory; `..` steps back from a directory, and names and paths have a greatest length. A file
system is made of the tree below the working directory and the one below the root. How they hang
together is not known: above the working directory there are directories, and nothing else beside
it.

A path is shown without the parts that say nothing: empty ones and single points.
-/

namespace RuleFit

/-- What is at a path. A device is no file, and reading it gives no bytes. -/
inductive Node where
  | file (bytes : List UInt8)
  | directory
  | device
  deriving DecidableEq

/-- Why a text is no path: it holds a zero character, or has no encoding. -/
inductive PathFault where
  | zero
  | surrogate (fault : Text.EncodeFault)
  deriving DecidableEq

def PathFault.message : PathFault → Text
  | .zero => "embedded null byte"
  | .surrogate f => f.message

/-- Why a path leads nowhere, or not to a file. -/
inductive FileFault where
  | notFound
  | notDirectory
  | isDirectory
  | nameTooLong
  | notAPath (fault : PathFault)
  deriving DecidableEq

def FileFault.message (path : Text) : FileFault → Text
  | .notFound => "[Errno 2] No such file or directory: " ++ path.quoted
  | .notDirectory => "[Errno 20] Not a directory: " ++ path.quoted
  | .isDirectory => "[Errno 21] Is a directory: " ++ path.quoted
  | .nameTooLong => "[Errno 36] File name too long: " ++ path.quoted
  | .notAPath f => f.message

/-- What is found at every path. -/
abbrev FileSystem := Text → Except FileFault Node

/-- What is at a path. -/
def look (fs : FileSystem) (path : Text) : Except FileFault Node :=
  match path.pathFault? with
  | some f => .error (.notAPath (.surrogate f))
  | none => if path.points.contains (.char '\x00') then .error (.notAPath .zero) else fs path

/-! ## Paths -/

/-- The parts of a path between its slashes. -/
def pathParts (path : Text) : List Text := path.splitOn '/'

/-- The parts of a path that say something. -/
def namedParts (path : Text) : List Text :=
  (pathParts path).filter fun p => !p.isEmpty && p != "."

/-- A path as it is shown. Exactly two leading slashes are kept as they are. -/
def showPath (path : Text) : Text :=
  let root : Text :=
    match (path.points.takeWhile (· == .char '/')).length with
    | 0 => ""
    | 2 => "//"
    | _ => "/"
  let shown := root ++ Text.intercalate "/" (namedParts path)
  if shown.isEmpty then "." else shown

/-! ## Reading -/

/-- Why a file gives no text. -/
inductive ReadFault where
  | file (fault : FileFault)
  | encoding (fault : Text.Utf8Fault)
  deriving DecidableEq

def ReadFault.message (path : Text) : ReadFault → Text
  | .file f => f.message path
  | .encoding f => f.message

/-- The bytes of a file. -/
def readBytes (fs : FileSystem) (path : Text) : Except FileFault (List UInt8) :=
  match look fs path with
  | .ok (.file bytes) => .ok bytes
  | .ok .device => .ok []
  | .ok .directory => .error .isDirectory
  | .error f => .error f

/-- The text of a file. -/
def readText (fs : FileSystem) (path : Text) : Except ReadFault Text := do
  let bytes ← (readBytes fs path).mapError .file
  (Text.ofBytes bytes).mapError .encoding

/-- Whether there is a file at a path. With a name that is too long there is no telling. -/
def isFile (fs : FileSystem) (path : Text) : Except FileFault Bool :=
  match look fs path with
  | .ok (.file _) => .ok true
  | .error .nameTooLong => .error .nameTooLong
  | _ => .ok false

/-! ## Listed file systems -/

/-- The name of a file or directory, in bytes. Different texts can be the same name. -/
abbrev FileName := List UInt8

/-- The names that a path leads along. -/
def fileNames (path : Text) : List FileName := (namedParts path).map Text.nameBytes

/-- The name that leads back to the directory above. -/
def upName : FileName := Text.nameBytes ".."

/-- The place that names lead to from another, where every name but the last is a directory. -/
def placeFrom (place : List FileName) : List FileName → List FileName
  | [] => place
  | name :: names =>
    if name = upName then placeFrom place.dropLast names else placeFrom (place ++ [name]) names

/-- Files and directories by path; the directories that a path leads through are there too. -/
abbrev FileTree := List (Text × Node)

namespace FileTree

/-- Whether a path leads through a place. -/
def leadsThrough (path : Text) (place : List FileName) : Bool :=
  let names := fileNames path
  (List.range (names.length + 1)).any fun n => placeFrom [] (names.take n) == place

/-- What is at a place, given by the names that lead to it. Of two entries for one place the later
counts. -/
def at? (tree : FileTree) (place : List FileName) : Option Node :=
  match tree.reverse.find? fun e => placeFrom [] (fileNames e.1) == place with
  | some e => some e.2
  | none =>
    if place.isEmpty || tree.any fun e => leadsThrough e.1 place then some .directory else none

/-- The greatest number of bytes in a name. -/
def nameLimit : Nat := 255

/-- The number of bytes that a path stays below. -/
def pathLimit : Nat := 4096

/-- What is outside of a tree: the directories above it, and nothing else. -/
def outside : List FileName → Except FileFault Node
  | [] => .ok .directory
  | name :: names =>
    if name = upName then outside names
    else .error (if nameLimit < name.length then .nameTooLong else .notFound)

/-- Goes on from a place; `rooted` says whether nothing is above the tree. -/
def walk (tree : FileTree) (rooted : Bool) (place : List FileName) :
    List FileName → Except FileFault Node
  | [] =>
    match tree.at? place with
    | some n => .ok n
    | none => .error .notFound
  | name :: names =>
    match tree.at? place with
    | none => .error .notFound
    | some (.file _) | some .device => .error .notDirectory
    | some .directory =>
      if name = upName then
        if place.isEmpty && !rooted then outside names
        else walk tree rooted place.dropLast names
      else if nameLimit < name.length then .error .nameTooLong
      else walk tree rooted (place ++ [name]) names

/-- Whether a path says that it leads to a directory. -/
def endsAsDirectory (path : Text) : Bool :=
  match (pathParts path).getLast? with
  | some last => last.isEmpty || last == "."
  | none => false

/-- The file system with one tree below the root and one below the working directory. The empty path
leads nowhere. -/
def system (root tree : FileTree) : FileSystem := fun path =>
  let found :=
    if path.startsWith "/" then root.walk true [] (fileNames path)
    else tree.walk false [] (fileNames path)
  if path.isEmpty then .error .notFound
  else if pathLimit ≤ path.nameBytes.length then .error .nameTooLong
  else
    match found with
    | .ok .directory => .ok .directory
    | .ok n => if endsAsDirectory path then .error .notDirectory else .ok n
    | .error f => .error f

end FileTree

end RuleFit

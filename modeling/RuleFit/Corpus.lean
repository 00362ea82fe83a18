import RuleFit.Files
import RuleFit.Trial

/-!
# The corpus

The sample code of a run: the texts of the files at some paths, in order. A file that cannot be read
is passed over with a word on why; something that is no path ends the corpus.
-/

namespace RuleFit

/-- The sample at a path. -/
def sampleAt (fs : FileSystem) (path : Text) : Except FileFault Sample :=
  let shown := showPath path
  match readText fs shown with
  | .ok source => .ok (.readable shown source)
  | .error (.file (.notAPath f)) => .error (.notAPath f)
  | .error f => .ok (.unreadable shown (f.message shown))

/-- The samples at some paths. -/
def corpusOf (fs : FileSystem) (paths : List Text) : Except FileFault (List Sample) :=
  paths.mapM (sampleAt fs)

/-- The name and the text of a sample that could be read. -/
def Sample.pair? : Sample → Option (Text × Text)
  | .readable file source => some (file, source)
  | .unreadable .. => none

/-- The event of a sample that could not be read. -/
def Sample.event? : Sample → Option Event
  | .readable .. => none
  | .unreadable file cause => some (.fileUnreadable file cause)

end RuleFit

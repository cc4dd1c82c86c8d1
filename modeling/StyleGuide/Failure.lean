import StyleGuide.Disk.Trouble
import StyleGuide.Path
import StyleGuide.Pattern

/-!
What ends a scan without a result.
-/

namespace StyleGuide

inductive Failure where
  | notFound (path : Path)
  | notADirectory (path : Path)
  | notAFile (path : Path)
  | unreadable (path : Path) (cause : Disk.Trouble)
  | badPattern (pattern : Text) (cause : Pattern.Error)
  | malformedParameter (path : Path) (line : Text)
  | missingParameter (path : Path) (name : Text)
  deriving DecidableEq, Repr

def Failure.message : Failure → Text
  | notFound path => Bytes.shown path ++ " does not exist".toList
  | notADirectory path => Bytes.shown path ++ " is not a directory".toList
  | notAFile path => Bytes.shown path ++ " is not a file".toList
  | unreadable path cause =>
    "failed to read ".toList ++ Bytes.shown path ++ ": ".toList ++ cause.message
  | badPattern pattern cause =>
    "invalid ignore pattern '".toList ++ pattern ++ "': ".toList ++ cause.message
  | malformedParameter path line =>
    Bytes.shown path ++ ": malformed parameter line: ".toList ++ line
  | missingParameter path name =>
    Bytes.shown path ++ ": documentation block is missing required parameter @".toList ++ name

/-- What is behind a failure, if that is not told by the failure alone. -/
def Failure.cause? : Failure → Option Text
  | unreadable _ cause => some cause.message
  | badPattern _ cause => some cause.message
  | _ => none

end StyleGuide

import StyleGuide.Path

/-!
What is reported and does not end a scan.
-/

namespace StyleGuide

inductive Warning where
  | malformedParameter (path : Path) (line : Text)
  | orphanLine (path : Path) (line : Text)
  | missingParent (path : Path) (name parent category : Text)
  | emptyParent (path : Path) (name param : Text)
  | missingId (path : Path)
  | duplicateId (path : Path) (id : Text)
  | emptyMarkup (path : Path)
  /-- A directory that cannot be listed, and why. -/
  | unlisted (cause : Text)
  deriving DecidableEq, Repr

def Warning.message : Warning → Text
  | malformedParameter path line =>
    Bytes.shown path ++ ": dropped malformed parameter line: ".toList ++ line
  | orphanLine path line =>
    Bytes.shown path ++ ": dropped line outside any parameter: ".toList ++ line
  | missingParent path name parent category =>
    Bytes.shown path ++ ": '".toList ++ name ++ "' modifies '".toList ++ parent ++
      "', which is not in category '".toList ++ category ++ ['\'']
  | emptyParent path name param =>
    Bytes.shown path ++ ": '".toList ++ name ++ "' has @".toList ++ param ++
      " without a parent name, kept as a top-level record".toList
  | missingId path => Bytes.shown path ++ ": record has no usable @id, skipped".toList
  | duplicateId path id =>
    Bytes.shown path ++ ": @id '".toList ++ id ++
      "' was already documented, previous entry replaced".toList
  | emptyMarkup path => Bytes.shown path ++ ": @markup has no file name, ignored".toList
  | unlisted cause => "skipped unreadable entry: ".toList ++ cause

end StyleGuide

import StyleGuide.Text.Basic

/-!
Why an operation on files fails.
-/

namespace StyleGuide.Disk

inductive Trouble where
  | noEntry
  | permissionDenied
  | alreadyExists
  | notDirectory
  | isDirectory
  | nameTooLong
  | tooManyLinks
  /-- The path holds a NUL byte, which no file name has. -/
  | nulInPath
  /-- The file is there and its bytes spell no text. -/
  | notText
  /-- Trouble with something else than a file. -/
  | other (reason : Text)
  deriving DecidableEq, Repr

def Trouble.message : Trouble → Text
  | noEntry => "No such file or directory (os error 2)".toList
  | permissionDenied => "Permission denied (os error 13)".toList
  | alreadyExists => "File exists (os error 17)".toList
  | notDirectory => "Not a directory (os error 20)".toList
  | isDirectory => "Is a directory (os error 21)".toList
  | nameTooLong => "File name too long (os error 36)".toList
  | tooManyLinks => "Too many levels of symbolic links (os error 40)".toList
  | nulInPath => "file name contained an unexpected NUL byte".toList
  | notText => "stream did not contain valid UTF-8".toList
  | other reason => reason

end StyleGuide.Disk

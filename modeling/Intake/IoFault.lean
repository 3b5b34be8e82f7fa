/-!
What a file system, or the host of a listener, refuses.
-/

namespace Intake

/-- Why an operation on files or on an address was refused. -/
inductive IoFault where
  | notFound
  | permissionDenied
  | alreadyExists
  | notADirectory
  | isADirectory
  | nameTooLong
  | tooManyLinks
  /-- A name held a NUL, so it was not even passed on. -/
  | nulInName
  /-- Any other refusal, in the words it came with. -/
  | other (message : String)
deriving DecidableEq, Repr

/-- The words of a refusal. -/
def IoFault.message : IoFault → String
  | .notFound => "No such file or directory (os error 2)"
  | .permissionDenied => "Permission denied (os error 13)"
  | .alreadyExists => "File exists (os error 17)"
  | .notADirectory => "Not a directory (os error 20)"
  | .isADirectory => "Is a directory (os error 21)"
  | .nameTooLong => "File name too long (os error 36)"
  | .tooManyLinks => "Too many levels of symbolic links (os error 40)"
  | .nulInName => "file name contained an unexpected NUL byte"
  | .other message => message

end Intake

namespace TemplateMarkup

-- Why a file could not be read as text.
inductive ReadFailure where
  | notFound
  | directory
  -- A file stands where a path goes on.
  | notDirectory
  -- A path, or one of the names in it, is longer than file systems allow.
  | nameTooLong
  | nulInPath
  | notUtf8
  | other (message : String)
  deriving DecidableEq, Repr

namespace ReadFailure

def message : ReadFailure → String
  | .notFound => "No such file or directory (os error 2)"
  | .directory => "Is a directory (os error 21)"
  | .notDirectory => "Not a directory (os error 20)"
  | .nameTooLong => "File name too long (os error 36)"
  | .nulInPath => "file name contained an unexpected NUL byte"
  | .notUtf8 => "stream did not contain valid UTF-8"
  | .other message => message

end ReadFailure

end TemplateMarkup

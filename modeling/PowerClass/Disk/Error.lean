/-!
# PowerClass.Disk.Error

Why an operation on a file fails. A device driver may answer a read with one of the three codes
`noData`, `noDevice` and `tryAgain`; ordinary files never do.
-/

namespace PowerClass

/-- Why an operation on a file fails. -/
inductive FileError where
  | notFound
  | alreadyExists
  | notDirectory
  | isDirectory
  | notText
  | noData
  | noDevice
  | tryAgain
  | other (text : String)
  deriving DecidableEq

namespace FileError

def message : FileError → String
  | .notFound => "No such file or directory (os error 2)"
  | .alreadyExists => "File exists (os error 17)"
  | .notDirectory => "Not a directory (os error 20)"
  | .isDirectory => "Is a directory (os error 21)"
  | .notText => "stream did not contain valid UTF-8"
  | .noData => "No data available (os error 61)"
  | .noDevice => "No such device (os error 19)"
  | .tryAgain => "Resource temporarily unavailable (os error 11)"
  | .other text => text

end FileError
end PowerClass

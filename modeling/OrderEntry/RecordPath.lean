/-! Opening the file of a recording. The folders that the path names before its last name are created;
then the path is followed as it is written, and the file at its end is created or appended to. -/

namespace OrderEntry.RecordPath

inductive OpenError
  | notFound
  | isDirectory
  | invalidInput
  | invalidFilename
  deriving DecidableEq, Repr

def OpenError.name : OpenError → String
  | notFound => "NotFound"
  | isDirectory => "IsADirectory"
  | invalidInput => "InvalidInput"
  | invalidFilename => "InvalidFilename"

/-- With the number and the words that the operating system has for it. A path that cannot be handed
to the system has no number. -/
def OpenError.detail : OpenError → String
  | notFound => "Os \x7b code: 2, kind: NotFound, message: \"No such file or directory\" \x7d"
  | isDirectory => "Os \x7b code: 21, kind: IsADirectory, message: \"Is a directory\" \x7d"
  | invalidInput =>
    "Error \x7b kind: InvalidInput, message: \"file name contained an unexpected NUL byte\" \x7d"
  | invalidFilename => "Os \x7b code: 36, kind: InvalidFilename, message: \"File name too long\" \x7d"

/-- In bytes. -/
def maxName : Nat := 255

/-- In bytes. -/
def maxPath : Nat := 4095

def segments (path : String) : List String := (path.toList.splitOn '/').map String.ofList

def isIdle (segment : String) : Bool := segment == "" || segment == "."

def steps (path : String) : List String := (segments path).filter (!isIdle ·)

/-- A place, as the way to it from where paths start, the last step first. -/
abbrev Place := List String

def Place.go (p : Place) (step : String) : Place :=
  match step, p with
  | "..", [] => [".."]
  | "..", ".." :: _ => ".." :: p
  | "..", _ :: rest => rest
  | _, _ => step :: p

def passed (here : Place) : List String → List Place
  | [] => [here]
  | step :: steps => here :: passed (here.go step) steps

def tooLong (name : String) : Bool := maxName < name.utf8ByteSize

def hasNul (name : String) : Bool := name.contains '\x00'

def parent (path : String) : String :=
  let before := ((segments path).reverse.dropWhile isIdle).drop 1
  "/".intercalate (before.dropWhile isIdle).reverse

def createFolders (path : String) : Except OpenError (List Place) :=
  let names := (steps path).dropLast
  if names.any hasNul then .error .invalidInput
  else if maxPath < (parent path).utf8ByteSize || names.any tooLong then .error .invalidFilename
  else .ok (passed [] names)

/-- What opening a path gives. One that ends in a slash or in a segment with dots alone asks for a
folder, which is refused; a folder that would have to be there already may be missing. -/
def check (path : String) : Except OpenError Unit := do
  let folders ← createFolders path
  if hasNul path then throw .invalidInput
  if maxPath < path.utf8ByteSize then throw .invalidFilename
  match (steps path).getLast? with
  | none => throw (if path.isEmpty then .notFound else .isDirectory)
  | some last =>
    let ending := (segments path).reverse.takeWhile isIdle
    let isFolder := last == ".." || folders.contains ((steps path).foldl Place.go [])
    if !ending.isEmpty && ending.all (· == "") then throw .isDirectory
    if tooLong last then throw .invalidFilename
    if isFolder then throw .isDirectory
    if !ending.isEmpty then throw .notFound

end OrderEntry.RecordPath

namespace IdFactory.Server

/-!
# Looking up paths

A run sees a view of the file system: the files and directories below its
working directory, named relative to it, and some named by absolute paths.
The view lists each file under its name with its contents, and each
directory under its name with a final slash; the directories holding a
listed name exist as well.

A path is looked up as the system looks it up: its components are walked
from the working directory, or from the root for an absolute path. An empty
component and `.` stay where the walk is, `..` goes up, and any other name
must be found in the directory reached so far. A name of more than 255
bytes is too long, a name not listed is missing, and any component after a
file finds no directory, a final slash included. A path holding a NUL byte
cannot be given to the system at all, and one of 4096 bytes or more is too
long. Above the working directory lies a directory that lists nothing the
view can see.

Binding a socket creates its last component, so the walk stops before it:
the socket is refused where the name already stands, where it is `.` or
`..`, or where a final slash asks for a directory that is not there. A
socket path must also leave room for its terminating NUL among the 108
bytes of a socket address.
-/

/-- The files a run can see: each file under its name with its contents, and each directory
under its name with a final slash and no contents. -/
abbrev Files := List (String × List UInt8)

/-- Why the system refuses a path. -/
inductive PathError where
  | nulByte
  | notFound
  | notDirectory
  | nameTooLong
  | isDirectory
  deriving Repr, DecidableEq

/-- The message of a refused path, as the system words it. -/
def PathError.message : PathError → String
  | .nulByte => "file name contained an unexpected NUL byte"
  | .notFound => "No such file or directory (os error 2)"
  | .notDirectory => "Not a directory (os error 20)"
  | .nameTooLong => "File name too long (os error 36)"
  | .isDirectory => "Is a directory (os error 21)"

/-- What a path names: a file and its contents, or a directory. -/
inductive PathTarget where
  | file (contents : List UInt8)
  | directory
  deriving Repr, DecidableEq

/-- Where a walk stands: a directory of the view under its name (`""` for the working
directory, `"/"` for the root), a directory above the working directory, or a file. -/
inductive Place where
  | dir (name : String)
  | above
  | file (contents : List UInt8)
  deriving Repr, DecidableEq

/-- The longest name of one component, in bytes. -/
def maxNameLength : Nat := 255

/-- The length from which a whole path is too long, in bytes. -/
def maxPathLength : Nat := 4096

/-- The name under which a path is listed: the path without a leading `./`. -/
def listedName (path : String) : String :=
  if path.startsWith "./" then (path.drop 2).toString else path

/-- The contents of the file listed under a name, if one is. -/
def fileAt (files : Files) (name : String) : Option (List UInt8) :=
  (files.find? fun entry => listedName entry.1 == name).map (·.2)

/-- The directories the view holds: each leading part of a listed name that ends before a
slash. -/
def directoriesOf (files : Files) : List String :=
  files.flatMap fun (name, _) =>
    let parts := (listedName name).splitOn "/"
    (List.range (parts.length - 1)).map fun i => "/".intercalate (parts.take (i + 1))

/-- The name of an entry of a directory. -/
def childName (dir name : String) : String :=
  if dir.isEmpty then name else if dir == "/" then "/" ++ name else dir ++ "/" ++ name

/-- The place one level up from a directory: the root stays, and the working directory has one
above it. -/
def parentPlace (dir : String) : Place :=
  if dir.isEmpty then .above
  else if dir == "/" then .dir "/"
  else
    let parts := dir.splitOn "/"
    let up := "/".intercalate parts.dropLast
    if up.isEmpty && dir.startsWith "/" then .dir "/" else .dir up

/-- Whether a component keeps the walk where it is. -/
def staysPut (component : String) : Bool :=
  component.isEmpty || component == "."

/-- One step of a walk: where a component leads from a place. -/
def Files.step (files : Files) (place : Place) (component : String) : Except PathError Place :=
  match place with
  | .file _ => .error .notDirectory
  | .above =>
    if staysPut component || component == ".." then .ok .above
    else if maxNameLength < component.utf8ByteSize then .error .nameTooLong
    else .error .notFound
  | .dir d =>
    if staysPut component then .ok (.dir d)
    else if component == ".." then .ok (parentPlace d)
    else if maxNameLength < component.utf8ByteSize then .error .nameTooLong
    else
      let name := childName d component
      match fileAt files name with
      | some bytes => .ok (.file bytes)
      | none => if (directoriesOf files).contains name then .ok (.dir name) else .error .notFound

/-- The place a path's walk starts from. -/
def startPlace (path : String) : Place :=
  if path.startsWith "/" then .dir "/" else .dir ""

/-- Walk components from a place. -/
def Files.walk (files : Files) (place : Place) (components : List String) : Except PathError Place :=
  components.foldlM files.step place

/-- Why the system refuses a path before looking at any component. -/
def pathTextProblem (path : String) : Option PathError :=
  if path.toList.contains (Char.ofNat 0) then some .nulByte
  else if maxPathLength ≤ path.utf8ByteSize then some .nameTooLong
  else if path.isEmpty then some .notFound
  else none

/-- What a path names. -/
def Files.lookup (files : Files) (path : String) : Except PathError PathTarget :=
  match pathTextProblem path with
  | some e => .error e
  | none =>
    match files.walk (startPlace path) (path.splitOn "/") with
    | .error e => .error e
    | .ok (.file bytes) => .ok (.file bytes)
    | .ok _ => .ok .directory

/-- The contents of the file at a path; reading a directory fails. -/
def Files.read (files : Files) (path : String) : Except PathError (List UInt8) :=
  match files.lookup path with
  | .ok (.file bytes) => .ok bytes
  | .ok .directory => .error .isDirectory
  | .error e => .error e

/-- The names a walk of a path asks the view about, in order, were every one a directory. -/
def namesOnPath (path : String) : List String :=
  let visit := fun (acc : Option String × List String) (component : String) =>
    match acc with
    | (none, names) => (none, names)
    | (some d, names) =>
      if staysPut component then (some d, names)
      else if component == ".." then
        match parentPlace d with
        | .dir up => (some up, names)
        | _ => (none, names)
      else
        let name := childName d component
        (some name, names ++ [name])
  ((path.splitOn "/").foldl visit (some (if path.startsWith "/" then "/" else ""), [])).2

/-- The message given when a socket's name is taken. -/
def addressInUse : String := "Address already in use (os error 98)"

/-- The longest socket path, in bytes, leaving room for the terminating NUL. -/
def maxSocketPathLength : Nat := 107

/-- Why a Unix socket cannot be bound at a path, if it cannot. -/
def Files.bindProblem (files : Files) (path : String) : Option String :=
  if maxSocketPathLength < path.utf8ByteSize then some "path must be shorter than SUN_LEN"
  else
    let components := path.splitOn "/"
    let named := (components.reverse.dropWhile String.isEmpty).reverse
    let trailingSlash := named.length < components.length
    match named.getLast? with
    | none => if path.startsWith "/" then some addressInUse else none
    | some last =>
      match files.walk (startPlace path) named.dropLast with
      | .error e => some e.message
      | .ok (.file _) => some PathError.notDirectory.message
      | .ok place =>
        if last == "." || last == ".." then some addressInUse
        else match files.step place last with
          | .ok _ => some addressInUse
          | .error .notFound => if trailingSlash then some PathError.notFound.message else none
          | .error e => some e.message

end IdFactory.Server

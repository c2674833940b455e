/-!
# Files

What a program can learn about a path: a tree of directories and files, and the way from a
directory along the components of a path.  A path leads nowhere for one of a few reasons, and the
reason is the first one met on the way.
-/

namespace FloatingIp.Files

/-- A file or a directory. -/
inductive Node where
  /-- A file with its content, and whether it can be run. -/
  | file (content : List UInt8) (executable : Bool)
  /-- A directory with its entries. -/
  | dir (entries : List (String × Node))

/-- Why a file cannot be read or run. -/
inductive Fault where
  | notFound
  | denied
  | notDirectory
  | isDirectory
  | nameTooLong
  deriving DecidableEq, Repr

/-- The wording of a fault, with its number. -/
def Fault.message : Fault → String
  | notFound => "No such file or directory (os error 2)"
  | denied => "Permission denied (os error 13)"
  | notDirectory => "Not a directory (os error 20)"
  | isDirectory => "Is a directory (os error 21)"
  | nameTooLong => "File name too long (os error 36)"

/-- Longest name of an entry, in bytes. -/
def maxNameLength : Nat := 255

/-- Longest path, in bytes, with the byte that ends it. -/
def maxPathLength : Nat := 4096

/-- The parts of a text between slashes. -/
def split : List Char → List (List Char)
  | [] => [[]]
  | c :: rest =>
    if c = '/' then [] :: split rest
    else match split rest with
      | [] => [[c]]
      | s :: ss => (c :: s) :: ss

/-- The components of a path.  A final slash asks for a directory, as a final dot does. -/
def components (path : String) : List String :=
  let parts := (split path.toList).map String.ofList
  let named := parts.filter fun p => !p.isEmpty
  if parts.getLast? = some "" then named ++ ["."] else named

/-- A node with the directories above it, innermost first. -/
structure Place where
  node : Node
  above : List Node

/-- One step along a path. -/
def Place.step (p : Place) (name : String) : Except Fault Place :=
  match p.node with
  | .file _ _ => .error .notDirectory
  | .dir entries =>
    if name = "." then .ok p
    else if name = ".." then
      match p.above with
      | [] => .ok p
      | up :: above => .ok ⟨up, above⟩
    else if maxNameLength < name.utf8ByteSize then .error .nameTooLong
    else match entries.lookup name with
      | some node => .ok ⟨node, p.node :: p.above⟩
      | none => .error .notFound

/-- What stands at a path, seen from the place `here`. -/
def Place.find (here : Place) (path : String) : Except Fault Place :=
  let root : Place := match here.above.getLast? with
    | some top => ⟨top, []⟩
    | none => here
  if path.isEmpty then .error .notFound
  else if maxPathLength ≤ path.utf8ByteSize then .error .nameTooLong
  else (components path).foldlM Place.step (if path.toList.head? = some '/' then root else here)

/-- The content of the file at a path. -/
def Place.read (here : Place) (path : String) : Except Fault (List UInt8) := do
  match (← here.find path).node with
  | .file content _ => .ok content
  | .dir _ => .error .isDirectory

/-- Why what stands at a path cannot be run, if it cannot. -/
def Place.runFault? (here : Place) (path : String) : Option Fault :=
  match here.find path with
  | .ok ⟨.file _ true, _⟩ => none
  | .ok _ => some .denied
  | .error fault => some fault

/-- Whether a path holds the character that ends paths. -/
def holdsNul (path : String) : Bool :=
  path.toList.any fun c => c.toNat = 0

end FloatingIp.Files

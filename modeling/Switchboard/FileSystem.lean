import Switchboard.Table

namespace Switchboard

/-! A tree of directories and text files.

A path is the list of names that leads from the topmost directory, which is always
there, to a file or directory. -/

inductive FileNode where
  | directory
  | file (content : String)
deriving DecidableEq, Repr

structure FileSystem where
  nodes : Table (List String) FileNode

inductive FileError where
  | notFound
  | nameTooLong
  | isDirectory
  | notDirectory
  | exists
deriving DecidableEq, Repr

def FileError.message : FileError → String
  | .notFound => "No such file or directory"
  | .nameTooLong => "File name too long"
  | .isDirectory => "Is a directory"
  | .notDirectory => "Not a directory"
  | .exists => "File exists"

namespace FileSystem

/-- How many bytes a name may have. -/
def nameLimit : Nat := 255

def empty : FileSystem := ⟨.empty⟩

instance : Inhabited FileSystem := ⟨empty⟩

def node? (fs : FileSystem) (path : List String) : Option FileNode :=
  if path.isEmpty then some .directory else fs.nodes.find? path

/-- Follows names from a directory on. -/
def follow (fs : FileSystem) (start : List String) : List String → Except FileError FileNode
  | [] =>
      match fs.node? start with
      | some node => .ok node
      | none => .error .notFound
  | name :: rest =>
      match fs.node? start with
      | none => .error .notFound
      | some (.file _) => .error .notDirectory
      | some .directory =>
          if nameLimit < name.utf8ByteSize then .error .nameTooLong
          else fs.follow (start ++ [name]) rest

def lookup (fs : FileSystem) (path : List String) : Except FileError FileNode := fs.follow [] path

def read (fs : FileSystem) (path : List String) : Except FileError String :=
  match fs.lookup path with
  | .error error => .error error
  | .ok .directory => .error .isDirectory
  | .ok (.file content) => .ok content

def isDirectory (fs : FileSystem) (path : List String) : Bool :=
  match fs.lookup path with
  | .ok .directory => true
  | _ => false

/-- Whether something may be placed at a path, and what is there so far. -/
def vacancy (fs : FileSystem) (path : List String) : Except FileError (Option FileNode) :=
  if fs.isDirectory path.dropLast then
    match fs.lookup path with
    | .ok node => .ok (some node)
    | .error .notFound => .ok none
    | .error error => .error error
  else
    match fs.lookup path.dropLast with
    | .error error => .error error
    | .ok _ => .error .notDirectory

def place (fs : FileSystem) (path : List String) (node : FileNode) : FileSystem :=
  ⟨fs.nodes.insert path node⟩

def makeDirectory (fs : FileSystem) (path : List String) : Except FileError FileSystem :=
  match fs.vacancy path with
  | .error error => .error error
  | .ok none => .ok (fs.place path .directory)
  | .ok (some .directory) => .ok fs
  | .ok (some (.file _)) => .error .exists

/-- Makes the directories on the way from a directory on, one by one. Those made before
one that cannot be made stay. -/
def makeDirectories (fs : FileSystem) (start : List String) :
    List String → Except FileError Unit × FileSystem
  | [] => (.ok (), fs)
  | name :: rest =>
      match fs.makeDirectory (start ++ [name]) with
      | .error error => (.error error, fs)
      | .ok fs => fs.makeDirectories (start ++ [name]) rest

def write (fs : FileSystem) (path : List String) (content : String) : Except FileError FileSystem :=
  match fs.vacancy path with
  | .error error => .error error
  | .ok (some .directory) => .error .isDirectory
  | .ok _ => .ok (fs.place path (.file content))

/-- Gives a file another path, also that of an old file. -/
def rename (fs : FileSystem) (source target : List String) : Except FileError FileSystem :=
  match fs.read source, fs.vacancy target with
  | .error error, _ => .error error
  | _, .error error => .error error
  | _, .ok (some .directory) => .error .isDirectory
  | .ok content, .ok _ => .ok ((FileSystem.mk (fs.nodes.erase source)).place target (.file content))

/-- Whether a path comes no later than another, name by name. -/
def precedes : List String → List String → Bool
  | [], _ => true
  | _ :: _, [] => false
  | a :: as, b :: bs => a < b || (a = b && precedes as bs)

/-- The paths of all files. What a directory holds is listed by ascending name. -/
def files (fs : FileSystem) : List (List String) :=
  let paths := fs.nodes.entries.filterMap fun (path, node) =>
    match node with
    | .file _ => some path
    | .directory => none
  paths.mergeSort precedes

end FileSystem

end Switchboard

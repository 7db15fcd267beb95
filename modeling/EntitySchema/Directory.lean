/-
Directories of files, and why a file cannot be read.

A directory is known by the files below it. A path is followed name by name, and the first step
that cannot be taken decides what is told. Of the directories above only the names are unknown:
they are there, but no file is found in them. From the root only the directories are known that
every system has, and the empty file that takes everything.
-/
import EntitySchema.Path
import EntitySchema.Text.Quoted

set_option autoImplicit false

namespace EntitySchema

/-! ## Faults -/

/-- Why a file cannot be read. -/
inductive FileFault where
  | missing
  | noPermission
  | notADirectory
  | isADirectory
  | nameTooLong
  /-- Any other reason, with its number and the words for it. -/
  | other (code : Nat) (reason : String)
  deriving DecidableEq, Repr, Inhabited

namespace FileFault

/-- The number of a fault. -/
def code : FileFault → Nat
  | missing => 2
  | noPermission => 13
  | notADirectory => 20
  | isADirectory => 21
  | nameTooLong => 36
  | other code _ => code

/-- The words for a fault. -/
def reason : FileFault → String
  | missing => "No such file or directory"
  | noPermission => "Permission denied"
  | notADirectory => "Not a directory"
  | isADirectory => "Is a directory"
  | nameTooLong => "File name too long"
  | other _ reason => reason

/-- The faults that have a name. -/
def named : List FileFault := [missing, noPermission, notADirectory, isADirectory, nameTooLong]

/-- The fault with a number. -/
def ofCode (code : Nat) (reason : String) : FileFault :=
  (named.find? (·.code = code)).getD (.other code reason)

/-- A named fault is found by its number. -/
theorem ofCode_code {fault : FileFault} (h : fault ∈ named) (reason : String) :
    ofCode fault.code reason = fault := by
  simp only [named, List.mem_cons, List.not_mem_nil, or_false] at h
  rcases h with rfl | rfl | rfl | rfl | rfl <;> rfl

/-- A fault at a path, as it is told. -/
def describe (fault : FileFault) (path : Path) : String :=
  s!"[Errno {fault.code}] {fault.reason}: " ++
    String.ofList (Text.quoted path.toString.toList)

end FileFault

/-! ## Following paths -/

/-- How long a name may be, in bytes. -/
def nameLimit : Nat := 255

/-- How long a path may be, in bytes. -/
def pathLimit : Nat := 4095

/-- A directory with the files below it, each at the names that lead to it. -/
structure Directory where
  files : List (List String × List Nat) := []
  deriving DecidableEq, Repr, Inhabited

namespace Directory

/-- The directory with files at the given paths. -/
def ofFiles (files : List (String × List Nat)) : Directory where
  files := files.map fun (path, bytes) => ((Path.ofString path).names, bytes)

/-- The file at names below the directory. -/
def file? (directory : Directory) (names : List String) : Option (List Nat) :=
  directory.files.lookup names

/-- Whether there is a directory at names below the directory. -/
def isDirectory (directory : Directory) (names : List String) : Bool :=
  names.isEmpty || directory.files.any fun (file, _) =>
    names.isPrefixOf file && names.length < file.length

/-- The directories that every system has, by the names that lead to them from the root. -/
def systemDirectories : List (List String) :=
  [["bin"], ["dev"], ["etc"], ["home"], ["lib"], ["opt"], ["proc"], ["sbin"], ["sys"], ["tmp"],
   ["usr"], ["usr", "bin"], ["usr", "lib"], ["usr", "local"], ["usr", "share"], ["var"],
   ["var", "tmp"]]

/-- The file that every system has and that is always empty. -/
def emptyFile : List String := ["dev", "null"]

/-- A place that a path has come to: below the directory, somewhere above it, or below the root. -/
inductive Place where
  | below (names : List String)
  | above
  | system (names : List String)
  deriving DecidableEq, Repr, Inhabited

/-- Takes one step of a path. -/
def step (directory : Directory) (place : Place) (name : String) : Except FileFault Place :=
  match place with
  | .above =>
    if name = ".." then .ok .above
    else if nameLimit < name.utf8ByteSize then .error .nameTooLong
    else .error .missing
  | .below names =>
    if (directory.file? names).isSome then .error .notADirectory
    else if name = ".." then .ok (if names.isEmpty then .above else .below names.dropLast)
    else if nameLimit < name.utf8ByteSize then .error .nameTooLong
    else
      let names := names ++ [name]
      if (directory.file? names).isSome || directory.isDirectory names then .ok (.below names)
      else .error .missing
  | .system names =>
    if names = emptyFile then .error .notADirectory
    else if name = ".." then .ok (.system names.dropLast)
    else if nameLimit < name.utf8ByteSize then .error .nameTooLong
    else
      let names := names ++ [name]
      if names = emptyFile || systemDirectories.contains names then .ok (.system names)
      else .error .missing

/-- Reads the file at a path. -/
def read (directory : Directory) (path : Path) : Except FileFault (List Nat) := do
  if pathLimit < path.toString.utf8ByteSize then throw .nameTooLong
  match ← path.names.foldlM directory.step (if path.isAbsolute then .system [] else .below []) with
  | .above => throw .isADirectory
  | .system names => if names = emptyFile then return [] else throw .isADirectory
  | .below names =>
    match directory.file? names with
    | some bytes => return bytes
    | none => throw .isADirectory

end Directory

end EntitySchema

import Voiceover.Path
import Voiceover.Storage
import Voiceover.Text

/-! A file system as a value, without permissions, links or limits on space. A disk is a tree of
folders and files, held as a list of places. The process that works on it stands at its root, which is
its own parent: a path is walked from there, whether or not it starts with a slash, so `x`, `/x` and
`../x` are one file. What a process does that stands elsewhere is told by the same paths with the names
of its folder in front. -/

namespace Voiceover

/-- The names on the way to a place, the last one first. The root is the empty list. -/
abbrev Place := List String

inductive Entry
  | folder
  | file (content : ByteArray)

structure Disk where
  entries : List (Place × Entry)

namespace Disk

def empty : Disk := ⟨[]⟩

def find (disk : Disk) (place : Place) : Option Entry :=
  if place = [] then some .folder else disk.entries.lookup place

def setEntry (place : Place) (entry : Entry) : List (Place × Entry) → List (Place × Entry)
  | [] => [(place, entry)]
  | (other, kept) :: later =>
      if other = place then (place, entry) :: later else (other, kept) :: setEntry place entry later

def put (disk : Disk) (place : Place) (entry : Entry) : Disk :=
  ⟨setEntry place entry disk.entries⟩

/-! ### Walking -/

def nameLimit : Nat := 255

def pathLimit : Nat := 4095

def names (path : String) : List String :=
  ((Text.pieces '/' path.toList).filter (· ≠ [])).map String.ofList

def wantsFolder (path : String) : Bool := path.toList.getLast? = some '/'

def checkPath (path : String) : Except FileError Unit :=
  if path.toList.contains '\x00' then .error .nulInPath
  else if path = "" then .error .missing
  else if pathLimit < path.utf8ByteSize then .error .nameTooLong
  else .ok ()

def requireFolder (disk : Disk) (place : Place) : Except FileError Unit :=
  match disk.find place with
  | some .folder => .ok ()
  | some (.file _) => .error .notFolder
  | none => .error .missing

/-- Where a name leads from a folder, whether or not anything is there. A single dot is the folder
itself and two dots are the folder it is in. -/
def lead (disk : Disk) (place : Place) (name : String) : Except FileError Place := do
  disk.requireFolder place
  if name = "." then return place
  if name = ".." then return place.tail
  if nameLimit < name.utf8ByteSize then throw .nameTooLong
  return name :: place

def enter (disk : Disk) (place : Place) (name : String) : Except FileError Place := do
  let next ← disk.lead place name
  if (disk.find next).isSome then return next else throw .missing

def walk (disk : Disk) (path : List String) : Except FileError Place :=
  path.foldlM disk.enter []

def entryAt (disk : Disk) (path : String) : Except FileError Entry := do
  checkPath path
  match disk.find (← disk.walk (names path)) with
  | none => throw .missing
  | some .folder => return .folder
  | some (.file content) =>
      if wantsFolder path then throw .notFolder
      return .file content

/-! ### Reading -/

def isFolder (disk : Disk) (path : String) : Bool :=
  match disk.entryAt path with
  | .ok .folder => true
  | _ => false

def exists? (disk : Disk) (path : String) : Except FileError Bool :=
  match disk.entryAt path with
  | .ok _ => .ok true
  | .error .missing => .ok false
  | .error reason => .error reason

def read (disk : Disk) (path : String) : Except FileError ByteArray := do
  match ← disk.entryAt path with
  | .folder => throw .isFolder
  | .file content => return content

/-! ### Writing -/

def folderAbove (disk : Disk) (path : String) : Except FileError Place := do
  checkPath path
  let place ← disk.walk (names path).dropLast
  disk.requireFolder place
  return place

/-- The last name of a path is made, not found: the place it leads to, and what is there now. A
path that ends in dots ends in a folder that is there. -/
def target (disk : Disk) (path : String) : Except FileError (Place × Option Entry) := do
  let above ← disk.folderAbove path
  match (names path).getLast? with
  | none => return ([], some .folder)
  | some name =>
      let place ← disk.lead above name
      return (place, disk.find place)

def makeFolder (disk : Disk) (path : String) : Except FileError Disk := do
  match ← disk.target path with
  | (_, some _) => throw .alreadyThere
  | (place, none) => return disk.put place .folder

/-- Sets the content of a file, in a folder that is there. A path that wants a folder is refused
without a look at what its last name leads to. -/
def replace (disk : Disk) (path : String) (content : ByteArray) : Except FileError Disk := do
  let _ ← disk.folderAbove path
  if wantsFolder path then throw .isFolder
  match ← disk.target path with
  | (_, some .folder) => throw .isFolder
  | (place, _) => return disk.put place (.file content)

def settleFolder (disk : Disk) (path : String) : Disk × Except FileError Unit :=
  match disk.makeFolder path with
  | .ok grown => (grown, .ok ())
  | .error reason => (disk, if disk.isFolder path then .ok () else .error reason)

/-- Makes a folder and the folders it is in, as far as they are not there. Folders made before a
failure stay. -/
def makeFolders (disk : Disk) (path : String) : Disk × Except FileError Unit :=
  if path = "" then (disk, .ok ())
  else
    match disk.settleFolder path with
    | (_, .error .missing) =>
        match _found : Path.parent path with
        | none => (disk, .error .missing)
        | some above =>
            match disk.makeFolders above with
            | (grown, .ok ()) => grown.settleFolder path
            | failed => failed
    | settled => settled
termination_by path.length
decreasing_by exact Path.length_lt_of_parent _found

def write (disk : Disk) (path : String) (content : ByteArray) : Disk × Except FileError Unit :=
  match disk.makeFolders ((Path.parent path).getD "") with
  | (grown, .ok ()) =>
      match grown.replace path content with
      | .ok written => (written, .ok ())
      | .error reason => (grown, .error reason)
  | failed => failed

def storage : Storage (StateM Disk) where
  read path := return (← get).read path
  exists? path := return (← get).exists? path
  replace path content := do
    match (← get).replace path content with
    | .ok written => set written; return .ok ()
    | .error reason => return .error reason
  write path content :=
    modifyGet fun disk => ((disk.write path content).2, (disk.write path content).1)
  makeFolders path :=
    modifyGet fun disk => ((disk.makeFolders path).2, (disk.makeFolders path).1)

end Disk

end Voiceover

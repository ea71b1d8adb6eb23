import Voiceover.Text.Quoted

/-! Paths as text. A path is read as the names between its slashes, but the text is what is kept:
joining and renaming change the text no more than they have to. Only a folder may be known by bytes
that are no text, and then its files are asked for by what can be read of them. -/

namespace Voiceover

namespace Path

/-- A path, last character first, without the slashes and single dots at its end. A single dot that
stands alone is not at the end of anything and stays. -/
def dropEnd : List Char → List Char
  | '/' :: earlier => dropEnd earlier
  | '.' :: '/' :: earlier => dropEnd ('/' :: earlier)
  | kept => kept
termination_by reversed => reversed.length

def isFileName (name : List Char) : Bool :=
  name ≠ [] && name ≠ ['.'] && name ≠ ['.', '.']

def stem (name : List Char) : List Char :=
  match (name.reverse.dropWhile (· ≠ '.')).drop 1 with
  | [] => name
  | kept => kept.reverse

/-- The path up to its last name, and that name; what follows the name is dropped. -/
def splitLast (path : List Char) : List Char × List Char :=
  let kept := dropEnd path.reverse
  ((kept.dropWhile (· ≠ '/')).reverse, (kept.takeWhile (· ≠ '/')).reverse)

def extensionOf (name : List Char) : List Char :=
  name.drop ((stem name).length + 1)

def setExtension (path extension : List Char) : List Char :=
  let (folder, name) := splitLast path
  if isFileName name then folder ++ stem name ++ '.' :: extension else path

def dropExtension (path : List Char) : List Char :=
  let name := (splitLast path).2
  if isFileName name then path.take (path.length - (extensionOf name).length) else path

/-- The path with another extension on its last name. The old one is gone before the new one comes,
and where only two dots are left the path has no file name any more. -/
def withExtension (path extension : String) : String :=
  String.ofList (setExtension (dropExtension path.toList) extension.toList)

def join (folder name : String) : String :=
  if folder = "" || folder.toList.getLast? = some '/' then folder ++ name
  else folder ++ "/" ++ name

def parent (path : String) : Option String :=
  let (folder, name) := splitLast path.toList
  if name = [] then none
  else
    match dropEnd folder.reverse with
    | [] => if folder = [] then some "" else some "/"
    | kept => some (String.ofList kept.reverse)

theorem length_dropEnd (reversed : List Char) : (dropEnd reversed).length ≤ reversed.length := by
  fun_induction dropEnd reversed with
  | case1 earlier ih => exact Nat.le_succ_of_le ih
  | case2 earlier ih => simp only [List.length_cons] at ih ⊢; omega
  | case3 kept => exact Nat.le_refl _

theorem length_splitLast (path : List Char) :
    (splitLast path).1.length + (splitLast path).2.length ≤ path.length := by
  have split := congrArg List.length
    (List.takeWhile_append_dropWhile (p := (· ≠ '/')) (l := dropEnd path.reverse))
  have kept := length_dropEnd path.reverse
  simp only [List.length_append, List.length_reverse] at split kept
  simp only [splitLast, List.length_reverse]
  omega

/-- The folder of a path is a shorter path. -/
theorem length_lt_of_parent {path above : String} (found : parent path = some above) :
    above.length < path.length := by
  have total := length_splitLast path.toList
  have folderKept := length_dropEnd (splitLast path.toList).1.reverse
  rw [String.length_toList] at total
  rw [List.length_reverse] at folderKept
  simp only [parent] at found
  split at found
  · cases found
  · rename_i nameNotEmpty
    have nameLong := List.length_pos_iff.2 nameNotEmpty
    split at found
    · split at found
      · cases found; simp; omega
      · rename_i folderNotEmpty
        have folderLong := List.length_pos_iff.2 folderNotEmpty
        have slash : "/".length = 1 := by decide
        cases found
        omega
    · rename_i kept same
      cases found
      simp only [String.length_ofList, List.length_reverse]
      omega

def audioFile (folder : String) (index : Nat) (speaker : String) : String :=
  let digits := toString index
  let padding := String.ofList (List.replicate (3 - digits.length) '0')
  join folder ("speak_" ++ padding ++ digits ++ "_" ++ speaker ++ ".wav")

def sidecar (audio : String) : String :=
  withExtension audio "dat"

end Path

/-- A folder as the file system knows it. Its bytes need not be the UTF-8 of any text. -/
structure Folder where
  bytes : List UInt8
deriving DecidableEq

namespace Folder

def ofText (text : String) : Folder := ⟨Text.encoded text.toList⟩

instance : Coe String Folder := ⟨ofText⟩

def text (folder : Folder) : String :=
  String.ofList ((Text.runes folder.bytes).map Text.Rune.shown)

@[simp] theorem text_ofText (path : String) : (ofText path).text = path := by
  have shown : Text.Rune.shown ∘ Text.Rune.char = id := rfl
  rw [text, ofText, Text.runes_encoded, List.map_map, shown, List.map_id, String.ofList_toList]

end Folder

/-- A file in a folder, by the text of its path. The text of the folder is in front of it: a slash is
read as a slash, whatever is broken before it. -/
structure Output where
  folder : Folder
  text : String
deriving DecidableEq

namespace Output

instance : Coe Output String := ⟨text⟩

def runes (output : Output) : List Text.Rune :=
  Text.runes output.folder.bytes ++
    (output.text.toList.drop output.folder.text.toList.length).map .char

end Output

end Voiceover

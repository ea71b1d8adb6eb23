import Mathlib.Data.List.Nodup
import Voiceover.Proofs.Disk.Folders
import Voiceover.Proofs.Path.Naming

/-! Writing files into one folder. What a write does there does not depend on any file that is on the
disk, only on the folders, and a file is no folder: so the files of a program are known before it
runs, and putting them there once more changes nothing. -/

namespace Voiceover.Disk

variable {disk ground before after : Disk} {folder : Place} {files : List (String × ByteArray)}

section Fill

def fill (disk : Disk) (folder : Place) (files : List (String × ByteArray)) : Disk :=
  files.foldl (fun disk file => disk.put (file.1 :: folder) (.file file.2)) disk

theorem fill_cons (disk : Disk) (folder : Place) (file : String × ByteArray)
    (later : List (String × ByteArray)) :
    disk.fill folder (file :: later) = (disk.put (file.1 :: folder) (.file file.2)).fill folder later := rfl

theorem fill_append (disk : Disk) (folder : Place) (files more : List (String × ByteArray)) :
    disk.fill folder (files ++ more) = (disk.fill folder files).fill folder more :=
  List.foldl_append

theorem find_fill_of_notMem {place : Place} (elsewhere : ∀ file ∈ files, place ≠ file.1 :: folder) :
    (disk.fill folder files).find place = disk.find place := by
  induction files generalizing disk with
  | nil => rfl
  | cons file later ih =>
    rw [fill_cons, ih fun other member => elsewhere other (List.mem_cons_of_mem _ member),
      find_put (List.cons_ne_nil _ _), if_neg (elsewhere file List.mem_cons_self)]

theorem find_fill_of_mem (distinct : (files.map Prod.fst).Nodup) {file : String × ByteArray}
    (member : file ∈ files) : (disk.fill folder files).find (file.1 :: folder) = some (.file file.2) := by
  induction files generalizing disk with
  | nil => exact nomatch member
  | cons first later ih =>
    rw [List.map_cons, List.nodup_cons] at distinct
    rw [fill_cons]
    rcases List.mem_cons.mp member with rfl | member
    · rw [find_fill_of_notMem, find_put_self (List.cons_ne_nil _ _)]
      intro other inside same
      apply distinct.1
      rw [(List.cons.inj same).1]
      exact List.mem_map_of_mem inside
    · exact ih distinct.2 member

theorem fill_of_found (found : ∀ file ∈ files, disk.find (file.1 :: folder) = some (.file file.2)) :
    disk.fill folder files = disk := by
  induction files with
  | nil => rfl
  | cons file later ih =>
    rw [fill_cons, put_of_find (List.cons_ne_nil _ _) (found file List.mem_cons_self)]
    exact ih fun other member => found other (List.mem_cons_of_mem _ member)

theorem fill_fill (disk : Disk) (folder : Place) (distinct : (files.map Prod.fst).Nodup) :
    (disk.fill folder files).fill folder files = disk.fill folder files :=
  fill_of_found fun _ member => find_fill_of_mem distinct member

end Fill

section SameFolders

def SameFolders (ground disk : Disk) : Prop :=
  ∀ place, ground.find place = some .folder ↔ disk.find place = some .folder

theorem SameFolders.refl (ground : Disk) : SameFolders ground ground := fun _ => Iff.rfl

theorem SameFolders.fill (same : SameFolders ground disk)
    (free : ∀ file ∈ files, ground.find (file.1 :: folder) ≠ some .folder) :
    SameFolders ground (disk.fill folder files) := by
  induction files generalizing disk with
  | nil => exact same
  | cons file later ih =>
    apply ih _ fun other member => free other (List.mem_cons_of_mem _ member)
    intro place
    rw [find_put (List.cons_ne_nil _ _)]
    split_ifs with here
    · rw [here]
      exact ⟨fun there => absurd there (free file List.mem_cons_self), (nomatch ·)⟩
    · exact same place

/-- The way to a folder is a way through folders. -/
theorem walk_of_sameFolders {way : List String} {place : Place} (same : SameFolders before after)
    (walked : before.walk way = .ok place) (there : before.find place = some .folder) :
    after.walk way = .ok place := by
  induction way using List.reverseRecOn generalizing place with
  | nil => exact walked
  | append_singleton front name ih =>
    rw [walk_concat] at walked ⊢
    obtain ⟨above, passed, entered⟩ := bind_eq_ok.mp walked
    obtain ⟨led, -⟩ := enter_eq_ok.mp entered
    have aboveThere := folder_of_lead led
    rw [ih passed aboveThere]
    refine enter_eq_ok.mpr ⟨?_, ?_⟩
    · rw [← led]
      exact lead_folder aboveThere ((same above).mp aboveThere) name
    · rw [(same place).mp there]
      rfl

end SameFolders

section Home

variable {path joint name : String}

/-- The folder that a path names is there, at a place. The empty path names the folder where one is. -/
structure Home (disk : Disk) (path : String) (place : Place) : Prop where
  checked : path = "" ∨ checkPath path = .ok ()
  walked : disk.walk (names path) = .ok place
  found : disk.find place = some .folder

theorem exists_home {grown : Disk} (made : disk.makeFolders path = (grown, .ok ())) :
    ∃ place, Home grown path place := by
  rcases isFolder_of_makeFolders made with rfl | folder
  · exact ⟨[], .inl rfl, rfl, rfl⟩
  · obtain ⟨checked, place, walked, found⟩ := isFolder_iff.mp folder
    exact ⟨place, .inr checked, walked, found⟩

theorem Home.isFolder (home : Home disk path folder) : path = "" ∨ disk.isFolder path = true := by
  rcases home.checked with empty | checked
  · exact .inl empty
  · exact .inr (isFolder_iff.mpr ⟨checked, folder, home.walked, home.found⟩)

theorem Home.of_sameFolders (home : Home ground path folder) (same : SameFolders ground disk) :
    Home disk path folder :=
  ⟨home.checked, walk_of_sameFolders same home.walked home.found, (same folder).mp home.found⟩

theorem walk_dots {way : List String} {place : Place} (dots : Nat)
    (walked : disk.walk (way ++ List.replicate dots ".") = .ok place) : disk.walk way = .ok place := by
  induction dots generalizing place with
  | zero =>
    rw [List.replicate_zero, List.append_nil] at walked
    exact walked
  | succ dots ih =>
    rw [List.replicate_succ', ← List.append_assoc, walk_concat] at walked
    obtain ⟨above, passed, entered⟩ := bind_eq_ok.mp walked
    obtain ⟨led, -⟩ := enter_eq_ok.mp entered
    rcases lead_cases led with ⟨-, rfl⟩ | ⟨differs, -⟩ | ⟨differs, -⟩
    · exact ih passed
    · exact absurd differs (by decide)
    · exact absurd rfl differs

structure IsName (name : String) : Prop where
  plain : '/' ∉ name.toList
  named : name ≠ ""
  notDot : name ≠ "."
  notDots : name ≠ ".."

theorem IsName.toList_ne_nil (isName : IsName name) : name.toList ≠ [] :=
  fun empty => isName.named (String.toList_eq_nil_iff.mp empty)

theorem IsName.wantsFolder_append (isName : IsName name) (front : String) :
    wantsFolder (front ++ name) = false := by
  rw [wantsFolder, decide_eq_false_iff_not, String.toList_append,
    List.getLast?_append_of_ne_nil _ isName.toList_ne_nil]
  exact fun slash => isName.plain (List.mem_of_getLast? slash)

/-- What is at a path of one name is what has that name. -/
theorem IsName.entryAt (isName : IsName name) (checked : checkPath name = .ok ())
    (short : name.utf8ByteSize ≤ nameLimit) (disk : Disk) :
    disk.entryAt name =
      match disk.find [name] with
      | some entry => .ok entry
      | none => .error .missing := by
  have way : names name = [] ++ [name] := by
    have alone := names_plain isName.plain isName.toList_ne_nil
    rw [String.ofList_toList] at alone
    exact alone
  have led : disk.lead [] name = .ok [name] := by
    rw [lead, requireFolder_eq_ok.mpr rfl, if_neg isName.notDot, if_neg isName.notDots,
      if_neg (Nat.not_lt.mpr short)]
    rfl
  have walked : disk.walk (names name) = if (disk.find [name]).isSome then .ok [name] else .error .missing := by
    rw [way, walk_concat]
    change disk.enter [] name = _
    rw [enter, led]
    rfl
  have plain := isName.wantsFolder_append ""
  rw [String.empty_append] at plain
  rw [Disk.entryAt, checked]
  cases found : disk.find [name] with
  | none =>
    rw [found] at walked
    simp only [bind, Except.bind, walked]
    rfl
  | some entry =>
    rw [found] at walked
    simp only [bind, Except.bind, walked, found, plain, Option.isSome_some, if_true]
    cases entry <;> rfl

theorem names_join (joins : Path.Joint path joint) (isName : IsName name) :
    names (path ++ joint ++ name) = names path ++ [name] := by
  have whole := names_append joins.opens isName.plain isName.toList_ne_nil
  have way : names (path ++ joint) = names path := by
    rcases joins with ⟨rfl, -⟩ | ⟨rfl, -⟩
    · rw [String.append_empty]
    · have text := names_append_slash path.toList []
      rw [String.ofList_append, String.ofList_toList] at text
      exact text.trans (List.append_nil _)
  rw [String.ofList_append, String.ofList_toList, String.ofList_toList, way] at whole
  exact whole

theorem splitLast_join (joins : Path.Joint path joint) (isName : IsName name) :
    Path.splitLast (path ++ joint ++ name).toList = ((path ++ joint).toList, name.toList) := by
  rw [String.toList_append]
  apply Path.splitLast_append joins.opens isName.plain
  rcases List.eq_nil_or_concat' name.toList with empty | ⟨base, last, shape⟩
  · exact absurd empty isName.toList_ne_nil
  · have plain := isName.plain
    rw [shape, List.mem_append, List.mem_singleton, not_or] at plain
    rw [shape, ← List.append_assoc]
    apply Path.dropEnd_reverse (Ne.symm plain.2)
    rintro rfl slash
    have based : base ≠ [] := by
      rintro rfl
      exact isName.notDot (String.toList_inj.mp shape)
    rw [List.getLast?_append_of_ne_nil _ based] at slash
    exact plain.1 (List.mem_of_getLast? slash)

/-- The folder that a file of a folder is in is that folder, however it is spelt. -/
theorem Home.parent {above : String} (home : Home disk path folder) (joins : Path.Joint path joint)
    (isName : IsName name) (found : Path.parent (path ++ joint ++ name) = some above) :
    above = "" ∨ disk.isFolder above = true := by
  obtain ⟨front, last, split, -, shapes⟩ := parent_cases found
  rw [splitLast_join joins isName] at split
  obtain ⟨rfl, rfl⟩ := Prod.mk.inj split
  have spelt : Path.dropEnd (path ++ joint).toList.reverse = Path.dropEnd path.toList.reverse := by
    rcases joins with ⟨rfl, -⟩ | ⟨rfl, -⟩
    · rw [String.append_empty]
    · have slash : "/".toList = ['/'] := rfl
      rw [String.toList_append, slash, List.reverse_append, List.reverse_singleton, List.singleton_append,
        Path.dropEnd]
  rw [spelt] at shapes
  rcases shapes with ⟨rfl | rfl, -⟩ | shape
  · exact .inl rfl
  · exact .inr (isFolder_iff.mpr ⟨rfl, [], rfl, rfl⟩)
  · by_cases empty : above = ""
    · exact .inl empty
    · obtain ⟨dots, way⟩ := names_dropEnd path.toList.reverse
      rw [List.reverse_reverse, String.ofList_toList, ← shape] at way
      have walked := home.walked
      rw [way] at walked
      have front : above.toList <+: path.toList := by
        rw [shape, String.toList_ofList]
        exact dropEnd_front path.toList
      have checked : checkPath path = .ok () := by
        rcases home.checked with rfl | checked
        · exact absurd (String.toList_eq_nil_iff.mp (List.prefix_nil.mp front)) empty
        · exact checked
      exact .inr (isFolder_iff.mpr
        ⟨checkPath_front front empty checked, folder, walk_dots dots walked, home.found⟩)

def overwrite (disk : Disk) (place : Place) (content : ByteArray) : Except FileError Disk :=
  match disk.find place with
  | some .folder => .error .isFolder
  | _ => .ok (disk.put place (.file content))

theorem overwrite_folder {place : Place} (taken : disk.find place = some .folder) (content : ByteArray) :
    disk.overwrite place content = .error .isFolder := by
  rw [overwrite, taken]

theorem overwrite_free {place : Place} (free : disk.find place ≠ some .folder) (content : ByteArray) :
    disk.overwrite place content = .ok (disk.put place (.file content)) := by
  rw [overwrite]
  split
  · exact absurd ‹_› free
  · rfl

/-- A file in a folder that is there is put where its name leads. -/
theorem Home.replace (home : Home disk path folder) (joins : Path.Joint path joint) (isName : IsName name)
    (content : ByteArray) :
    disk.replace (path ++ joint ++ name) content = (do
      checkPath (path ++ joint ++ name)
      let place ← disk.lead folder name
      disk.overwrite place content) := by
  have way := names_join joins isName
  have plain := isName.wantsFolder_append (path ++ joint)
  rw [Disk.replace, folderAbove, target_eq, way, List.dropLast_concat, reach_concat, home.walked]
  cases checkPath (path ++ joint ++ name) with
  | error reason => rfl
  | ok valid =>
    simp only [bind, Except.bind, requireFolder_eq_ok.mpr home.found, plain, pure, Except.pure]
    cases disk.lead folder name with
    | error reason => rfl
    | ok place =>
      by_cases taken : disk.find place = some .folder
      · simp only [overwrite_folder taken, taken, Bool.false_eq_true, if_false]
        rfl
      · simp only [overwrite_free taken, Bool.false_eq_true, if_false]

/-- A write into a folder that is there replaces the file, and makes no folder. -/
theorem Home.write_eq (home : Home ground path folder) (joins : Path.Joint path joint)
    (isName : IsName name) (content : ByteArray) (same : SameFolders ground disk) :
    disk.write (path ++ joint ++ name) content =
      match (do
        checkPath (path ++ joint ++ name)
        let place ← ground.lead folder name
        disk.overwrite place content) with
      | .ok written => (written, .ok ())
      | .error reason => (disk, .error reason) := by
  have there := home.of_sameFolders same
  have made : disk.makeFolders ((Path.parent (path ++ joint ++ name)).getD "") = (disk, .ok ()) := by
    apply makeFolders_of_isFolder
    cases found : Path.parent (path ++ joint ++ name) with
    | none => exact .inl rfl
    | some above => exact there.parent joins isName found
  rewrite [Disk.write, made, ← lead_folder home.found there.found name, ← there.replace joins isName]
  rfl

/-- What becomes of a file in a folder that is there, on every disk with the same folders. -/
theorem Home.write (home : Home ground path folder) (joins : Path.Joint path joint) (isName : IsName name)
    (content : ByteArray) :
    ∃ result files, (files = [] ∨ files = [(name, content)]) ∧
      (∀ file ∈ files, ground.find (file.1 :: folder) ≠ some .folder) ∧
      ∀ disk, SameFolders ground disk →
        disk.write (path ++ joint ++ name) content = (disk.fill folder files, result) := by
  have settled {disk : Disk} (same : SameFolders ground disk) :=
    home.write_eq joins isName content same
  have none_free : ∀ file ∈ ([] : List (String × ByteArray)),
      ground.find (file.1 :: folder) ≠ some .folder := fun _ member => absurd member List.not_mem_nil
  cases checked : checkPath (path ++ joint ++ name) with
  | error reason =>
    refine ⟨.error reason, [], .inl rfl, none_free, fun disk same => ?_⟩
    rw [settled same, checked]
    rfl
  | ok valid =>
    cases led : ground.lead folder name with
    | error reason =>
      refine ⟨.error reason, [], .inl rfl, none_free, fun disk same => ?_⟩
      rw [settled same, checked, led]
      rfl
    | ok place =>
      obtain rfl : place = name :: folder := by
        rcases lead_cases led with ⟨dot, -⟩ | ⟨dots, -⟩ | ⟨-, -, there⟩
        · exact absurd dot isName.notDot
        · exact absurd dots isName.notDots
        · exact there
      by_cases taken : ground.find (name :: folder) = some .folder
      · refine ⟨.error .isFolder, [], .inl rfl, none_free, fun disk same => ?_⟩
        have failed := overwrite_folder ((same _).mp taken) content
        rw [settled same, checked, led]
        simp only [bind, Except.bind, failed]
        rfl
      · refine ⟨.ok (), [(name, content)], .inr rfl, ?_, fun disk same => ?_⟩
        · intro file member
          rw [List.mem_singleton.mp member]
          exact taken
        · have done := overwrite_free (fun there => taken ((same _).mpr there)) content
          rw [settled same, checked, led]
          simp only [bind, Except.bind, done]
          rfl

end Home

end Voiceover.Disk

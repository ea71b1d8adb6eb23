import Voiceover.Proofs.Disk.Folders

/-! A disk as a store of files. However a file is spelt, it is at one place, and what the store holds
there is what has been written there last: a write that succeeds puts one file and makes folders, one
that fails makes no more than folders, and reading changes nothing. So a path that leads to a file
leads there for good, and what is read of it after any requests is told by the writes among them. -/

namespace Voiceover.Disk

variable {disk before after : Disk} {path : String} {place : Place} {content : ByteArray}
  {way : List String}

def fileAt (disk : Disk) (place : Place) : Option ByteArray :=
  match disk.find place with
  | some (.file content) => some content
  | _ => none

def fileOf? (disk : Disk) (path : String) : Option Place :=
  match disk.entryAt path, disk.walk (names path) with
  | .ok (.file _), .ok place => some place
  | _, _ => none

inductive Request
  | read (path : String)
  | exists? (path : String)
  | write (path : String) (content : ByteArray)

def perform (disk : Disk) : Request → Disk
  | .read path => (storage.read path disk).2
  | .exists? path => (storage.exists? path disk).2
  | .write path content => (storage.write path content disk).2

def performAll (disk : Disk) (requests : List Request) : Disk := requests.foldl perform disk

/-- The file that a request writes and what it writes there: none, unless it is a write and succeeds. -/
def writtenBy (disk : Disk) : Request → Option (Place × ByteArray)
  | .read _ | .exists? _ => none
  | .write path content =>
      match storage.write path content disk with
      | (.ok (), after) => (after.fileOf? path).map fun place => (place, content)
      | (.error _, _) => none

def written (disk : Disk) : List Request → List (Place × ByteArray)
  | [] => []
  | request :: later => (disk.writtenBy request).toList ++ (disk.perform request).written later

section Files

theorem fileAt_eq_some_iff :
    disk.fileAt place = some content ↔ disk.find place = some (.file content) := by
  unfold fileAt
  cases disk.find place with
  | none => simp
  | some entry => cases entry <;> simp

theorem fileAt_put (inside : place ≠ []) (content : ByteArray) (other : Place) :
    (disk.put place (.file content)).fileAt other =
      if other = place then some content else disk.fileAt other := by
  rw [fileAt, find_put inside]
  split_ifs <;> rfl

/-- Folders that have been added are in the place of no file. -/
theorem Paves.fileAt_eq (paves : Paves way before after) (place : Place) :
    after.fileAt place = before.fileAt place := by
  unfold fileAt
  cases found : before.find place with
  | some entry => rw [paves.kept place entry found]
  | none =>
    cases added : after.find place with
    | none => rfl
    | some entry => rw [(paves.added place entry found added).1]

theorem entryAt_eq_file_iff :
    disk.entryAt path = .ok (.file content) ↔
      checkPath path = .ok () ∧ wantsFolder path = false ∧
        ∃ place, disk.walk (names path) = .ok place ∧ disk.fileAt place = some content := by
  rw [entryAt_eq_ok_iff]
  simp only [fileAt_eq_some_iff, reduceCtorEq, imp_false, Bool.not_eq_true]

theorem fileOf?_eq_some_iff :
    disk.fileOf? path = some place ↔
      checkPath path = .ok () ∧ wantsFolder path = false ∧
        disk.walk (names path) = .ok place ∧ (disk.fileAt place).isSome := by
  constructor
  · intro leads
    unfold fileOf? at leads
    split at leads
    · obtain rfl := Option.some.inj leads
      rename_i content there found walked
      obtain ⟨checked, plain, other, reached, held⟩ := entryAt_eq_file_iff.mp found
      obtain rfl : there = other := Except.ok.inj (walked.symm.trans reached)
      exact ⟨checked, plain, walked, by rw [held]; rfl⟩
    · exact nomatch leads
  · rintro ⟨checked, plain, walked, there⟩
    obtain ⟨content, held⟩ := Option.isSome_iff_exists.mp there
    have found := entryAt_eq_file_iff.mpr ⟨checked, plain, place, walked, held⟩
    rw [fileOf?, found, walked]

/-- What is read of a path is the content of the file that it leads to. -/
theorem entryAt_of_fileOf? (leads : disk.fileOf? path = some place)
    (held : disk.fileAt place = some content) : disk.entryAt path = .ok (.file content) := by
  obtain ⟨checked, plain, walked, -⟩ := fileOf?_eq_some_iff.mp leads
  exact entryAt_eq_file_iff.mpr ⟨checked, plain, place, walked, held⟩

end Files

section Writes

/-- The folder that a path is in is on the way to it, before the last name. -/
theorem parent_front_dropLast (path : String) :
    names ((Path.parent path).getD "") <+: (names path).dropLast := by
  cases found : Path.parent path with
  | none => exact List.nil_prefix
  | some above =>
    obtain ⟨dots, name, more, shape⟩ := names_of_parent found
    have behind : List.replicate dots "." ++ name :: List.replicate more "." ≠ [] := by simp
    rw [shape, List.dropLast_append_of_ne_nil behind]
    exact List.prefix_append ..

/-- Behind the folders of a way that has been walked there is more of it. -/
theorem folder_of_walk (walked : disk.walk way = .ok place) {front : List String}
    (onWay : front <+: way.dropLast) :
    ∃ folder, disk.walk front = .ok folder ∧ disk.find folder = some .folder := by
  rcases List.eq_nil_or_concat' way with rfl | ⟨above, last, rfl⟩
  · obtain rfl : front = [] := List.prefix_nil.mp onWay
    exact ⟨[], rfl, rfl⟩
  · rw [List.dropLast_concat] at onWay
    obtain ⟨more, rfl⟩ := onWay
    rw [List.append_assoc, walk_append] at walked
    obtain ⟨folder, reached, behind⟩ := bind_eq_ok.mp walked
    have ahead : more ++ [last] ≠ [] := List.append_ne_nil_of_right_ne_nil more (List.cons_ne_nil last [])
    obtain ⟨name, rest, shape⟩ := List.exists_cons_of_ne_nil ahead
    rw [shape, List.foldlM_cons] at behind
    obtain ⟨next, entered, -⟩ := bind_eq_ok.mp behind
    exact ⟨folder, reached, folder_of_lead (enter_eq_ok.mp entered).1⟩

/-- What a write comes to. -/
theorem write_cases (disk : Disk) (path : String) (content : ByteArray) :
    (∃ reason grown, disk.write path content = (grown, .error reason) ∧
        Paves (names path).dropLast disk grown) ∨
      ∃ place grown, disk.write path content = (grown.put place (.file content), .ok ()) ∧
        Paves (names path).dropLast disk grown ∧ place ≠ [] ∧ grown.find place ≠ some .folder ∧
        (grown.put place (.file content)).fileOf? path = some place := by
  have paves := (makeFolders_paves disk ((Path.parent path).getD "")).widen (parent_front_dropLast path)
  rw [write]
  cases made : disk.makeFolders ((Path.parent path).getD "") with
  | mk grown result =>
    rw [made] at paves
    cases result with
    | error reason => exact .inl ⟨reason, grown, rfl, paves⟩
    | ok done =>
      dsimp only
      cases replaced : grown.replace path content with
      | error reason => exact .inl ⟨reason, grown, rfl, paves⟩
      | ok after =>
        obtain ⟨place, checked, plain, reached, noFolder, rfl⟩ := replace_eq_ok replaced
        have inside : place ≠ [] := by
          rintro rfl
          exact noFolder rfl
        refine .inr ⟨place, grown, rfl, paves, inside, noFolder, ?_⟩
        refine fileOf?_eq_some_iff.mpr ⟨checked, plain, ?_, ?_⟩
        · exact walk_put reached inside fun folder => absurd folder noFolder
        · rw [fileAt_put inside, if_pos rfl]
          rfl

/-- What a request comes to: folders, and a file when it is a write that succeeds. -/
theorem perform_cases (disk : Disk) (request : Request) :
    ∃ way grown, Paves way disk grown ∧
      (disk.writtenBy request = none ∧ disk.perform request = grown ∨
        ∃ place content, disk.writtenBy request = some (place, content) ∧ place ≠ [] ∧
          grown.find place ≠ some .folder ∧ disk.perform request = grown.put place (.file content)) := by
  cases request with
  | read path => exact ⟨[], disk, .refl _ _, .inl ⟨rfl, rfl⟩⟩
  | exists? path => exact ⟨[], disk, .refl _ _, .inl ⟨rfl, rfl⟩⟩
  | write path content =>
    rcases write_cases disk path content with
      ⟨reason, grown, wrote, paves⟩ | ⟨place, grown, wrote, paves, inside, noFolder, leads⟩
    · refine ⟨_, grown, paves, .inl ⟨?_, ?_⟩⟩
      · rw [writtenBy, storage_write, wrote]
      · rw [perform, storage_write, wrote]
    · refine ⟨_, grown, paves, .inr ⟨place, content, ?_, inside, noFolder, ?_⟩⟩
      · rw [writtenBy, storage_write, wrote]
        dsimp only
        rw [leads]
        rfl
      · rw [perform, storage_write, wrote]

end Writes

section Requests

theorem performAll_cons (disk : Disk) (request : Request) (later : List Request) :
    disk.performAll (request :: later) = (disk.perform request).performAll later := rfl

theorem grows_perform (disk : Disk) (request : Request) : Grows disk (disk.perform request) := by
  obtain ⟨way, grown, paves, ⟨-, left⟩ | ⟨place, content, -, inside, noFolder, left⟩⟩ :=
    perform_cases disk request
  · rw [left]
    exact paves.grows
  · rw [left]
    exact paves.grows.trans (grows_put inside fun folder => absurd folder noFolder)

theorem fileAt_perform (disk : Disk) (request : Request) (place : Place) :
    (disk.perform request).fileAt place =
      ((disk.writtenBy request).toList.lookup place).or (disk.fileAt place) := by
  obtain ⟨way, grown, paves, ⟨nothing, left⟩ | ⟨other, content, wrote, inside, -, left⟩⟩ :=
    perform_cases disk request
  · rw [left, nothing, paves.fileAt_eq]
    rfl
  · rw [left, wrote, fileAt_put inside, paves.fileAt_eq, Option.toList_some, List.lookup_cons]
    by_cases same : place = other
    · rw [if_pos same, same, beq_self_eq_true]
      rfl
    · rw [if_neg same, beq_eq_false_iff_ne.mpr same]
      rfl

theorem grows_performAll (disk : Disk) (requests : List Request) :
    Grows disk (disk.performAll requests) := by
  induction requests generalizing disk with
  | nil => exact .refl disk
  | cons request later ih => exact (grows_perform disk request).trans (ih (disk.perform request))

/-- A file holds what has been written to it last, or what it held before. -/
theorem fileAt_performAll (disk : Disk) (requests : List Request) (place : Place) :
    (disk.performAll requests).fileAt place =
      ((disk.written requests).reverse.lookup place).or (disk.fileAt place) := by
  induction requests generalizing disk with
  | nil => rfl
  | cons request later ih =>
    have single : (disk.writtenBy request).toList.reverse = (disk.writtenBy request).toList := by
      cases disk.writtenBy request <;> rfl
    rw [performAll_cons, ih, fileAt_perform, written, List.reverse_append, List.lookup_append, single,
      Option.or_assoc]

/-- A file that is not written to keeps its content. -/
theorem fileAt_performAll_of_unwritten {requests : List Request}
    (unwritten : place ∉ (disk.written requests).map Prod.fst) :
    (disk.performAll requests).fileAt place = disk.fileAt place := by
  rw [fileAt_performAll, List.lookup_eq_none_iff.mpr]
  · rfl
  · intro write wrote
    rw [bne_iff_ne]
    rintro rfl
    exact unwritten (List.mem_map_of_mem (List.mem_reverse.mp wrote))

/-- A path that leads to a file leads to it whatever is requested. -/
theorem fileOf?_performAll (leads : disk.fileOf? path = some place) (requests : List Request) :
    (disk.performAll requests).fileOf? path = some place := by
  obtain ⟨checked, plain, walked, there⟩ := fileOf?_eq_some_iff.mp leads
  have still := walk_of_grows (grows_performAll disk requests) walked
  refine fileOf?_eq_some_iff.mpr ⟨checked, plain, still, ?_⟩
  rw [fileAt_performAll, Option.isSome_or, there, Bool.or_true]

theorem storage_of_fileOf? (leads : disk.fileOf? path = some place)
    (held : disk.fileAt place = some content) :
    (storage.read path disk).1 = .ok content ∧ (storage.exists? path disk).1 = .ok true := by
  have found := entryAt_of_fileOf? leads held
  rw [storage_read, storage_exists, read, exists?, found]
  exact ⟨rfl, rfl⟩

/-- The disk is a store that keeps what was written last. Reading changes nothing. A write that fails
changes no file and adds no more than folders on the way to its own. One that succeeds puts one file:
its path leads there and through folders all the way, the other files keep their content, and until a
file is written there once more, whatever else is requested, it is found with what was written. -/
theorem storage_lastWrite (disk : Disk) (path : String) :
    (storage.read path disk).2 = disk ∧ (storage.exists? path disk).2 = disk ∧
      ∀ content after,
        (∀ reason, storage.write path content disk = (.error reason, after) →
          (∀ place, after.fileAt place = disk.fileAt place) ∧ Paves (names path).dropLast disk after) ∧
        (storage.write path content disk = (.ok (), after) →
          ∃ place, after.fileOf? path = some place ∧
            (∀ front, front <+: (names path).dropLast →
              ∃ folder, after.walk front = .ok folder ∧ after.find folder = some .folder) ∧
            (∀ other, other ≠ place → after.fileAt other = disk.fileAt other) ∧
            ∀ later, place ∉ (after.written later).map Prod.fst →
              ∀ spelling, after.fileOf? spelling = some place →
                (storage.read spelling (after.performAll later)).1 = .ok content ∧
                (storage.exists? spelling (after.performAll later)).1 = .ok true) := by
  refine ⟨rfl, rfl, fun content after => ?_⟩
  rw [storage_write]
  rcases write_cases disk path content with
    ⟨reason, grown, wrote, paves⟩ | ⟨place, grown, wrote, paves, inside, noFolder, leads⟩
  · rw [wrote]
    refine ⟨?_, (nomatch ·)⟩
    rintro other ⟨⟩
    exact ⟨paves.fileAt_eq, paves⟩
  · rw [wrote]
    refine ⟨fun _ => (nomatch ·), ?_⟩
    rintro ⟨⟩
    obtain ⟨-, -, walked, -⟩ := fileOf?_eq_some_iff.mp leads
    refine ⟨place, leads, fun front onWay => folder_of_walk walked onWay, ?_, ?_⟩
    · intro other differs
      rw [fileAt_put inside, if_neg differs, paves.fileAt_eq]
    · intro later unwritten spelling spells
      apply storage_of_fileOf? (fileOf?_performAll spells later)
      rw [fileAt_performAll_of_unwritten unwritten, fileAt_put inside, if_pos rfl]

def sparse : Disk := ⟨[(["x"], .file ⟨#[1]⟩), (["a"], .folder)]⟩

def nested : Disk := (storage.write "a/../new//./f" ⟨#[2]⟩ sparse).2

/-- The file is found by another spelling, and after a write into it as if it were a folder and a
write elsewhere, which went through its folder. -/
theorem storage_lastWrite_dots :
    storage.write "a/../new//./f" ⟨#[2]⟩ sparse = (.ok (), nested) ∧
      (storage.write "new/f/g" ⟨#[3]⟩ nested).1 = .error .alreadyThere ∧
      (storage.write "new/f/g" ⟨#[3]⟩ nested).2.fileAt ["x"] = nested.fileAt ["x"] ∧
      (storage.read "new/./f"
        (nested.performAll [.write "new/f/g" ⟨#[3]⟩, .write "new/../x" ⟨#[4]⟩])).1 = .ok ⟨#[2]⟩ := by
  have result : (storage.write "a/../new//./f" ⟨#[2]⟩ sparse).1 = .ok () := by decide +kernel
  have wrote : storage.write "a/../new//./f" ⟨#[2]⟩ sparse = (.ok (), nested) := Prod.ext result rfl
  have failed : (storage.write "new/f/g" ⟨#[3]⟩ nested).1 = .error .alreadyThere := by decide +kernel
  have leads : nested.fileOf? "a/../new//./f" = some ["f", "new"] := by decide +kernel
  have spells : nested.fileOf? "new/./f" = some ["f", "new"] := by decide +kernel
  have elsewhere : ["f", "new"] ∉
      (nested.written [.write "new/f/g" ⟨#[3]⟩, .write "new/../x" ⟨#[4]⟩]).map Prod.fst := by
    decide +kernel
  obtain ⟨-, -, writes⟩ := storage_lastWrite sparse "a/../new//./f"
  obtain ⟨place, reached, -, -, holds⟩ := (writes ⟨#[2]⟩ nested).2 wrote
  obtain rfl : ["f", "new"] = place := Option.some.inj (leads.symm.trans reached)
  obtain ⟨-, -, again⟩ := storage_lastWrite nested "new/f/g"
  obtain ⟨unchanged, -⟩ := (again ⟨#[3]⟩ _).1 _ (Prod.ext failed rfl)
  exact ⟨wrote, failed, unchanged ["x"], (holds _ elsewhere "new/./f" spells).1⟩

end Requests

end Voiceover.Disk

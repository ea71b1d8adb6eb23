import Mathlib.Data.List.Basic
import Mathlib.Data.List.Induction
import Mathlib.Tactic.SplitIfs
import Voiceover.Disk
import Voiceover.Proofs.Steps

/-! Walking on a disk. A path is looked up by its names alone, its last name can be asked for
whether or not anything is there, and what has been reached once can be reached on every disk that
has grown from there. -/

namespace Voiceover.Disk

variable {disk before after : Disk} {place other : Place} {entry : Entry} {path : String}

section Entries

theorem lookup_setEntry (place other : Place) (entry : Entry) (entries : List (Place × Entry)) :
    (setEntry place entry entries).lookup other =
      if other = place then some entry else entries.lookup other := by
  induction entries with
  | nil =>
    by_cases same : other = place
    · rw [setEntry, if_pos same, same, List.lookup_cons_self]
    · have differs : (other == place) = false := beq_eq_false_iff_ne.mpr same
      rw [setEntry, if_neg same, List.lookup_cons, differs]
  | cons first entries ih =>
    obtain ⟨here, kept⟩ := first
    by_cases same : other = here
    · subst same
      by_cases replaces : other = place
      · rw [setEntry, if_pos replaces, replaces, if_pos rfl, List.lookup_cons_self]
      · rw [setEntry, if_neg replaces, if_neg replaces, List.lookup_cons_self, List.lookup_cons_self]
    · have differs : (other == here) = false := beq_eq_false_iff_ne.mpr same
      by_cases replaces : here = place
      · have other_ne : other ≠ place := replaces ▸ same
        rw [setEntry, if_pos replaces, ← replaces, List.lookup_cons, List.lookup_cons, differs,
          if_neg same]
      · rw [setEntry, if_neg replaces, List.lookup_cons, List.lookup_cons, differs]
        exact ih

theorem find_put (inside : place ≠ []) (entry : Entry) (other : Place) :
    (disk.put place entry).find other = if other = place then some entry else disk.find other := by
  rw [find, put, lookup_setEntry, find]
  by_cases root : other = []
  · rw [if_pos root, if_pos root, if_neg (root ▸ Ne.symm inside)]
  · rw [if_neg root, if_neg root]

theorem find_put_self (inside : place ≠ []) (entry : Entry) :
    (disk.put place entry).find place = some entry := by
  rw [find_put inside, if_pos rfl]

/-- What is there already is put there once more without a change. -/
theorem put_of_find (inside : place ≠ []) (found : disk.find place = some entry) :
    disk.put place entry = disk := by
  have stays (entries : List (Place × Entry)) (found : entries.lookup place = some entry) :
      setEntry place entry entries = entries := by
    induction entries with
    | nil => exact nomatch found
    | cons first entries ih =>
      obtain ⟨here, kept⟩ := first
      rw [List.lookup_cons] at found
      rw [setEntry]
      by_cases same : here = place
      · rw [same, beq_self_eq_true] at found
        rw [if_pos same, ← Option.some.inj found, same]
      · have differs : (place == here) = false := beq_eq_false_iff_ne.mpr (Ne.symm same)
        rw [differs] at found
        rw [if_neg same, ih found]
  rw [find, if_neg inside] at found
  rw [put, stays _ found]

end Entries

section Requests

variable (disk path) (content : ByteArray)

theorem storage_read : storage.read path disk = (disk.read path, disk) := rfl

theorem storage_exists : storage.exists? path disk = (disk.exists? path, disk) := rfl

theorem storage_replace :
    storage.replace path content disk =
      match disk.replace path content with
      | .ok after => (.ok (), after)
      | .error reason => (.error reason, disk) := by
  change (match disk.replace path content with
    | .ok written => StateT.bind (set written) fun _ => pure (.ok ())
    | .error reason => pure (.error reason) : StateM Disk (Except FileError Unit)) disk = _
  cases disk.replace path content <;> rfl

theorem storage_write : storage.write path content disk =
    ((disk.write path content).2, (disk.write path content).1) := rfl

theorem storage_makeFolders : storage.makeFolders path disk =
    ((disk.makeFolders path).2, (disk.makeFolders path).1) := rfl

end Requests

section Walks

variable {way front : List String} {name : String}

theorem requireFolder_eq_ok : disk.requireFolder place = .ok () ↔ disk.find place = some .folder := by
  unfold requireFolder
  split <;> simp_all

theorem enter_eq_ok {name : String} {next : Place} :
    disk.enter place name = .ok next ↔ disk.lead place name = .ok next ∧ (disk.find next).isSome := by
  unfold enter
  rw [bind_eq_ok]
  constructor
  · rintro ⟨there, led, entered⟩
    split_ifs at entered with found
    obtain rfl : there = next := Except.ok.inj entered
    exact ⟨led, found⟩
  · rintro ⟨led, found⟩
    exact ⟨next, led, if_pos found⟩

/-- A name leads from one folder to the same place on every disk. -/
theorem lead_folder (folder : before.find place = some .folder) (still : after.find place = some .folder)
    (name : String) : after.lead place name = before.lead place name := by
  unfold lead
  rw [requireFolder_eq_ok.mpr folder, requireFolder_eq_ok.mpr still]

theorem folder_of_lead {name : String} {next : Place} (led : disk.lead place name = .ok next) :
    disk.find place = some .folder := by
  obtain ⟨⟨⟩, required, -⟩ := bind_eq_ok.mp led
  exact requireFolder_eq_ok.mp required

theorem lead_cases {name : String} {next : Place} (led : disk.lead place name = .ok next) :
    name = "." ∧ next = place ∨ name = ".." ∧ next = place.tail ∨
      name ≠ "." ∧ name ≠ ".." ∧ next = name :: place := by
  unfold lead at led
  obtain ⟨-, -, led⟩ := bind_eq_ok.mp led
  by_cases dot : name = "."
  · rw [if_pos dot] at led
    exact .inl ⟨dot, (Except.ok.inj led).symm⟩
  · rw [if_neg dot] at led
    by_cases dots : name = ".."
    · rw [if_pos dots] at led
      exact .inr (.inl ⟨dots, (Except.ok.inj led).symm⟩)
    · rw [if_neg dots] at led
      split_ifs at led
      · exact nomatch led
      · exact .inr (.inr ⟨dot, dots, (Except.ok.inj led).symm⟩)

theorem walk_append (front more : List String) (disk : Disk) :
    disk.walk (front ++ more) = disk.walk front >>= fun place => more.foldlM disk.enter place :=
  List.foldlM_append

theorem walk_concat (front : List String) (name : String) (disk : Disk) :
    disk.walk (front ++ [name]) = disk.walk front >>= fun place => disk.enter place name := by
  rw [walk_append]
  refine congrArg (disk.walk front >>= ·) (funext fun place => ?_)
  simp

/-- Where names lead, and what is there, if anything is. -/
def reach (disk : Disk) (way : List String) : Except FileError (Place × Option Entry) := do
  let above ← disk.walk way.dropLast
  match way.getLast? with
  | none => return ([], some .folder)
  | some name =>
      let place ← disk.lead above name
      return (place, disk.find place)

theorem reach_concat (front : List String) (name : String) (disk : Disk) :
    disk.reach (front ++ [name]) = (do
      let above ← disk.walk front
      let place ← disk.lead above name
      return (place, disk.find place)) := by
  rw [reach, List.dropLast_concat, List.getLast?_concat]

/-- A walk ends where names lead, when something is there. -/
theorem walk_eq (disk : Disk) (way : List String) :
    disk.walk way = disk.reach way >>= fun reached =>
      if reached.2.isSome then .ok reached.1 else .error .missing := by
  rcases List.eq_nil_or_concat' way with rfl | ⟨front, name, rfl⟩
  · rfl
  · rw [walk_concat, reach_concat]
    cases disk.walk front with
    | error reason => rfl
    | ok above =>
      simp only [enter, bind, Except.bind]
      cases disk.lead above name <;> rfl

theorem target_eq (disk : Disk) (path : String) :
    disk.target path = checkPath path >>= fun _ => disk.reach (names path) := by
  unfold target folderAbove
  cases checkPath path with
  | error reason => rfl
  | ok valid =>
    simp only [bind, Except.bind]
    rcases List.eq_nil_or_concat' (names path) with nothing | ⟨front, name, shape⟩
    · rw [nothing]
      rfl
    · rw [shape, reach_concat, List.dropLast_concat, List.getLast?_concat]
      cases disk.walk front with
      | error reason => rfl
      | ok above =>
        simp only [lead, bind, Except.bind]
        cases required : disk.requireFolder above with
        | error reason => rfl
        | ok folder => simp only [pure, Except.pure, required]

theorem reach_found {found : Option Entry} (reached : disk.reach way = .ok (place, found)) :
    found = disk.find place := by
  rcases List.eq_nil_or_concat' way with rfl | ⟨front, name, rfl⟩
  · obtain ⟨rfl, rfl⟩ := Prod.mk.inj (Except.ok.inj reached)
    rfl
  · rw [reach_concat] at reached
    obtain ⟨above, -, reached⟩ := bind_eq_ok.mp reached
    obtain ⟨there, -, reached⟩ := bind_eq_ok.mp reached
    obtain ⟨rfl, rfl⟩ := Prod.mk.inj (Except.ok.inj reached)
    rfl

section Failures

variable {reason : FileError}

def blocks : List FileError := [.missing, .notFolder, .nameTooLong]

theorem lead_error (failed : disk.lead place name = .error reason) : reason ∈ blocks := by
  unfold lead requireFolder at failed
  rcases bind_eq_error.mp failed with failed | ⟨-, -, failed⟩
  · split at failed
    · exact nomatch failed
    · obtain rfl := Except.error.inj failed
      decide
    · obtain rfl := Except.error.inj failed
      decide
  · split_ifs at failed
    · exact nomatch failed
    · exact nomatch failed
    · obtain rfl := Except.error.inj failed
      decide
    · exact nomatch failed

theorem walk_error (failed : disk.walk way = .error reason) : reason ∈ blocks := by
  induction way using List.reverseRecOn with
  | nil => exact nomatch failed
  | append_singleton front name ih =>
    rw [walk_concat] at failed
    rcases bind_eq_error.mp failed with failed | ⟨above, -, failed⟩
    · exact ih failed
    · rcases bind_eq_error.mp failed with failed | ⟨next, -, failed⟩
      · exact lead_error failed
      · split_ifs at failed
        · exact nomatch failed
        · obtain rfl := Except.error.inj failed
          decide

end Failures

/-- A file is put where its path leads, and no folder is there. -/
theorem replace_eq_ok {content : ByteArray} (replaced : disk.replace path content = .ok after) :
    ∃ place, checkPath path = .ok () ∧ wantsFolder path = false ∧
      disk.reach (names path) = .ok (place, disk.find place) ∧ disk.find place ≠ some .folder ∧
      after = disk.put place (.file content) := by
  unfold replace at replaced
  obtain ⟨above, -, replaced⟩ := bind_eq_ok.mp replaced
  by_cases wants : wantsFolder path = true
  · rw [if_pos wants] at replaced
    exact nomatch replaced
  · rw [if_neg wants] at replaced
    obtain ⟨-, -, replaced⟩ := bind_eq_ok.mp replaced
    obtain ⟨⟨place, found⟩, reached, replaced⟩ := bind_eq_ok.mp replaced
    rw [target_eq] at reached
    obtain ⟨valid, checked, reached⟩ := bind_eq_ok.mp reached
    obtain rfl := reach_found reached
    refine ⟨place, checked, by simpa using wants, reached, ?_, ?_⟩
    · intro folder
      rw [folder] at replaced
      exact nomatch replaced
    · split at replaced
      · exact nomatch replaced
      · rename_i same
        cases same
        exact (Except.ok.inj replaced).symm

end Walks

section Growth

variable {way : List String}

structure Grows (before after : Disk) : Prop where
  folder : ∀ place, before.find place = some .folder → after.find place = some .folder
  something : ∀ place, (before.find place).isSome → (after.find place).isSome

theorem Grows.refl (disk : Disk) : Grows disk disk := ⟨fun _ => id, fun _ => id⟩

theorem Grows.trans {middle : Disk} (first : Grows before middle) (second : Grows middle after) :
    Grows before after :=
  ⟨fun place folder => second.folder place (first.folder place folder),
    fun place there => second.something place (first.something place there)⟩

theorem grows_put (inside : place ≠ []) (fits : disk.find place = some .folder → entry = .folder) :
    Grows disk (disk.put place entry) := by
  constructor
  · intro other folder
    rw [find_put inside]
    split_ifs with same
    · rw [fits (same ▸ folder)]
    · exact folder
  · intro other there
    rw [find_put inside]
    split_ifs
    · rfl
    · exact there

theorem lead_of_grows {name : String} {next : Place} (grows : Grows before after)
    (led : before.lead place name = .ok next) : after.lead place name = .ok next := by
  have folder := folder_of_lead led
  rw [lead_folder folder (grows.folder place folder), led]

theorem enter_of_grows {name : String} {next : Place} (grows : Grows before after)
    (entered : before.enter place name = .ok next) : after.enter place name = .ok next := by
  obtain ⟨led, found⟩ := enter_eq_ok.mp entered
  exact enter_eq_ok.mpr ⟨lead_of_grows grows led, grows.something next found⟩

/-- What has been reached can be reached again on a disk that has grown. -/
theorem walk_of_grows (grows : Grows before after) (walked : before.walk way = .ok place) :
    after.walk way = .ok place := by
  induction way using List.reverseRecOn generalizing place with
  | nil => exact walked
  | append_singleton front name ih =>
    rw [walk_concat] at walked ⊢
    obtain ⟨above, passed, entered⟩ := bind_eq_ok.mp walked
    rw [ih passed]
    exact enter_of_grows grows entered

theorem reach_of_grows {found : Option Entry} (grows : Grows before after)
    (reached : before.reach way = .ok (place, found)) : after.reach way = .ok (place, after.find place) := by
  rcases List.eq_nil_or_concat' way with rfl | ⟨front, name, rfl⟩
  · obtain ⟨rfl, -⟩ := Prod.mk.inj (Except.ok.inj reached)
    rfl
  · rw [reach_concat] at reached ⊢
    obtain ⟨above, passed, reached⟩ := bind_eq_ok.mp reached
    obtain ⟨there, led, reached⟩ := bind_eq_ok.mp reached
    obtain ⟨rfl, -⟩ := Prod.mk.inj (Except.ok.inj reached)
    rw [walk_of_grows grows passed]
    change after.lead above name >>= _ = _
    rw [lead_of_grows grows led]
    rfl

/-- What is put where a way leads is where the way leads. -/
theorem walk_put {found : Option Entry} (reached : disk.reach way = .ok (place, found))
    (inside : place ≠ []) (fits : disk.find place = some .folder → entry = .folder) :
    (disk.put place entry).walk way = .ok place := by
  rw [walk_eq, reach_of_grows (grows_put inside fits) reached, find_put_self inside]
  rfl

end Growth

section Reading

/-- What is found at a path is where its names lead, and it is a folder if the path wants one. -/
theorem entryAt_eq_ok_iff :
    disk.entryAt path = .ok entry ↔
      checkPath path = .ok () ∧ (wantsFolder path = true → entry = .folder) ∧
        ∃ place, disk.walk (names path) = .ok place ∧ disk.find place = some entry := by
  unfold entryAt
  cases checkPath path with
  | error reason => simp [bind, Except.bind]
  | ok valid =>
    cases disk.walk (names path) with
    | error reason => simp [bind, Except.bind]
    | ok place =>
      simp only [bind, Except.bind, Except.ok.injEq, exists_eq_left', true_and]
      cases disk.find place with
      | none => simp [throw, throwThe, MonadExceptOf.throw]
      | some found =>
        cases found <;> cases entry <;> cases wantsFolder path <;>
          simp [pure, Except.pure, throw, throwThe, MonadExceptOf.throw]

/-- A file that has just been written is found where it was written. -/
theorem entryAt_replace {content : ByteArray} (replaced : disk.replace path content = .ok after) :
    after.entryAt path = .ok (.file content) := by
  obtain ⟨place, checked, plain, reached, noFolder, rfl⟩ := replace_eq_ok replaced
  have inside : place ≠ [] := by
    rintro rfl
    exact noFolder (if_pos rfl)
  refine entryAt_eq_ok_iff.mpr ⟨checked, ?_, place, ?_, find_put_self inside _⟩
  · exact fun wants => nomatch plain.symm.trans wants
  · exact walk_put reached inside fun folder => absurd folder noFolder

/-- No walk is stopped by a folder. -/
theorem entryAt_ne_isFolder (disk : Disk) (path : String) : disk.entryAt path ≠ .error .isFolder := by
  intro failed
  rcases bind_eq_error.mp failed with failed | ⟨-, -, failed⟩
  · unfold checkPath at failed
    split_ifs at failed
    · exact nomatch Except.error.inj failed
    · exact nomatch Except.error.inj failed
    · exact nomatch Except.error.inj failed
  · rcases bind_eq_error.mp failed with failed | ⟨place, -, failed⟩
    · exact absurd (walk_error failed) (by decide)
    · split at failed
      · exact nomatch Except.error.inj failed
      · exact nomatch failed
      · split_ifs at failed
        · exact nomatch Except.error.inj failed
        · exact nomatch failed

/-- What is at a path can be told from what reading it comes to. -/
theorem entryAt_of_read (same : before.read path = after.read path) :
    before.entryAt path = after.entryAt path := by
  have notFirst := before.entryAt_ne_isFolder path
  have notSecond := after.entryAt_ne_isFolder path
  unfold read at same
  cases first : before.entryAt path with
  | error reason =>
    rw [first] at same notFirst
    cases second : after.entryAt path with
    | error other =>
      rw [second] at same
      exact congrArg _ (Except.error.inj same)
    | ok entry =>
      rw [second] at same
      cases entry with
      | folder => exact absurd (congrArg _ (Except.error.inj same)) notFirst
      | file content => exact nomatch same
  | ok entry =>
    rw [first] at same
    cases second : after.entryAt path with
    | error other =>
      rw [second] at same notSecond
      cases entry with
      | folder => exact absurd (congrArg _ (Except.error.inj same).symm) notSecond
      | file content => exact nomatch same
    | ok other =>
      rw [second] at same
      cases entry with
      | folder =>
        cases other with
        | folder => rfl
        | file content => exact nomatch same
      | file content =>
        cases other with
        | folder => exact nomatch same
        | file other => exact congrArg (Except.ok ∘ Entry.file) (Except.ok.inj same)

end Reading

end Voiceover.Disk

import Voiceover.Proofs.Disk.Parents
import Voiceover.Proofs.Disk.Walking

/-! Making folders. A folder and the folders it is in are made as far as they are not there: nothing
else changes, and what a second attempt comes to is known from the first. -/

namespace Voiceover.Disk

variable {disk before after grown : Disk} {path above : String} {place : Place} {reason : FileError}

section Settling

variable {front more : List String}

theorem isFolder_iff :
    disk.isFolder path = true ↔
      checkPath path = .ok () ∧
        ∃ place, disk.walk (names path) = .ok place ∧ disk.find place = some .folder := by
  have found : disk.isFolder path = true ↔ disk.entryAt path = .ok .folder := by
    unfold isFolder
    split <;> simp_all
  rw [found, entryAt_eq_ok_iff]
  simp only [imp_true_iff, true_and]

theorem settleFolder_refused (refused : checkPath path = .error reason) :
    disk.settleFolder path = (disk, .error reason) := by
  have noFolder : disk.isFolder path = false := by
    rw [Bool.eq_false_iff, ne_eq, isFolder_iff, refused]
    exact fun found => nomatch found.1
  rw [settleFolder, makeFolder, target_eq, refused]
  simp only [bind, Except.bind, noFolder]
  rfl

/-- One folder, by what is where its path leads. -/
theorem settleFolder_eq (checked : checkPath path = .ok ()) :
    disk.settleFolder path =
      match disk.reach (names path) with
      | .error reason => (disk, .error reason)
      | .ok (place, none) => (disk.put place .folder, .ok ())
      | .ok (_, some .folder) => (disk, .ok ())
      | .ok (_, some (.file _)) => (disk, .error .alreadyThere) := by
  have walked := disk.walk_eq (names path)
  rw [settleFolder, makeFolder, target_eq, checked]
  cases reached : disk.reach (names path) with
  | error reason =>
    rw [reached] at walked
    have noFolder : disk.isFolder path = false := by
      rw [Bool.eq_false_iff, ne_eq, isFolder_iff, walked]
      exact fun ⟨_, _, found, _⟩ => nomatch found
    simp only [bind, Except.bind, noFolder]
    rfl
  | ok there =>
    obtain ⟨place, found⟩ := there
    rw [reached] at walked
    have same := reach_found reached
    cases found with
    | none => rfl
    | some entry =>
      have folder : disk.isFolder path = true ↔ entry = .folder := by
        rw [isFolder_iff, checked, walked]
        constructor
        · rintro ⟨-, other, reached, folder⟩
          obtain rfl : place = other := Except.ok.inj reached
          exact Option.some.inj (same.trans folder)
        · rintro rfl
          exact ⟨rfl, place, rfl, same.symm⟩
      cases entry with
      | folder => simp only [bind, Except.bind, throw, throwThe, MonadExceptOf.throw, folder.mpr rfl, if_true]
      | file content =>
        have noFolder : disk.isFolder path = false := by
          rw [Bool.eq_false_iff, ne_eq, folder]
          exact (nomatch ·)
        simp only [bind, Except.bind, throw, throwThe, MonadExceptOf.throw, noFolder]
        rfl

theorem reach_behind_error (failed : disk.reach front = .error reason) (more : List String) :
    disk.reach (front ++ more) = .error reason := by
  rcases List.eq_nil_or_concat' more with rfl | ⟨middle, name, rfl⟩
  · rw [List.append_nil, failed]
  · rw [← List.append_assoc, reach_concat, walk_append, walk_eq, failed]
    rfl

/-- A file on a way: names of the way lead to it, and there are more names behind them. -/
structure FileOnWay (disk : Disk) (way front : List String) : Prop where
  onWay : front <+: way
  short : front ≠ way
  file : ∃ place content, disk.walk front = .ok place ∧ disk.find place = some (.file content)

/-- Nothing is behind a file. -/
theorem FileOnWay.reach_eq {way : List String} (stands : FileOnWay disk way front) :
    disk.reach way = .error .notFolder := by
  obtain ⟨⟨more, rfl⟩, short, place, content, walked, found⟩ := stands
  have stops (name : String) : disk.lead place name = .error .notFolder := by
    rw [lead, requireFolder, found]
    rfl
  rcases List.eq_nil_or_concat' more with rfl | ⟨middle, name, rfl⟩
  · exact absurd (List.append_nil front).symm short
  · rw [← List.append_assoc, reach_concat, walk_append, walked]
    cases middle with
    | nil =>
      change disk.lead place name >>= _ = _
      rw [stops]
      rfl
    | cons next middle =>
      have blocked : disk.enter place next = .error .notFolder := by rw [enter, stops]; rfl
      change (disk.enter place next >>= fun inside => middle.foldlM disk.enter inside) >>= _ = _
      rw [blocked]
      rfl

end Settling

section Adding

structure Paves (way : List String) (before after : Disk) : Prop where
  kept : ∀ place entry, before.find place = some entry → after.find place = some entry
  added : ∀ place entry, before.find place = none → after.find place = some entry →
    entry = .folder ∧ ∃ front, front <+: way ∧ after.walk front = .ok place

variable {way : List String}

theorem Paves.grows (paves : Paves way before after) : Grows before after := by
  constructor
  · exact fun place folder => paves.kept place .folder folder
  · intro place there
    obtain ⟨entry, found⟩ := Option.isSome_iff_exists.mp there
    exact Option.isSome_iff_exists.mpr ⟨entry, paves.kept place entry found⟩

theorem Paves.refl (way : List String) (disk : Disk) : Paves way disk disk := by
  refine ⟨fun _ _ => id, ?_⟩
  intro place entry missing found
  rw [missing] at found
  exact nomatch found

theorem Paves.trans {middle : Disk} (first : Paves way before middle) (second : Paves way middle after) :
    Paves way before after := by
  refine ⟨fun place entry found => second.kept place entry (first.kept place entry found), ?_⟩
  intro place entry missing found
  cases between : middle.find place with
  | none => exact second.added place entry between found
  | some other =>
    obtain ⟨rfl, front, onWay, walked⟩ := first.added place other missing between
    have same := (second.kept place _ between).symm.trans found
    exact ⟨(Option.some.inj same).symm, front, onWay, walk_of_grows second.grows walked⟩

theorem Paves.widen {wide : List String} (paves : Paves way before after) (within : way <+: wide) :
    Paves wide before after := by
  refine ⟨paves.kept, ?_⟩
  intro place entry missing found
  obtain ⟨folder, front, onWay, walked⟩ := paves.added place entry missing found
  exact ⟨folder, front, onWay.trans within, walked⟩

theorem paves_put (reached : disk.reach way = .ok (place, none)) : Paves way disk (disk.put place .folder) := by
  have missing := reach_found reached
  have inside : place ≠ [] := by
    rintro rfl
    exact nomatch missing
  constructor
  · intro other entry there
    rw [find_put inside, if_neg]
    · exact there
    · rintro rfl
      rw [there] at missing
      exact nomatch missing
  · intro other entry nothing there
    rw [find_put inside] at there
    split_ifs at there with same
    · refine ⟨(Option.some.inj there).symm, way, List.prefix_refl _, ?_⟩
      rw [same]
      exact walk_put reached inside fun _ => rfl
    · rw [nothing] at there
      exact nomatch there

theorem settleFolder_paves (disk : Disk) (path : String) :
    Paves (names path) disk (disk.settleFolder path).1 := by
  cases checked : checkPath path with
  | error reason =>
    rw [settleFolder_refused checked]
    exact .refl _ _
  | ok valid =>
    rw [settleFolder_eq checked]
    split
    · exact .refl _ _
    · exact paves_put ‹_›
    · exact .refl _ _
    · exact .refl _ _

/-- Made or not, a folder costs nothing but folders on its way. -/
theorem makeFolders_paves (disk : Disk) (path : String) :
    Paves (names path) disk (disk.makeFolders path).1 := by
  fun_induction makeFolders disk path with
  | case1 => exact .refl _ _
  | case2 path named after settled root => exact .refl _ _
  | case3 path named after settled above found grown made ih =>
    rw [made] at ih
    exact (ih.widen (parent_front found)).trans (settleFolder_paves grown path)
  | case4 path named after settled above found failed ih => exact ih.widen (parent_front found)
  | case5 path named settled => exact settleFolder_paves disk path

end Adding

section Again

variable {result : Except FileError Unit}

theorem settleFolder_of_isFolder (folder : disk.isFolder path = true) :
    disk.settleFolder path = (disk, .ok ()) := by
  obtain ⟨checked, place, walked, found⟩ := isFolder_iff.mp folder
  have reached := disk.walk_eq (names path)
  rw [walked] at reached
  rw [settleFolder_eq checked]
  cases there : disk.reach (names path) with
  | error reason =>
    rw [there] at reached
    exact nomatch reached
  | ok other =>
    obtain ⟨other, entry⟩ := other
    rw [there] at reached
    obtain rfl := reach_found there
    cases known : disk.find other with
    | none =>
      rw [known] at reached
      exact nomatch reached
    | some entry =>
      rw [known] at reached
      obtain rfl : place = other := Except.ok.inj reached
      rw [found] at known
      rw [← Option.some.inj known]

theorem isFolder_of_settleFolder (settled : disk.settleFolder path = (after, .ok ())) :
    after.isFolder path = true := by
  cases checked : checkPath path with
  | error reason =>
    rw [settleFolder_refused checked] at settled
    exact nomatch (Prod.mk.inj settled).2
  | ok valid =>
    rw [settleFolder_eq checked] at settled
    refine isFolder_iff.mpr ⟨checked, ?_⟩
    cases reached : disk.reach (names path) with
    | error reason =>
      rw [reached] at settled
      exact nomatch (Prod.mk.inj settled).2
    | ok there =>
      obtain ⟨place, entry⟩ := there
      rw [reached] at settled
      have found := reach_found reached
      match entry, found with
      | some .folder, found =>
        obtain rfl : disk = after := (Prod.mk.inj settled).1
        exact ⟨place, by rw [walk_eq, reached]; rfl, found.symm⟩
      | some (.file content), found => exact nomatch (Prod.mk.inj settled).2
      | none, found =>
        obtain rfl : disk.put place .folder = after := (Prod.mk.inj settled).1
        have inside : place ≠ [] := by
          rintro rfl
          exact nomatch found
        exact ⟨place, walk_put reached inside fun _ => rfl, find_put_self inside _⟩

theorem eq_of_settleFolder_error (settled : disk.settleFolder path = (after, .error reason)) :
    after = disk := by
  unfold settleFolder at settled
  split at settled
  · exact nomatch (Prod.mk.inj settled).2
  · exact (Prod.mk.inj settled).1.symm

theorem makeFolders_of_isFolder (folder : path = "" ∨ disk.isFolder path = true) :
    disk.makeFolders path = (disk, .ok ()) := by
  rcases folder with rfl | folder
  · rw [makeFolders, if_pos rfl]
  · rw [makeFolders, settleFolder_of_isFolder folder]
    split <;> rfl

theorem isFolder_of_makeFolders (made : disk.makeFolders path = (grown, .ok ())) :
    path = "" ∨ grown.isFolder path = true := by
  fun_induction makeFolders disk path generalizing grown with
  | case1 => exact .inl rfl
  | case2 path named after settled root => exact nomatch (Prod.mk.inj made).2
  | case3 path named after settled above found middle passed ih => exact .inr (isFolder_of_settleFolder made)
  | case4 path named after settled above found failed ih => exact absurd made (failed grown)
  | case5 path named settled => exact .inr (isFolder_of_settleFolder made)

theorem ne_empty_of_makeFolders_error (made : disk.makeFolders path = (grown, .error reason)) : path ≠ "" := by
  rintro rfl
  rw [makeFolders, if_pos rfl] at made
  exact nomatch (Prod.mk.inj made).2

/-- An attempt that fails has failed at one of the folders on the way, and fails there still. -/
theorem exists_of_makeFolders_error (made : disk.makeFolders path = (grown, .error reason)) :
    ∃ stop, names stop <+: names path ∧ (checkPath path = .ok () → checkPath stop = .ok ()) ∧
      grown.settleFolder stop = (grown, .error reason) := by
  fun_induction makeFolders disk path with
  | case1 => exact nomatch (Prod.mk.inj made).2
  | case2 path named after settled root =>
    obtain ⟨rfl, same⟩ := Prod.mk.inj made
    rw [eq_of_settleFolder_error settled] at settled
    exact ⟨path, List.prefix_refl _, id, settled.trans (congrArg _ same)⟩
  | case3 path named after settled above found middle passed ih =>
    obtain rfl := eq_of_settleFolder_error made
    exact ⟨path, List.prefix_refl _, id, made⟩
  | case4 path named after settled above found failed ih =>
    obtain ⟨stop, onWay, checked, stopped⟩ := ih made
    exact ⟨stop, onWay.trans (parent_front found),
      fun valid => checked (checkPath_parent found (ne_empty_of_makeFolders_error made) valid), stopped⟩
  | case5 path named settled =>
    obtain rfl := eq_of_settleFolder_error made
    exact ⟨path, List.prefix_refl _, id, made⟩

/-- What stops a way at one place stops it as far as it goes on, but what was a file in the place of a
folder is then a file on the way. -/
theorem settleFolder_behind {stop : String} (onWay : names stop <+: names path)
    (stopChecked : checkPath stop = .ok ()) (checked : checkPath path = .ok ())
    (stopped : disk.settleFolder stop = (disk, .error reason)) :
    disk.settleFolder path = (disk, .error reason) ∨
      reason = .alreadyThere ∧ FileOnWay disk (names path) (names stop) := by
  rw [settleFolder_eq stopChecked] at stopped
  cases reached : disk.reach (names stop) with
  | error cause =>
    rw [reached] at stopped
    obtain ⟨more, way⟩ := onWay
    rw [settleFolder_eq checked, ← way, reach_behind_error reached]
    exact .inl stopped
  | ok there =>
    obtain ⟨place, entry⟩ := there
    rw [reached] at stopped
    match entry with
    | none => exact nomatch (Prod.mk.inj stopped).2
    | some .folder => exact nomatch (Prod.mk.inj stopped).2
    | some (.file content) =>
      by_cases last : names stop = names path
      · rw [settleFolder_eq checked, ← last, reached]
        exact .inl stopped
      · refine .inr ⟨(Except.error.inj (Prod.mk.inj stopped).2).symm, onWay, last, place, content, ?_, ?_⟩
        · rw [walk_eq, reached]
          rfl
        · exact (reach_found reached).symm

theorem makeFolders_settled (named : path ≠ "") (settled : disk.settleFolder path = (after, result))
    (there : result ≠ .error .missing) : disk.makeFolders path = (after, result) := by
  rw [makeFolders, if_neg named, settled]
  split
  · exact absurd (Prod.mk.inj ‹_›).2 there
  · rfl

theorem makeFolders_root (named : path ≠ "") (settled : disk.settleFolder path = (after, .error .missing))
    (root : Path.parent path = none) : disk.makeFolders path = (disk, .error .missing) := by
  rw [makeFolders, if_neg named, settled]
  dsimp only
  split
  · rfl
  · rename_i above found
    rw [root] at found
    cases found

theorem makeFolders_missing (named : path ≠ "") (settled : disk.settleFolder path = (after, .error .missing))
    (found : Path.parent path = some above) :
    disk.makeFolders path =
      match disk.makeFolders above with
      | (grown, .ok ()) => grown.settleFolder path
      | failed => failed := by
  rw [makeFolders, if_neg named, settled]
  dsimp only
  split
  · rename_i root
    rw [found] at root
    cases root
  · rename_i other same
    obtain rfl : above = other := Option.some.inj (found.symm.trans same)
    rfl

theorem checkPath_of_settleFolder_error (named : path ≠ "")
    (settled : disk.settleFolder path = (after, .error reason))
    (valid : reason = .missing ∨ reason = .alreadyThere) : checkPath path = .ok () := by
  cases checked : checkPath path with
  | ok valid => rfl
  | error cause =>
    rw [settleFolder_refused checked] at settled
    obtain rfl : cause = reason := Except.error.inj (Prod.mk.inj settled).2
    unfold checkPath at checked
    split_ifs at checked <;> cases checked <;> simp at valid

theorem checkPath_of_makeFolders_error (made : disk.makeFolders path = (grown, .error .alreadyThere)) :
    checkPath path = .ok () := by
  have named := ne_empty_of_makeFolders_error made
  cases settled : disk.settleFolder path with
  | mk after result =>
    by_cases missing : result = .error .missing
    · exact checkPath_of_settleFolder_error named (missing ▸ settled) (.inl rfl)
    · obtain ⟨-, rfl⟩ := Prod.mk.inj ((makeFolders_settled named settled missing).symm.trans made)
      exact checkPath_of_settleFolder_error named settled (.inr rfl)

theorem FileOnWay.makeFolders_eq {front : List String} (stands : FileOnWay disk (names path) front)
    (checked : checkPath path = .ok ()) : disk.makeFolders path = (disk, .error .notFolder) := by
  have named : path ≠ "" := by
    rintro rfl
    exact nomatch checked
  have settled : disk.settleFolder path = (disk, .error .notFolder) := by
    rw [settleFolder_eq checked, stands.reach_eq]
  exact makeFolders_settled named settled nofun

/-- A second attempt changes nothing and comes to what the first one came to. Only, where the first
one found a file in the place of a folder on the way it was making, the second one finds the file on
its way. -/
theorem makeFolders_again (made : disk.makeFolders path = (grown, result)) :
    grown.makeFolders path = (grown, result) ∨
      result = .error .alreadyThere ∧ ∃ front, FileOnWay grown (names path) front := by
  cases result with
  | ok done => exact .inl (makeFolders_of_isFolder (isFolder_of_makeFolders made))
  | error reason =>
    induction path using makeFolders.induct disk with
    | case1 => exact absurd rfl (ne_empty_of_makeFolders_error made)
    | case2 path named after settled root =>
      have whole := (makeFolders_root named settled root).symm.trans made
      obtain rfl : disk = grown := (Prod.mk.inj whole).1
      exact .inl made
    -- The folders above are there or have been made, and the last one fails for a reason of its own.
    | case3 path named after settled above found middle passed ih =>
      rw [makeFolders_missing named settled found, passed] at made
      obtain rfl := eq_of_settleFolder_error made
      left
      by_cases missing : reason = .missing
      · subst missing
        rw [makeFolders_missing named made found,
          makeFolders_of_isFolder (isFolder_of_makeFolders passed)]
        exact made
      · exact makeFolders_settled named made fun same => missing (Except.error.inj same)
    -- The folders above fail at one of them, and the second attempt meets it on the whole way already.
    | case4 path named after settled above found failed ih =>
      have checked := checkPath_of_settleFolder_error named settled (.inl rfl)
      rw [makeFolders_missing named settled found] at made
      have stopped : disk.makeFolders above = (grown, .error reason) := by
        split at made
        · exact absurd ‹_› (failed _)
        · exact made
      obtain ⟨stop, onWay, stopChecked, stays⟩ := exists_of_makeFolders_error stopped
      have stopChecked := stopChecked (checkPath_parent found (ne_empty_of_makeFolders_error stopped) checked)
      rcases settleFolder_behind (onWay.trans (parent_front found)) stopChecked checked stays with
        same | ⟨rfl, stands⟩
      · by_cases missing : reason = .missing
        · subst missing
          rw [makeFolders_missing named same found]
          rcases ih stopped with again | ⟨differs, -⟩
          · rw [again]
            exact .inl rfl
          · cases differs
        · exact .inl (makeFolders_settled named same fun same => missing (Except.error.inj same))
      · exact .inr ⟨rfl, names stop, stands⟩
    | case5 path named settled =>
      have there : (disk.settleFolder path).2 ≠ .error .missing :=
        fun missing => settled _ (Prod.ext rfl missing)
      have whole := (makeFolders_settled named rfl there).symm.trans made
      obtain rfl := eq_of_settleFolder_error whole
      exact .inl made

end Again

section Rooted

/-- Everything is in a folder. -/
def Rooted (disk : Disk) : Prop :=
  ∀ name place, (disk.find (name :: place)).isSome → disk.find place = some .folder

theorem rooted_put (rooted : Rooted disk) {name : String} {entry : Entry}
    (free : disk.find (name :: place) = none) (folder : disk.find place = some .folder) :
    Rooted (disk.put (name :: place) entry) := by
  have grows : Grows disk (disk.put (name :: place) entry) := by
    apply grows_put (List.cons_ne_nil _ _)
    intro there
    rw [free] at there
    exact nomatch there
  intro other above there
  rw [find_put (List.cons_ne_nil _ _)] at there
  split_ifs at there with same
  · rw [(List.cons.inj same).2]
    exact grows.folder place folder
  · exact grows.folder above (rooted other above there)

variable {way : List String}

/-- A way that does not turn back leads to what was there before as it did before, whatever has been
added. -/
theorem walk_of_rooted (rooted : Rooted before)
    (kept : ∀ place entry, before.find place = some entry → after.find place = some entry)
    (straight : ".." ∉ way) (walked : after.walk way = .ok place) (there : (before.find place).isSome) :
    before.walk way = .ok place := by
  induction way using List.reverseRecOn generalizing place with
  | nil => exact walked
  | append_singleton front name ih =>
    rw [List.mem_append, List.mem_singleton, not_or] at straight
    obtain ⟨frontStraight, ahead⟩ := straight
    rw [walk_concat] at walked ⊢
    obtain ⟨above, passed, entered⟩ := bind_eq_ok.mp walked
    obtain ⟨led, -⟩ := enter_eq_ok.mp entered
    have folder := folder_of_lead led
    -- The name either stays where it is or leads into the folder above.
    have aboveFolder : before.find above = some .folder := by
      rcases lead_cases led with ⟨-, rfl⟩ | ⟨back, -⟩ | ⟨-, -, rfl⟩
      · obtain ⟨entry, found⟩ := Option.isSome_iff_exists.mp there
        rw [found, ← folder, kept _ entry found]
      · exact absurd back.symm ahead
      · exact rooted name above there
    rw [ih frontStraight passed (by rw [aboveFolder]; rfl)]
    exact enter_eq_ok.mpr ⟨(lead_folder folder aboveFolder name).trans led, there⟩

/-- A file that is met behind folders that had to be made was on no way before, and where everything is
in a folder the way to it turns back. -/
theorem fileOnWay_made {front : List String} (made : disk.makeFolders path = (grown, .error .alreadyThere))
    (stands : FileOnWay grown (names path) front) :
    (∀ there, disk.walk front ≠ .ok there) ∧ (Rooted disk → ".." ∈ front) := by
  have paves := makeFolders_paves disk path
  rw [made] at paves
  obtain ⟨onWay, short, place, content, walked, found⟩ := stands
  -- The file has been there before.
  have file : disk.find place = some (.file content) := by
    cases before : disk.find place with
    | none => exact nomatch (paves.added place _ before found).1
    | some entry => exact (paves.kept place entry before).symm.trans found
  have unreached (there : Place) : disk.walk front ≠ .ok there := by
    intro before
    obtain rfl := Except.ok.inj ((walk_of_grows paves.grows before).symm.trans walked)
    have stood : FileOnWay disk (names path) front := ⟨onWay, short, there, content, before, file⟩
    exact nomatch (stood.makeFolders_eq (checkPath_of_makeFolders_error made)).symm.trans made
  refine ⟨unreached, fun rooted => ?_⟩
  by_contra straight
  exact unreached place (walk_of_rooted rooted paves.kept straight walked (by rw [file]; rfl))

end Rooted

end Voiceover.Disk

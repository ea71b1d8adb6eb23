import Mathlib.Tactic.SplitIfs
import Voiceover.Disk
import Voiceover.Proofs.Text.Cutting

/-! The folder that a path is in, by the names on the way. What is dropped from the end of a path
names nothing but single dots, so the way to the folder is the front of the way to the path. -/

namespace Voiceover.Disk

open Text

section Names

variable {front back : List Char}

theorem names_ofList (text : List Char) :
    names (String.ofList text) = ((text.splitOn '/').filter (· ≠ [])).map String.ofList := by
  rw [names, String.toList_ofList, pieces_eq_splitOn]

theorem names_append_slash (front back : List Char) :
    names (String.ofList (front ++ '/' :: back)) =
      names (String.ofList front) ++ names (String.ofList back) := by
  rw [names_ofList, names_ofList, names_ofList, List.splitOn_append_cons_self, List.filter_append,
    List.map_append]

theorem names_plain {name : List Char} (plain : '/' ∉ name) (named : name ≠ []) :
    names (String.ofList name) = [String.ofList name] := by
  have kept : [name].filter (· ≠ []) = [name] := List.filter_cons_of_pos (decide_eq_true named)
  rw [names_ofList, List.splitOn_eq_singleton plain, kept, List.map_singleton]

/-- A name behind an empty path or a slash is one name more. -/
theorem names_append {folder name : List Char} (opens : folder = [] ∨ folder.getLast? = some '/')
    (plain : '/' ∉ name) (named : name ≠ []) :
    names (String.ofList (folder ++ name)) = names (String.ofList folder) ++ [String.ofList name] := by
  rcases opens with rfl | slash
  · exact names_plain plain named
  · obtain ⟨front, rfl⟩ := List.getLast?_eq_some_iff.mp slash
    have nothing : names (String.ofList []) = [] := rfl
    rw [List.append_assoc, List.singleton_append, names_append_slash, names_append_slash,
      names_plain plain named, nothing, List.append_nil]

theorem names_dropEnd (reversed : List Char) :
    ∃ dots, names (String.ofList reversed.reverse) =
      names (String.ofList (Path.dropEnd reversed).reverse) ++ List.replicate dots "." := by
  have nothing : names (String.ofList []) = [] := rfl
  have dot : names (String.ofList ['.']) = ["."] := rfl
  fun_induction Path.dropEnd reversed with
  | case1 earlier ih =>
    obtain ⟨dots, shape⟩ := ih
    refine ⟨dots, ?_⟩
    rw [List.reverse_cons, names_append_slash, nothing, List.append_nil, shape]
  | case2 earlier ih =>
    obtain ⟨dots, shape⟩ := ih
    refine ⟨dots + 1, ?_⟩
    rw [List.reverse_cons, names_append_slash, nothing, List.append_nil] at shape
    rw [List.reverse_cons, List.reverse_cons, List.append_assoc, List.singleton_append,
      names_append_slash, dot, shape, List.append_assoc, List.replicate_succ']
  | case3 kept => exact ⟨0, by rw [List.replicate_zero, List.append_nil]⟩

end Names

theorem dropEnd_front (text : List Char) : (Path.dropEnd text.reverse).reverse <+: text := by
  have back (reversed : List Char) : Path.dropEnd reversed <:+ reversed := by
    fun_induction Path.dropEnd reversed with
    | case1 earlier ih => exact ih.trans (List.suffix_cons ..)
    | case2 earlier ih => exact ih.trans (List.suffix_cons ..)
    | case3 kept => exact List.suffix_refl _
  rw [← List.reverse_suffix, List.reverse_reverse]
  exact back text.reverse

/-- The pieces of a path that `Path.parent` tells apart. -/
theorem splitLast_pieces (path : List Char) :
    (Path.splitLast path).1 ++ (Path.splitLast path).2 = (Path.dropEnd path.reverse).reverse ∧
      ((Path.splitLast path).1 = [] ∨ (Path.splitLast path).1.getLast? = some '/') ∧
      '/' ∉ (Path.splitLast path).2 := by
  rw [Path.splitLast]
  refine ⟨?_, ?_, ?_⟩
  · rw [← List.reverse_append, List.takeWhile_append_dropWhile]
  · rw [List.reverse_eq_nil_iff, List.getLast?_reverse]
    cases found : (Path.dropEnd path.reverse).dropWhile (· ≠ '/') with
    | nil => exact .inl rfl
    | cons c rest =>
      have stops := List.head?_dropWhile_not (· ≠ '/') (Path.dropEnd path.reverse)
      rw [found] at stops
      exact .inr (congrArg some (by simpa using stops))
  · intro slash
    have kept := List.mem_takeWhile_imp (List.mem_reverse.mp slash)
    simp at kept

variable {path above : String}

theorem parent_cases (found : Path.parent path = some above) :
    ∃ folder name : List Char, Path.splitLast path.toList = (folder, name) ∧ name ≠ [] ∧
      ((above = "" ∨ above = "/") ∧ Path.dropEnd folder.reverse = [] ∨
        above = String.ofList (Path.dropEnd folder.reverse).reverse) := by
  unfold Path.parent at found
  generalize Path.splitLast path.toList = split at found ⊢
  obtain ⟨folder, name⟩ := split
  refine ⟨folder, name, rfl, ?_⟩
  dsimp only at found
  by_cases unnamed : name = []
  · rw [if_pos unnamed] at found
    exact nomatch found
  · rw [if_neg unnamed] at found
    refine ⟨unnamed, ?_⟩
    cases shape : Path.dropEnd folder.reverse with
    | nil =>
      rw [shape] at found
      dsimp only at found
      refine .inl ⟨?_, rfl⟩
      split_ifs at found
      · exact .inl (Option.some.inj found).symm
      · exact .inr (Option.some.inj found).symm
    | cons last rest =>
      rw [shape] at found
      exact .inr (Option.some.inj found).symm

/-- The way to a path is the way to its folder, one name more, and single dots. -/
theorem names_of_parent (found : Path.parent path = some above) :
    ∃ dots name more, names path =
      names above ++ (List.replicate dots "." ++ name :: List.replicate more ".") := by
  obtain ⟨folder, name, split, named, shapes⟩ := parent_cases found
  obtain ⟨whole, opens, plain⟩ := splitLast_pieces path.toList
  rw [split] at whole opens plain
  obtain ⟨more, kept⟩ := names_dropEnd path.toList.reverse
  obtain ⟨dots, way⟩ := names_dropEnd folder.reverse
  rw [List.reverse_reverse, String.ofList_toList, ← whole, names_append opens plain named] at kept
  rw [List.reverse_reverse] at way
  have same : names above = names (String.ofList (Path.dropEnd folder.reverse).reverse) := by
    rcases shapes with ⟨root, nothing⟩ | rfl
    · rw [nothing]
      rcases root with rfl | rfl <;> rfl
    · rfl
  refine ⟨dots, String.ofList name, more, ?_⟩
  rw [kept, way, same, List.append_assoc, List.append_assoc, List.singleton_append]

theorem parent_front (found : Path.parent path = some above) : names above <+: names path := by
  obtain ⟨dots, name, more, shape⟩ := names_of_parent found
  rw [shape]
  exact List.prefix_append ..

/-- What is a path stays one when its end is cut off. -/
theorem checkPath_front (front : above.toList <+: path.toList) (named : above ≠ "")
    (checked : checkPath path = .ok ()) : checkPath above = .ok () := by
  obtain ⟨rest, text⟩ := front
  have whole : path = above ++ String.ofList rest := by
    rw [← String.toList_inj, String.toList_append, String.toList_ofList, text]
  unfold checkPath at checked ⊢
  split_ifs at checked with nul empty long
  have shorter : above.utf8ByteSize ≤ path.utf8ByteSize := by
    rw [whole, String.utf8ByteSize_append]
    omega
  rw [if_neg, if_neg named, if_neg (by omega)]
  intro inside
  apply nul
  rw [List.contains_iff_mem] at inside ⊢
  rw [← text]
  exact List.mem_append_left _ inside

theorem checkPath_parent (found : Path.parent path = some above) (named : above ≠ "")
    (checked : checkPath path = .ok ()) : checkPath above = .ok () := by
  obtain ⟨folder, name, split, -, shapes⟩ := parent_cases found
  rcases shapes with ⟨rfl | rfl, -⟩ | rfl
  · exact absurd rfl named
  · rfl
  · obtain ⟨whole, -, -⟩ := splitLast_pieces path.toList
    rw [split] at whole
    have inner : folder <+: (Path.dropEnd path.toList.reverse).reverse := whole ▸ List.prefix_append ..
    apply checkPath_front _ named checked
    rw [String.toList_ofList]
    exact ((dropEnd_front folder).trans inner).trans (dropEnd_front path.toList)

end Voiceover.Disk

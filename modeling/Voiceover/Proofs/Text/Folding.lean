import Voiceover.Text.Lowercase
import Voiceover.Text

/-! Case folding as a walk with one bit on each side. A sigma looks at the text around it through
case-ignorable characters only, so all that the text before a stretch can tell the stretch is
whether it ends in a cased character, and all that the text after it can tell is whether it begins
with one. White space and commas tell nothing in either direction: a fold can be cut there. -/

namespace Voiceover.Text

def lookPast (c : Char) (beyond : Bool) : Bool :=
  if isCaseIgnorable c then beyond else isCased c

theorem lookPast_ignorable {c : Char} (ignorable : isCaseIgnorable c = true) (beyond : Bool) :
    lookPast c beyond = beyond := if_pos ignorable

theorem lookPast_firm {c : Char} (firm : ¬isCaseIgnorable c = true) (beyond : Bool) :
    lookPast c beyond = isCased c := if_neg firm

def casedAhead (text : List Char) (beyond : Bool) : Bool :=
  text.foldr lookPast beyond

def casedBehind (beyond : Bool) (text : List Char) : Bool :=
  text.foldl (fun behind c => lookPast c behind) beyond

def foldChar (behind ahead : Bool) (c : Char) : List Char :=
  if c = 'Σ' then if behind && !ahead then ['ς'] else ['σ'] else lowerChar c

/-- The fold of a text between a text that ends in a cased character, or does not, and one that
begins with a cased character, or does not. -/
def foldBetween (behind ahead : Bool) : List Char → List Char
  | [] => []
  | c :: rest =>
      foldChar behind (casedAhead rest ahead) c ++ foldBetween (lookPast c behind) ahead rest

@[simp] theorem casedAhead_nil (beyond : Bool) : casedAhead [] beyond = beyond := rfl

@[simp] theorem casedAhead_cons (c : Char) (text : List Char) (beyond : Bool) :
    casedAhead (c :: text) beyond = lookPast c (casedAhead text beyond) := rfl

theorem casedAhead_append (front back : List Char) (beyond : Bool) :
    casedAhead (front ++ back) beyond = casedAhead front (casedAhead back beyond) := by
  simp only [casedAhead, List.foldr_append]

@[simp] theorem casedBehind_nil (beyond : Bool) : casedBehind beyond [] = beyond := rfl

@[simp] theorem casedBehind_cons (beyond : Bool) (c : Char) (text : List Char) :
    casedBehind beyond (c :: text) = casedBehind (lookPast c beyond) text := rfl

theorem casedBehind_append (beyond : Bool) (front back : List Char) :
    casedBehind beyond (front ++ back) = casedBehind (casedBehind beyond front) back := by
  simp only [casedBehind, List.foldl_append]

@[simp] theorem foldBetween_nil (behind ahead : Bool) : foldBetween behind ahead [] = [] := rfl

theorem foldBetween_cons (behind ahead : Bool) (c : Char) (rest : List Char) :
    foldBetween behind ahead (c :: rest) =
      foldChar behind (casedAhead rest ahead) c ++ foldBetween (lookPast c behind) ahead rest := rfl

/-- A fold can be cut anywhere, as long as each part is told what the other one shows it. -/
theorem foldBetween_append (behind ahead : Bool) (front back : List Char) :
    foldBetween behind ahead (front ++ back) =
      foldBetween behind (casedAhead back ahead) front ++
        foldBetween (casedBehind behind front) ahead back := by
  induction front generalizing behind with
  | nil => rfl
  | cons c front ih =>
    rw [List.cons_append, foldBetween_cons, foldBetween_cons, ih, casedAhead_append,
      casedBehind_cons, List.append_assoc]

theorem meetsCased_cons (c : Char) (text : List Char) :
    meetsCased (c :: text) = lookPast c (meetsCased text) := by
  by_cases ignorable : isCaseIgnorable c = true
  · rw [lookPast_ignorable ignorable]
    simp only [meetsCased, List.dropWhile_cons, ignorable, if_true]
  · rw [lookPast_firm ignorable]
    simp only [meetsCased, List.dropWhile_cons, ignorable, Bool.false_eq_true, if_false]

theorem meetsCased_eq_casedAhead (text : List Char) : meetsCased text = casedAhead text false := by
  induction text with
  | nil => rfl
  | cons c text ih => rw [meetsCased_cons, casedAhead_cons, ih]

theorem lowerBetween_eq_foldChar (before after : List Char) (c : Char) :
    lowerBetween before c after = foldChar (meetsCased before) (casedAhead after false) c := by
  rw [← meetsCased_eq_casedAhead]
  rfl

theorem lowerAfter_eq_foldBetween (before done text : List Char) :
    lowerAfter before done text =
      done.reverse ++ foldBetween (meetsCased before) false text := by
  induction text generalizing before done with
  | nil => simp only [lowerAfter, foldBetween_nil, List.append_nil]
  | cons c rest ih =>
    rw [lowerAfter, ih, lowerBetween_eq_foldChar, meetsCased_cons, foldBetween_cons,
      List.reverse_append, List.reverse_reverse, List.append_assoc]

/-- A whole text stands between nothing and nothing. -/
theorem lowercase_eq_foldBetween (text : List Char) :
    lowercase text = foldBetween false false text := by
  rw [lowercase, lowerAfter_eq_foldBetween]
  rfl

end Voiceover.Text

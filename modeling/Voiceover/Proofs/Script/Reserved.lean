import Voiceover.Proofs.Script.Spelling

/-! The name of the built-in profile. It stands first among the profiles of every script, but nothing
keeps a declaration from being about the same name. Such a declaration is one more profile of that name,
and no speaker ever gets its voice. -/

namespace Voiceover

open Text

def declaredName (line : List Char) : String :=
  String.ofList (trim (characterField (lowercase line)))

theorem character_eq_declaredName {line : List Char} {profile : VoiceProfile}
    (declares : Declares (lowercase line) profile) : profile.character = declaredName line := by
  obtain ⟨body, character, voiceId, rate, others, shape, fields, named, -⟩ := declares
  have comma : ',' ∈ body := by
    by_contra free
    rw [List.splitOn_eq_singleton free] at fields
    cases fields
  obtain ⟨field, back, rfl, free⟩ := List.eq_append_cons_of_mem comma
  rw [List.splitOn_append_cons_self_of_not_mem free] at fields
  rw [declaredName, characterField, shape, List.drop_left, takeWhile_ne_append free,
    (List.cons.inj fields).1, named]

def reservedName : String := VoiceProfile.builtIn.character

/-- The first declaration of a name is found by it, unless the built-in profile is found before it. -/
theorem VoiceRegistry.resolve_first_declared {registry : VoiceRegistry}
    {earlier later : List VoiceProfile} {profile : VoiceProfile}
    (declared : registry.declared = earlier ++ profile :: later)
    (fresh : ∀ other ∈ earlier, other.character ≠ profile.character) :
    registry.resolve profile.character =
      if profile.character = reservedName then .builtIn else profile := by
  have entries : registry.toList = .builtIn :: (earlier ++ profile :: later) :=
    congrArg (VoiceProfile.builtIn :: ·) declared
  symm
  rw [← firstNamed_iff, entries]
  split_ifs with reserved
  · exact .inl ⟨[], earlier ++ profile :: later, rfl, reserved.symm, List.forall_mem_nil _⟩
  · exact .inl ⟨.builtIn :: earlier, later, rfl, rfl,
      List.forall_mem_cons.mpr ⟨Ne.symm reserved, fresh⟩⟩

namespace Script

variable {source : String} {script : Script}

/-- The declarations of a script are about the characters of its profiles, in order. -/
theorem map_declaredName (read : parse source = .ok script) :
    (declarations source).map declaredName = script.voices.declared.map (·.character) := by
  have declares := forall₂_declarations read
  generalize script.voices.declared = profiles at declares
  generalize declarations source = lines at declares
  induction declares with
  | nil => rfl
  | cons first _ ih => rw [List.map_cons, List.map_cons, character_eq_declaredName first, ih]

/-- The built-in profile is the only one of its name unless a declaration is about that name, and every
declaration that is adds one. The first declaration of any other name is what is found by the name; one
of this name is never found, whatever voice it asks for. -/
theorem reserved_name (read : parse source = .ok script) :
    (script.voices.toList.filter (·.character = reservedName) = [.builtIn] ↔
        ∀ line ∈ declarations source, declaredName line ≠ reservedName) ∧
      script.voices.toList.countP (·.character = reservedName) =
        1 + (declarations source).countP (declaredName · = reservedName) ∧
      ∀ earlier profile later, script.voices.declared = earlier ++ profile :: later →
        (∀ other ∈ earlier, other.character ≠ profile.character) →
        script.voices.resolve profile.character =
            (if profile.character = reservedName then .builtIn else profile) ∧
          (script.voices.resolve profile.character = profile ↔
            profile.character ≠ reservedName ∨ profile = .builtIn) := by
  have names := map_declaredName read
  have entries : script.voices.toList = .builtIn :: script.voices.declared := rfl
  refine ⟨?_, ?_, ?_⟩
  · rw [entries, List.filter_cons_of_pos (by decide), List.cons_eq_cons, List.filter_eq_nil_iff,
      ← List.forall_mem_map (f := declaredName) (P := (· ≠ reservedName)), names, List.forall_mem_map]
    simp only [true_and, decide_eq_true_eq, ne_eq]
  · have counted := congrArg (List.countP (· = reservedName)) names
    rw [List.countP_map, List.countP_map] at counted
    rw [entries, List.countP_cons_of_pos (by decide), Nat.add_comm]
    exact congrArg (1 + ·) counted.symm
  · intro earlier profile later declared fresh
    have resolved := VoiceRegistry.resolve_first_declared declared fresh
    refine ⟨resolved, ?_⟩
    rw [resolved]
    split_ifs with reserved
    · simp only [reserved, ne_eq, not_true_eq_false, false_or, eq_comm]
    · simp only [reserved, ne_eq, not_false_eq_true, true_or]

/-- A declaration under the reserved name, in capitals and between spaces, is read, and its voice is not
found. -/
theorem reserved_name_declared :
    ∃ script, parse "voice: Default ,maria,3\ndefault: hi" = .ok script ∧
      script.voices.toList.countP (·.character = reservedName) = 2 ∧
      script.voices.declared = [⟨"default", "maria", 3⟩] ∧
      script.voices.resolve "default" ≠ ⟨"default", "maria", 3⟩ := by
  have read : parse "voice: Default ,maria,3\ndefault: hi" =
      .ok ⟨⟨[⟨"default", "maria", 3⟩]⟩, [⟨"default", "hi", .builtIn⟩]⟩ := by decide +kernel
  have declared : (declarations "voice: Default ,maria,3\ndefault: hi").countP
      (declaredName · = reservedName) = 1 := by decide +kernel
  obtain ⟨-, count, found⟩ := reserved_name read
  refine ⟨_, read, count.trans (congrArg (1 + ·) declared), rfl, ?_⟩
  intro same
  rcases (found [] _ [] rfl (List.forall_mem_nil _)).2.mp same with other | builtIn
  · exact other rfl
  · exact absurd builtIn (by decide)

end Script

end Voiceover

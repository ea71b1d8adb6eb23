import Voiceover.Proofs.Compile.Enactment

/-! Where a compilation faults. The only counting that a compilation does with what an engine says is
the inspection of the answers, so a fault is the engine's own or the overflow of an answer, and the
run gets to it only when everything before it succeeds. -/

namespace Voiceover

namespace Rehearsal

variable {rehearsal : Rehearsal σ} {start : σ}

/-- Only a call can fault: the engine faults, or its answer overflows. -/
theorem failure?_eq_fault_iff {before : List Cue} {cue : Cue} {fault : Fault} :
    rehearsal.failure? start before cue = some (.fault fault) ↔
      ∃ request, cue.act = .call request ∧
        (rehearsal.answer (callsOf before) request = .error (.fault fault) ∨
          ∃ synthesis, rehearsal.answer (callsOf before) request = .ok synthesis ∧
            synthesis.Overflows fault) := by
  cases asked : cue.act with
  | write path content =>
    rw [failure?_write _ _ _ asked]
    cases (rehearsal.store (rehearsal.stored start before) path content).2 <;> simp
  | call request =>
    rw [failure?_call _ _ _ asked]
    simp only [Act.call.injEq, exists_eq_left']
    cases rehearsal.answer (callsOf before) request with
    | error failure => cases failure <;> simp
    | ok synthesis => simp [← Synthesis.overflow?_eq_some_iff]

theorem Stands.error_eq {cues done later : List Cue} {cue : Cue} {error : CompileError}
    {result : α → Prop} {run : Except CompileError α × Rehearsed σ}
    (stands : rehearsal.Stands start [] cues result run)
    (planned : cues = done ++ cue :: later) (sound : rehearsal.Succeeds start done)
    (failed : rehearsal.failure? start done cue = some error) :
    run.1 = .error error := by
  obtain ⟨reached, rest, split, place, ends⟩ := stands
  rw [List.nil_append] at place ends
  rw [planned] at split
  have ahead : done <+: reached := by
    apply sound.prefix_of_failure _ ends.stops
    exact ⟨cue :: later, split⟩
  have back : reached <+: done := by
    apply place.succeeds.prefix_of_failure ⟨rest, split.symm⟩
    intro first member
    obtain rfl : cue = first := by simpa using member
    rw [failed]
    simp
  obtain rfl : done = reached := ahead.eq_of_length_le back.length_le
  rw [List.append_cancel_left split.symm] at ends
  obtain ⟨found, sameFailure, outcome⟩ := ends
  rw [failed, Option.some.injEq] at sameFailure
  rw [outcome, sameFailure]

/-- A compilation faults exactly when the agenda of its script holds a call that faults or whose
answer overflows, and the run gets to it. The header of a file has its part in that only by the bits
of a frame: the nanoseconds of the frames fit their word at every size and rate. -/
theorem compile_faults_iff (rehearsal : Rehearsal σ) (start : σ) (source : String)
    (folder : Folder) :
    (∀ fault, (rehearsal.compile start source folder).1 = .error (.fault fault) ↔
      ∃ script done cue later request, Script.parse source = .ok script ∧
        rehearsal.agenda folder [] script.utterances = done ++ cue :: later ∧
        rehearsal.Succeeds start done ∧ cue.act = .call request ∧
        (rehearsal.answer (callsOf done) request = .error (.fault fault) ∨
          ∃ synthesis, rehearsal.answer (callsOf done) request = .ok synthesis ∧
            synthesis.Overflows fault)) ∧
    ∀ (info : WaveInfo) (blockAlign : Nat),
      info.dataSize.toNat / max blockAlign 1 * nanosPerSecond < word64 := by
  refine ⟨?_, WaveInfo.frameNanos_lt⟩
  intro fault
  constructor
  · intro faulted
    cases parsed : Script.parse source with
    | error reason =>
      rw [compile_unread rehearsal parsed] at faulted
      exact absurd faulted (by simp)
    | ok script =>
      obtain ⟨done, rest, planned, reached, ends⟩ := compile_stands rehearsal start parsed folder
      rw [List.nil_append] at reached ends
      cases rest with
      | nil =>
        obtain ⟨compilation, outcome, _⟩ := ends
        rw [faulted] at outcome
        exact absurd outcome (by simp)
      | cons cue later =>
        obtain ⟨error, failed, outcome⟩ := ends
        rw [faulted, Except.error.injEq] at outcome
        rw [← outcome, failure?_eq_fault_iff] at failed
        obtain ⟨request, asked, faults⟩ := failed
        exact ⟨script, done, cue, later, request, rfl, planned, reached.succeeds, asked, faults⟩
  · intro holds
    obtain ⟨script, done, cue, later, request, parsed, planned, sound, asked, faults⟩ := holds
    apply (compile_stands rehearsal start parsed folder).error_eq planned sound
    rw [failure?_eq_fault_iff]
    exact ⟨request, asked, faults⟩

/-- A file whose header says 256 channels of 256 bits, without any samples. -/
def wideFile : ByteArray :=
  ⟨#[82, 73, 70, 70, 36, 0, 0, 0, 87, 65, 86, 69, 102, 109, 116, 32, 16, 0, 0, 0, 1, 0, 0, 1,
    128, 62, 0, 0, 0, 0, 0, 0, 0, 0, 0, 1, 100, 97, 116, 97, 0, 0, 0, 0]⟩

/-- An engine that answers with this file ends a compilation that nothing else is wrong with. -/
theorem compile_faults_wideFile :
    ((Rehearsal.mk "mock" (fun _ _ => .ok ⟨wideFile, []⟩)
      fun (state : Unit) _ _ => (state, .ok ())).compile () "amy: hi" "out").1 =
        .error (.fault .product) := by
  let utterance : Utterance := ⟨"amy", "hi", .builtIn⟩
  have parsed : Script.parse "amy: hi" = .ok ⟨⟨[]⟩, [utterance]⟩ := by decide +kernel
  have scanned : Wave.scan wideFile = .ok ⟨⟨16000, 256, 256⟩, 44, 0⟩ := by decide +kernel
  have overflows : Synthesis.Overflows ⟨wideFile, []⟩ .product :=
    .wideFrame scanned (by decide) (by decide)
  apply ((compile_faults_iff _ () "amy: hi" "out").1 .product).mpr
  exact ⟨_, [], _, _, utterance.request, parsed, rfl, .nil, rfl, .inr ⟨_, rfl, overflows⟩⟩

end Rehearsal

end Voiceover

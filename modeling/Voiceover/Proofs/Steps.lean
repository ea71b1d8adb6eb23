/-! Steps that can fail, one after the other. Together they come to what the last of them comes to, or
to the failure of the first that fails, and what they have done to a state stays done. -/

namespace Voiceover

section Results

variable {ε α β : Type} {action : Except ε α} {next : α → Except ε β}

theorem bind_eq_ok {result : β} :
    action >>= next = .ok result ↔ ∃ value, action = .ok value ∧ next value = .ok result := by
  cases action with
  | error reason => exact ⟨(nomatch ·), fun ⟨_, same, _⟩ => nomatch same⟩
  | ok value =>
    refine ⟨fun same => ⟨value, rfl, same⟩, ?_⟩
    intro ⟨_, same, rest⟩
    rwa [Except.ok.inj same]

theorem bind_eq_error {reason : ε} :
    action >>= next = .error reason ↔
      action = .error reason ∨ ∃ value, action = .ok value ∧ next value = .error reason := by
  cases action with
  | error other =>
    constructor
    · exact fun failed => .inl (congrArg _ (Except.error.inj failed))
    · rintro (same | ⟨_, same, _⟩)
      · exact congrArg _ (Except.error.inj same)
      · exact nomatch same
  | ok value =>
    constructor
    · exact fun failed => .inr ⟨value, rfl, failed⟩
    · rintro (same | ⟨_, same, failed⟩)
      · exact nomatch same
      · rwa [← Except.ok.inj same] at failed

end Results

section States

variable {σ ε α β : Type}

theorem run_bind_state (program : ExceptT ε (StateM σ) α) (next : α → ExceptT ε (StateM σ) β) (state : σ) :
    (program >>= next).run state =
      match program.run state with
      | (.ok value, after) => (next value).run after
      | (.error reason, after) => (.error reason, after) := by
  change (match (program.run state).1, (program.run state).2 with
    | result, after => ExceptT.bindCont next result after) = _
  obtain ⟨result, after⟩ := program.run state
  cases result <;> rfl

theorem run_lift_state (action : StateM σ α) (state : σ) :
    (liftM action : ExceptT ε (StateM σ) α).run state = (.ok (action state).1, (action state).2) := rfl

theorem run_adapt {δ : Type} (blame : ε → δ) (program : ExceptT ε (StateM σ) α) (state : σ) :
    (program.adapt blame).run state = ((program.run state).1.mapError blame, (program.run state).2) := rfl

end States

end Voiceover

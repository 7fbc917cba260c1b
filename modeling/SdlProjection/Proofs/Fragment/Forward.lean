import SdlProjection.Fragment.Loops

/-!
Contract: loops that move a cursor forward.

Owns: `Cursor.Reaches` and `Cursor.Precedes`, the same lines seen from another
place, and the rule by which a loop comes to an end: if every pass that goes on
has moved the cursor forward, more passes than there are lines left are never
needed.

Does not own: the passes (`Proofs.Fragment.Loops`).
-/

namespace SdlProjection

namespace Cursor

/-- The same lines, seen from the same place or from a later one. -/
structure Reaches (before after : Cursor) : Prop where
  file : after.file = before.file
  lines : after.lines = before.lines
  place : before.passed.length ≤ after.passed.length

/-- The same lines, seen from a later place. -/
structure Precedes (before after : Cursor) : Prop where
  reaches : before.Reaches after
  place : before.passed.length < after.passed.length

variable {first second third before after : Cursor}

theorem length_lines (cursor : Cursor) :
    cursor.lines.length = cursor.passed.length + cursor.rest.length := by
  simp [lines]

/-- No place is behind the last line. -/
theorem length_passed_le (cursor : Cursor) : cursor.passed.length ≤ cursor.lines.length := by
  rw [length_lines]
  exact Nat.le_add_right _ _

theorem Reaches.refl (cursor : Cursor) : cursor.Reaches cursor :=
  ⟨rfl, rfl, Nat.le_refl _⟩

theorem Reaches.trans (earlier : first.Reaches second) (later : second.Reaches third) :
    first.Reaches third where
  file := later.file.trans earlier.file
  lines := later.lines.trans earlier.lines
  place := Nat.le_trans earlier.place later.place

theorem Precedes.reaches_of (earlier : first.Precedes second) (later : second.Reaches third) :
    first.Precedes third :=
  ⟨earlier.reaches.trans later, Nat.lt_of_lt_of_le earlier.place later.place⟩

theorem Reaches.within (reaches : before.Reaches after) :
    after.passed.length ≤ before.lines.length := by
  rw [← reaches.lines]
  exact after.length_passed_le

theorem Reaches.rest_le (reaches : before.Reaches after) :
    after.rest.length ≤ before.rest.length := by
  have sameLength := congrArg List.length reaches.lines
  have place := reaches.place
  rw [length_lines, length_lines] at sameLength
  omega

theorem Precedes.rest_lt (precedes : before.Precedes after) :
    after.rest.length < before.rest.length := by
  have sameLength := congrArg List.length precedes.reaches.lines
  have place := precedes.place
  rw [length_lines, length_lines] at sameLength
  omega

/-- A place among the lines is settled by what is left. -/
theorem Reaches.eq_of_rest (reaches : before.Reaches first) (reaches' : before.Reaches second)
    (same : first.rest = second.rest) : first = second := by
  have lines := reaches.lines.trans reaches'.lines.symm
  have file := reaches.file.trans reaches'.file.symm
  obtain ⟨firstFile, firstPassed, firstRest⟩ := first
  obtain ⟨secondFile, secondPassed, secondRest⟩ := second
  simp only at file same
  subst file same
  simp only [Cursor.lines, List.append_cancel_right_eq, List.reverse_inj] at lines
  rw [lines]

/-- A line is passed at a time. -/
theorem precedes_advance {cursor : Cursor} {line : List Char} {rest : List (List Char)}
    (here : cursor.rest = line :: rest) : cursor.Precedes cursor.advance where
  reaches := by
    simp only [advance, here]
    exact ⟨rfl, by simp [lines, here], Nat.le_succ _⟩
  place := by
    simp only [advance, here]
    exact Nat.lt_succ_self _

theorem rest_advance (cursor : Cursor) : cursor.advance.rest = cursor.rest.tail := by
  cases here : cursor.rest with
  | nil => simp only [advance, here, List.tail_nil]
  | cons line rest => simp only [advance, here, List.tail_cons]

theorem advance_of_nil {cursor : Cursor} (atEnd : cursor.rest = []) : cursor.advance = cursor := by
  simp only [advance, atEnd]

end Cursor

/-! ### The loop rule -/

section Loop

variable {σ ρ : Type}

/-- A pass that goes on has moved forward; one that leaves has not moved back. -/
def Pass.Forward (place : σ → Cursor) (exit : ρ → Cursor) (state : σ) : Pass σ ρ → Prop
  | .again next => (place state).Precedes (place next)
  | .leave result => (place state).Reaches (exit result)

/-- A pass that goes on has moved forward and left the results as they would have been; one that
leaves has such a result. -/
def Pass.Sound (place : σ → Cursor) (results : σ → ρ → Prop) (state : σ) : Pass σ ρ → Prop
  | .again next =>
    (place state).Precedes (place next) ∧ ∀ result, results next result → results state result
  | .leave result => results state result

/-- A pass has a result, and that is sound. -/
def SoundPass (place : σ → Cursor) (results : σ → ρ → Prop) (pass : σ → Option (Pass σ ρ))
    (state : σ) : Prop :=
  ∃ step, pass state = some step ∧ step.Sound place results state

/-- A pass has a result; it goes on from a later place, or leaves from one that is no earlier. -/
def ForwardPass (place : σ → Cursor) (exit : ρ → Cursor) (pass : σ → Option (Pass σ ρ))
    (state : σ) : Prop :=
  ∃ step, pass state = some step ∧ step.Forward place exit state

theorem SoundPass.forward {place : σ → Cursor} {exit : ρ → Cursor} {results : σ → ρ → Prop}
    {pass : σ → Option (Pass σ ρ)} {state : σ}
    (reaches : ∀ result, results state result → (place state).Reaches (exit result))
    (sound : SoundPass place results pass state) : ForwardPass place exit pass state := by
  obtain ⟨step, passed, isSound⟩ := sound
  cases step with
  | again next => exact ⟨_, passed, isSound.1⟩
  | leave result => exact ⟨_, passed, reaches result isSound⟩

/-- A loop of sound passes leaves with a result before its allowance is used up, if there are
fewer lines left. -/
theorem exists_loop (place : σ → Cursor) (results : σ → ρ → Prop) {pass : σ → Option (Pass σ ρ)}
    {allowance : Nat} (state : σ) (enough : (place state).rest.length < allowance)
    (sound : ∀ next, (place state).Reaches (place next) → SoundPass place results pass next) :
    ∃ result, loop pass allowance state = some result ∧ results state result := by
  induction allowance generalizing state with
  | zero => exact absurd enough (Nat.not_lt_zero _)
  | succ allowance inductionHypothesis =>
      obtain ⟨step, passed, isSound⟩ := sound state (.refl _)
      cases step with
      | leave result =>
          refine ⟨result, ?_, isSound⟩
          simp only [loop, passed]
      | again next =>
          obtain ⟨forward, keeps⟩ := isSound
          have fewer : (place next).rest.length < allowance :=
            Nat.lt_of_lt_of_le forward.rest_lt (Nat.le_of_lt_succ enough)
          have soundBehind : ∀ later, (place next).Reaches (place later) →
              SoundPass place results pass later :=
            fun later reaches => sound later (forward.reaches.trans reaches)
          obtain ⟨result, left, holds⟩ := inductionHypothesis next fewer soundBehind
          refine ⟨result, ?_, keeps result holds⟩
          simp only [loop, passed]
          exact left

end Loop

end SdlProjection

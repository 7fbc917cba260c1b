import SdlProjection.Proofs.Fragment.Reading

/-!
Contract: what a line does inside of a block.

Owns: `Quiet`, a change that neither reports a line nor binds a root type, and that
everything a line can do inside of a block is such a change, but for the report of
a line of an object that begins no declaration.

Does not own: the lines between definitions, which bind (`Proofs.Schema.Roots`) and
report (`Proofs.Fragment.Reporting`).
-/

namespace SdlProjection.Fragment

/-- The diagnostics and the root types stay. -/
structure Quiet (before after : Fragment) : Prop where
  diagnostics : after.journal.diagnostics = before.journal.diagnostics
  roots : after.schema.roots = before.schema.roots

theorem Quiet.refl (fragment : Fragment) : Quiet fragment fragment := ⟨rfl, rfl⟩

theorem Quiet.trans {first second third : Fragment} (earlier : Quiet first second)
    (later : Quiet second third) : Quiet first third where
  diagnostics := later.diagnostics.trans earlier.diagnostics
  roots := later.roots.trans earlier.roots

section Changes

variable (fragment : Fragment)

theorem quiet_close : Quiet fragment fragment.close := by
  simp only [close]
  split <;> exact ⟨rfl, rfl⟩

theorem quiet_declare (body : Body) (declaration : List Char) (last : Nat) :
    Quiet fragment (fragment.declare body declaration last) := by
  simp only [declare]
  split
  · exact ⟨rfl, rfl⟩
  · cases body <;> (dsimp only; split <;> exact ⟨rfl, rfl⟩)

theorem quiet_endDeclaration (body : Body) (pending : Option Pending) :
    Quiet fragment (fragment.endDeclaration body pending) := by
  cases pending with
  | none => exact .refl fragment
  | some pending => exact quiet_declare fragment body _ _

theorem quiet_continueDeclaration (body : Body) (pending : Option Pending) (line : List Char)
    (number : Nat) : Quiet fragment (fragment.continueDeclaration body pending line number) := by
  simp only [continueDeclaration]
  split
  · exact quiet_declare fragment body _ _
  · exact ⟨rfl, rfl⟩

theorem quiet_describe (parts : List (List Char)) (line : List Char) :
    Quiet fragment (fragment.describe parts line) := by
  simp only [describe]
  split <;> exact ⟨rfl, rfl⟩

theorem quiet_remark? {remarked : Fragment} {kind : LineKind} {line : List Char}
    (remarks : fragment.remark? kind line = some remarked) : Quiet fragment remarked := by
  simp only [remark?] at remarks
  split at remarks <;> cases remarks <;> exact ⟨rfl, rfl⟩

theorem quiet_enumStep (name : String) (values : List String) (line : List Char) :
    Quiet fragment (fragment.enumStep name values line) := by
  simp only [enumStep]
  split
  · exact quiet_close fragment
  · split
    · next remarked remarks => exact quiet_remark? fragment remarks
    · split
      · exact ⟨rfl, rfl⟩
      · split <;> exact ⟨rfl, rfl⟩

/-- In a body, only a line that begins no declaration is reported, and only where none has been
begun. -/
theorem quiet_or_report_bodyStep (file : Option String) (body : Body) (pending : Option Pending)
    (number : Nat) (line : List Char) :
    Quiet fragment (fragment.bodyStep file body pending number line) ∨
      (pending = none ∧
        fragment.bodyStep file body pending number line =
          fragment.report file number (Text.trim line)) := by
  simp only [bodyStep]
  split
  · exact .inl ((quiet_endDeclaration fragment body pending).trans (quiet_close _))
  · split
    · next remarked remarks => exact .inl (quiet_remark? fragment remarks)
    · split
      · exact .inl (.refl fragment)
      · split
        · next stray =>
            cases body with
            | object name fields => exact .inr ⟨Option.isNone_iff_eq_none.mp stray.1, rfl⟩
            | operations kind => exact .inl (quiet_declare fragment _ _ _)
        · exact .inl (quiet_continueDeclaration fragment body pending _ number)

theorem quiet_closeOpen : Quiet fragment fragment.closeOpen := by
  simp only [closeOpen]
  split
  · exact (quiet_endDeclaration fragment _ _).trans (quiet_close _)
  · exact quiet_close fragment

theorem quiet_finish : Quiet fragment fragment.finish := by
  cases described : fragment.description with
  | none =>
      rw [finish_of_no_description described]
      exact quiet_closeOpen fragment
  | some parts =>
      rw [finish_of_description described]
      have discarded : Quiet fragment (fragment.discardDescription (Text.joinSpaced parts)) :=
        ⟨rfl, rfl⟩
      exact discarded.trans (quiet_closeOpen _)

end Changes

end SdlProjection.Fragment

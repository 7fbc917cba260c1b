import SdlProjection.Proofs.Fragment.Moves

/-!
Contract: the line numbers that a reading has come to.

Owns: `Numbered`, that what was reported and what is still open or has failed
bears numbers of lines that are read already, and that each line keeps it.

Does not own: which line has which number (`Fragment.feed`).
-/

namespace SdlProjection

/-- The numbers a block holds are below the bound. -/
def Block.NumbersBelow (bound : Nat) : Block → Prop
  | .body _ pending => ∀ declaration ∈ pending, declaration.number < bound
  | .failed _ number => number < bound
  | .top | .enumeration _ _ | .union _ _ => True

theorem Block.NumbersBelow.mono {block : Block} {bound higher : Nat} (le : bound ≤ higher)
    (below : block.NumbersBelow bound) : block.NumbersBelow higher := by
  cases block with
  | body content pending =>
      exact fun declaration member => Nat.lt_of_lt_of_le (below declaration member) le
  | failed cause number => exact Nat.lt_of_lt_of_le below le
  | top | enumeration _ _ | union _ _ => trivial

namespace Fragment

/-- What was reported since the given diagnostics, and what is open, has numbers below the
bound. -/
structure Numbered (before : List Diagnostic) (bound : Nat) (fragment : Fragment) : Prop where
  diagnostics : ∃ own, fragment.journal.diagnostics = before ++ own ∧
    ∀ diagnostic ∈ own, diagnostic.number < bound
  block : fragment.block.NumbersBelow bound

variable {before : List Diagnostic} {bound : Nat} {fragment : Fragment}

theorem Numbered.mono {higher : Nat} (le : bound ≤ higher)
    (numbered : Numbered before bound fragment) : Numbered before higher fragment where
  diagnostics := by
    obtain ⟨own, reported, below⟩ := numbered.diagnostics
    refine ⟨own, reported, ?_⟩
    exact fun diagnostic member => Nat.lt_of_lt_of_le (below diagnostic member) le
  block := numbered.block.mono le

theorem Numbered.close (numbered : Numbered before bound fragment) :
    Numbered before bound fragment.close := by
  simp only [Fragment.close]
  split
  · exact ⟨numbered.diagnostics, trivial⟩
  · exact ⟨numbered.diagnostics, trivial⟩
  · exact ⟨numbered.diagnostics, trivial⟩
  · exact ⟨numbered.diagnostics, trivial⟩
  · exact numbered
  · exact numbered

/-- A move of a line gives that line's number at most. -/
theorem Numbered.move {file : Option String} {line : List Char} {number : Nat}
    {state next : Fragment} (move : Move file line number state next)
    (numbered : Numbered before (number + 1) state) : Numbered before (number + 1) next := by
  obtain ⟨reported, below⟩ := numbered
  cases move with
  | note level message => exact ⟨reported, below⟩
  | @report text _ =>
      simp only [Fragment.report]
      split
      · exact ⟨reported, below⟩
      · refine ⟨?_, below⟩
        obtain ⟨own, same, ownBelow⟩ := reported
        refine ⟨own ++ [⟨file, number, String.ofList text⟩], ?_, ?_⟩
        · simp [Journal.report, Journal.note, same]
        · rw [List.forall_mem_append]
          exact ⟨ownBelow, by simp⟩
  | describe parts => exact ⟨reported, below⟩
  | openBlock top opens =>
      refine ⟨reported, ?_⟩
      cases opens with
      | operations kind => exact fun _ member => absurd member (by simp)
      | object _ => exact fun _ member => absurd member (by simp)
      | enumeration _ | union _ => trivial
  | bind top isBinding => exact ⟨reported, below⟩
  | addScalar top isScalar => exact ⟨reported, below⟩
  | pend parts depth opened =>
      refine ⟨reported, ?_⟩
      intro declaration member
      obtain rfl := Option.mem_some_iff.mp member
      exact Nat.lt_succ_self number
  | addField opened parsed => exact ⟨reported, fun _ member => absurd member (by simp)⟩
  | addOperation opened parsed => exact ⟨reported, fun _ member => absurd member (by simp)⟩
  | @fail body pending declaration cause last opened failed located =>
      refine ⟨reported, ?_⟩
      rw [opened] at below
      rcases located with rfl | ⟨earlier, member, rfl⟩
      · exact Nat.lt_succ_self last
      · exact below earlier member
  | addValue opened named => exact ⟨reported, trivial⟩
  | addMembers opened => exact ⟨reported, trivial⟩
  | close => exact Numbered.close ⟨reported, below⟩

/-- After any lines, all numbers are those of lines that were read. -/
theorem Numbered.feed (numbered : Numbered before bound fragment) (file : Option String)
    (lines : List (List Char)) :
    Numbered before (bound + lines.length) (fragment.feed file bound lines) :=
  feed_keep (fun _ _ => Numbered.move) (Numbered.mono (Nat.le_succ _)) numbered

end Fragment

end SdlProjection

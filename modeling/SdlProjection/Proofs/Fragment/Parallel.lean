import SdlProjection.Proofs.Fragment.Lockstep

/-!
Contract: the same lines, read after earlier ones and read on their own.

Owns: `Parallel`, the relation between a reading that has gone on from earlier
lines and one of a separate fragment that started with the root bindings in
force there. The schema of the first is that of the second merged into what
was declared before; line numbers are moved by the number of earlier lines.
Each line keeps the relation, and so does the end.

Does not own: where a text may be cut (`Fragment.BetweenDefinitions`).
-/

namespace SdlProjection

/-- The same diagnostic after so many earlier lines, of a text without a path. -/
def Diagnostic.moved (offset : Nat) (diagnostic : Diagnostic) : Diagnostic :=
  ⟨none, diagnostic.number + offset, diagnostic.line⟩

def Pending.moved (offset : Nat) (pending : Pending) : Pending :=
  { pending with number := pending.number + offset }

def Block.moved (offset : Nat) : Block → Block
  | .body content pending => .body content (pending.map (Pending.moved offset))
  | .failed cause number => .failed cause (number + offset)
  | other => other

namespace Fragment

/-- Where two readings of the same lines come from. The whole one has gone on from what `base`
declares and from `offset` lines; the part is one of `count` lines under a path. Both have
diagnostics from before. -/
structure Origin where
  base : Schema
  path : String
  offset : Nat
  count : Nat
  wholeBefore : List Diagnostic
  partBefore : List Diagnostic

/-- The diagnostics of the part since its start, and the same ones in the whole. -/
def Origin.Reported (origin : Origin) (whole part : List Diagnostic) : Prop :=
  ∃ own : List Diagnostic,
    whole = origin.wholeBefore ++ own.map (Diagnostic.moved origin.offset) ∧
    part = origin.partBefore ++ own ∧
    ∀ diagnostic ∈ own,
      diagnostic.file = some origin.path ∧ 1 ≤ diagnostic.number ∧
        diagnostic.number ≤ origin.count

structure Parallel (origin : Origin) (whole part : Fragment) : Prop where
  schema : whole.schema = origin.base.merge part.schema
  roots : whole.schema.roots = part.schema.roots
  block : whole.block = part.block.moved origin.offset
  description : whole.description = part.description
  reported : origin.Reported whole.journal.diagnostics part.journal.diagnostics

/-! ### As readings in step -/

theorem moved_eq_renumbered (offset : Nat) (block : Block) :
    block.moved offset = block.renumbered (· + offset) := by
  cases block with
  | body content pending => cases pending <;> rfl
  | top | enumeration _ _ | union _ _ | failed _ _ => rfl

/-- The part reports under its own path and numbers what the whole reports under moved ones. -/
theorem Origin.Reported.report {origin : Origin} {whole part : List Diagnostic}
    (reported : origin.Reported whole part) {number : Nat}
    (counted : 1 ≤ number ∧ number ≤ origin.count) (line : List Char) :
    origin.Reported (whole ++ [⟨none, number + origin.offset, String.ofList line⟩])
      (part ++ [⟨some origin.path, number, String.ofList line⟩]) := by
  obtain ⟨own, wholeReported, partReported, located⟩ := reported
  refine ⟨own ++ [⟨some origin.path, number, String.ofList line⟩], ?_, ?_, ?_⟩
  · simp [wholeReported, Diagnostic.moved]
  · simp [partReported]
  · intro diagnostic member
    rcases List.mem_append.mp member with earlier | latest
    · exact located diagnostic earlier
    · rw [List.mem_singleton] at latest
      subst latest
      exact ⟨rfl, counted⟩

/-- The part is read on the left, the whole on the right. -/
def Origin.correspondence (origin : Origin) : Correspondence where
  line := Eq
  schema part whole := whole = origin.base.merge part ∧ whole.roots = part.roots
  diagnostics part whole := origin.Reported whole part
  renumber number := number + origin.offset
  counted number := 1 ≤ number ∧ number ≤ origin.count
  leftFile := some origin.path
  rightFile := none
  readAlike := @Line.ReadAlike.of_eq
  roots related := related.2.symm
  addOperation related kind key type :=
    ⟨by rw [related.1, Schema.merge_addOperation], related.2⟩
  addType related name type := ⟨by rw [related.1, Schema.merge_addType], related.2⟩
  addUnion related name members := ⟨by rw [related.1, Schema.merge_addUnion], related.2⟩
  bindRoot related kind name :=
    ⟨by rw [related.1, Schema.merge_bindRoot], by simp [Schema.bindRoot, related.2]⟩
  report reported _ counted _ _ same := by
    obtain rfl := same.elim id id
    exact reported.report counted _

section Readings

variable {origin : Origin} {whole part : Fragment}

theorem parallel_iff_lockstep :
    Parallel origin whole part ↔ Lockstep origin.correspondence part whole := by
  constructor
  · rintro ⟨schema, roots, block, description, reported⟩
    rw [moved_eq_renumbered] at block
    exact ⟨⟨schema, roots⟩, block, description, reported⟩
  · rintro ⟨⟨schema, roots⟩, block, description, reported⟩
    refine ⟨schema, roots, ?_, description, reported⟩
    rw [moved_eq_renumbered]
    exact block

theorem Parallel.feed (parallel : Parallel origin whole part) (lines : List (List Char))
    {number : Nat} (first : 1 ≤ number) (last : number + lines.length ≤ origin.count + 1) :
    Parallel origin (whole.feed none (number + origin.offset) lines)
      (part.feed (some origin.path) number lines) := by
  have same : List.Forall₂ Eq lines lines := List.forall₂_refl lines
  refine parallel_iff_lockstep.mpr ((parallel_iff_lockstep.mp parallel).feed same ?_)
  intro index within
  refine ⟨?_, Nat.add_right_comm number index origin.offset⟩
  constructor <;> omega

theorem Parallel.finish (parallel : Parallel origin whole part) :
    Parallel origin whole.finish part.finish :=
  parallel_iff_lockstep.mpr (parallel_iff_lockstep.mp parallel).finish

end Readings

end Fragment

end SdlProjection

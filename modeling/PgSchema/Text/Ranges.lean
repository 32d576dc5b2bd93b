/-!
Classes of characters, given as the runs of their code points, and case mappings, given as runs:
letters at a fixed distance from each other, with their counterparts at the same distance.
-/

namespace PgSchema.Text

/-! ### Classes -/

/-- The runs of a class: the first and the last code point of each. -/
abbrev Ranges := List (Nat × Nat)

/-- A code point that lies in one of the runs. -/
def Ranges.has (ranges : Ranges) (code : Nat) : Bool :=
  ranges.any fun run => run.1 ≤ code && code ≤ run.2

/-! ### Case mappings -/

/-- A run of letters: the first, the last, the step between them, and the counterpart of the
first. -/
structure CaseRun where
  first : Nat
  last : Nat
  step : Nat
  image : Nat

/-- The letter belongs to the run. -/
def CaseRun.covers (run : CaseRun) (code : Nat) : Bool :=
  run.first ≤ code && code ≤ run.last && (code - run.first) % run.step == 0

/-- The counterpart of a letter, or the letter itself where no run covers it. -/
def CaseRun.map (runs : List CaseRun) (c : Char) : Char :=
  match runs.find? (·.covers c.toNat) with
  | some run => Char.ofNat (run.image + (c.toNat - run.first))
  | none => c

end PgSchema.Text

import SchemaCheck.Text.Blank
import SchemaCheck.Unicode.CharSet
import SchemaCheck.Unicode.PropertyTable

/-!
What sets of characters contain. The search through ranges stops at the first one that begins
behind a code point, which is right for ranges that ascend (`Ranges.contains_iff`).
-/

namespace SchemaCheck.Unicode

deriving instance DecidableEq for CharSet

theorem Ranges.contains_iff {table : Ranges} (ascending : table.Pairwise (·.1 ≤ ·.1)) (n : Nat) :
    table.contains n = true ↔ ∃ range ∈ table, range.1 ≤ n ∧ n ≤ range.2 := by
  induction table with
  | nil => simp [contains]
  | cons range rest ih =>
    obtain ⟨first, others⟩ := List.pairwise_cons.mp ascending
    rw [contains]
    split
    next below =>
      have away : ∀ next ∈ rest, ¬next.1 ≤ n := by
        intro next member
        have later := first next member
        omega
      simp only [Bool.false_eq_true, false_iff]
      grind
    next reached => simp [ih others, Nat.not_lt.mp reached]

namespace CharSet

theorem single_contains {c d : Char} : (single c.toNat).contains d.toNat = true ↔ d = c := by
  rw [single, contains, Ranges.contains_iff (List.pairwise_singleton ..)]
  have same : d.toNat = c.toNat ↔ d = c := ⟨fun same => Char.toNat_inj.mp same, congrArg _⟩
  simp only [List.mem_singleton, exists_eq_left]
  rw [← same]
  omega

theorem unions_contains (sets : List CharSet) (n : Nat) :
    (unions sets).contains n = sets.any (·.contains n) := by
  induction sets with
  | nil => rfl
  | cons first others ih =>
    rw [List.any_cons, ← ih]
    rfl

/-- The table of white space lists the characters that trimming drops. -/
theorem whiteSpace_contains (c : Char) :
    (ranges PropertyTable.whiteSpace).contains c.toNat = Text.isBlank c := by
  have table : PropertyTable.whiteSpace =
      [(9, 13), (0x20, 0x20), (0x85, 0x85), (0xA0, 0xA0), (0x1680, 0x1680), (0x2000, 0x200A),
        (0x2028, 0x2029), (0x202F, 0x202F), (0x205F, 0x205F), (0x3000, 0x3000)] := by
    decide +kernel
  rw [Bool.eq_iff_iff, contains, table, Ranges.contains_iff (by decide), Text.isBlank]
  simp only [List.mem_cons, List.not_mem_nil, or_false, exists_eq_or_imp, exists_eq_left,
    Bool.or_eq_true, Bool.and_eq_true, decide_eq_true_eq, beq_iff_eq]
  omega

end CharSet

end SchemaCheck.Unicode

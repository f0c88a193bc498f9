import Mathlib.Data.List.TakeWhile

/-!
Runs of like characters: a run ends where another character, or none, is ahead.
-/

namespace SchemaCheck.Text

/-- The text does not go on with a character of a class. -/
def NoneAhead (isIn : Char → Bool) (rest : List Char) : Prop := ∀ c ∈ rest.head?, isIn c = false

section Runs

variable {isIn : Char → Bool} {run rest : List Char}

theorem noneAhead_nil : NoneAhead isIn [] := fun _ first => nomatch first

theorem noneAhead_cons {c : Char} (other : isIn c = false) (rest : List Char) :
    NoneAhead isIn (c :: rest) := by
  intro d first
  rw [← Option.some.inj first]
  exact other

theorem takeWhile_run (all : ∀ c ∈ run, isIn c = true) (ahead : NoneAhead isIn rest) :
    (run ++ rest).takeWhile isIn = run := by
  rw [List.takeWhile_append_of_pos all]
  cases rest with
  | nil => rw [List.takeWhile_nil, List.append_nil]
  | cons c rest =>
    have stop : ¬isIn c = true := by simp [ahead c rfl]
    rw [List.takeWhile_cons_of_neg stop, List.append_nil]

theorem dropWhile_run (all : ∀ c ∈ run, isIn c = true) (ahead : NoneAhead isIn rest) :
    (run ++ rest).dropWhile isIn = rest := by
  rw [List.dropWhile_append_of_pos all]
  cases rest with
  | nil => rfl
  | cons c rest =>
    have stop : ¬isIn c = true := by simp [ahead c rfl]
    rw [List.dropWhile_cons_of_neg stop]

theorem takeWhile_noneAhead (ahead : NoneAhead isIn rest) : rest.takeWhile isIn = [] :=
  takeWhile_run (List.forall_mem_nil _) ahead

theorem dropWhile_noneAhead (ahead : NoneAhead isIn rest) : rest.dropWhile isIn = rest :=
  dropWhile_run (List.forall_mem_nil _) ahead

theorem takeWhile_append_noneAhead (ahead : NoneAhead isIn rest) (text : List Char) :
    (text ++ rest).takeWhile isIn = text.takeWhile isIn := by
  rw [List.takeWhile_append]
  split
  next whole =>
    rw [takeWhile_noneAhead ahead, List.append_nil]
    exact ((List.takeWhile_prefix isIn).eq_of_length whole).symm
  next => rfl

theorem dropWhile_append_noneAhead (ahead : NoneAhead isIn rest) (text : List Char) :
    (text ++ rest).dropWhile isIn = text.dropWhile isIn ++ rest := by
  rw [List.dropWhile_append]
  split
  next gone => rw [List.isEmpty_iff.mp gone, dropWhile_noneAhead ahead, List.nil_append]
  next => rfl

/-- Two runs in front of other characters are the same when the texts are. -/
theorem run_inj {other behind : List Char} (all : ∀ c ∈ run, isIn c = true)
    (also : ∀ c ∈ other, isIn c = true) (ahead : NoneAhead isIn rest)
    (alsoAhead : NoneAhead isIn behind) (same : run ++ rest = other ++ behind) :
    run = other ∧ rest = behind := by
  have taken := takeWhile_run all ahead
  have left := dropWhile_run all ahead
  rw [same] at taken left
  exact ⟨taken.symm.trans (takeWhile_run also alsoAhead),
    left.symm.trans (dropWhile_run also alsoAhead)⟩

theorem dropWhile_starts {c : Char} (left : run.dropWhile isIn = c :: rest) : isIn c = false := by
  have first := List.head?_dropWhile_not isIn run
  rw [left] at first
  exact first

/-- Every text is a run in front of the rest. -/
theorem exists_run (isIn : Char → Bool) (text : List Char) : ∃ run rest,
    text = run ++ rest ∧ (∀ c ∈ run, isIn c = true) ∧ NoneAhead isIn rest := by
  refine ⟨_, _, List.takeWhile_append_dropWhile.symm, fun c => List.mem_takeWhile_imp, ?_⟩
  intro c first
  obtain ⟨more, left⟩ := List.head?_eq_some_iff.mp first
  exact dropWhile_starts left

end Runs

end SchemaCheck.Text

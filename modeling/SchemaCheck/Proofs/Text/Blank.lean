import SchemaCheck.Proofs.Text.Run
import SchemaCheck.Text.Blank

/-!
Blanks around a text. A text that neither starts nor ends with a blank is not trimmed
(`trim_of_ends`), blanks that stand around it are (`trim_around`), and no digit is a blank.
-/

namespace SchemaCheck.Text

variable {c : Char}

theorem toNat_of_isDigit (digit : c.isDigit = true) : 48 ≤ c.toNat ∧ c.toNat ≤ 57 := by
  simp only [Char.isDigit, Bool.and_eq_true, decide_eq_true_eq] at digit
  exact digit

theorem toNat_of_isAlpha (letter : c.isAlpha = true) : 65 ≤ c.toNat ∧ c.toNat ≤ 122 := by
  rcases Bool.or_eq_true_iff.mp letter with upper | lower
  · have range : 65 ≤ c.toNat ∧ c.toNat ≤ 90 := of_decide_eq_true upper
    omega
  · obtain ⟨low, high⟩ := Bool.and_eq_true_iff.mp lower
    have above : 97 ≤ c.toNat := of_decide_eq_true low
    have below : c.toNat ≤ 122 := of_decide_eq_true high
    omega

theorem isBlank_of_visible (low : 0x21 ≤ c.toNat) (high : c.toNat ≤ 0x7E) : isBlank c = false := by
  simp [isBlank]
  omega

theorem isBlank_of_isDigit (digit : c.isDigit = true) : isBlank c = false := by
  obtain ⟨low, high⟩ := toNat_of_isDigit digit
  exact isBlank_of_visible (by omega) (by omega)

theorem isDigit_of_isBlank (blank : isBlank c = true) : c.isDigit = false := by
  rw [Bool.eq_false_iff]
  intro digit
  rw [isBlank_of_isDigit digit] at blank
  cases blank

theorem trimEnd_of_end (solid : isBlank c = false) (front : List Char) :
    trimEnd (front ++ [c]) = front ++ [c] := by
  rw [trimEnd, List.reverse_append, List.reverse_singleton, List.singleton_append,
    List.dropWhile_cons_of_neg (by simp [solid]), List.reverse_cons, List.reverse_reverse]

theorem trim_of_ends {text : List Char}
    (starts : ∃ c rest, text = c :: rest ∧ isBlank c = false)
    (ends : ∃ front c, text = front ++ [c] ∧ isBlank c = false) : trim text = text := by
  obtain ⟨first, rest, starts, firstNot⟩ := starts
  obtain ⟨front, last, ends, lastNot⟩ := ends
  have kept : text.dropWhile isBlank = text := by
    rw [starts, List.dropWhile_cons_of_neg (by simp [firstNot])]
  rw [trim, kept, ends, trimEnd_of_end lastNot]

theorem length_trim_le (text : List Char) : (trim text).length ≤ text.length := by
  have ended := (List.dropWhile_sublist (l := (text.dropWhile isBlank).reverse) isBlank).length_le
  rw [List.length_reverse] at ended
  rw [trim, trimEnd, List.length_reverse]
  exact Nat.le_trans ended (List.dropWhile_sublist isBlank).length_le

theorem mem_of_mem_trim {text : List Char} (member : c ∈ trim text) : c ∈ text := by
  have reversed := (List.dropWhile_sublist _).mem (List.mem_reverse.mp member)
  exact (List.dropWhile_sublist _).mem (List.mem_reverse.mp reversed)

theorem ends_of_trim {text : List Char} (filled : text ≠ []) (trimmed : trim text = text) :
    ∃ front c, text = front ++ [c] ∧ isBlank c = false := by
  obtain ⟨c, rest, reversed⟩ := List.exists_cons_of_ne_nil (mt List.reverse_eq_nil_iff.mp filled)
  have left : (text.dropWhile isBlank).reverse.dropWhile isBlank = c :: rest := by
    rw [← reversed, ← List.reverse_eq_iff]
    exact trimmed
  refine ⟨rest.reverse, c, ?_, dropWhile_starts left⟩
  rw [← List.reverse_cons, ← reversed, List.reverse_reverse]

theorem trimEnd_cons (solid : isBlank c = false) (rest : List Char) :
    trimEnd (c :: rest) = c :: trimEnd rest := by
  have ahead : NoneAhead isBlank [c] := noneAhead_cons solid []
  rw [trimEnd, List.reverse_cons, dropWhile_append_noneAhead ahead, List.reverse_append, trimEnd]
  rfl

theorem trimEnd_trimEnd (text : List Char) : trimEnd (trimEnd text) = trimEnd text := by
  cases left : text.reverse.dropWhile isBlank with
  | nil =>
    rw [show trimEnd text = [] from congrArg List.reverse left]
    rfl
  | cons c rest =>
    rw [show trimEnd text = (c :: rest).reverse from congrArg List.reverse left, List.reverse_cons]
    exact trimEnd_of_end (dropWhile_starts left) rest.reverse

theorem trim_trim (text : List Char) : trim (trim text) = trim text := by
  cases left : text.dropWhile isBlank with
  | nil =>
    rw [show trim text = [] from congrArg trimEnd left]
    rfl
  | cons c rest =>
    have solid := dropWhile_starts left
    rw [show trim text = trimEnd (c :: rest) from congrArg trimEnd left, trimEnd_cons solid, trim,
      List.dropWhile_cons_of_neg (by simp [solid]), trimEnd_cons solid, trimEnd_trimEnd]

section Solid

variable {text : List Char}

theorem starts_solid (filled : text ≠ []) (solid : ∀ c ∈ text, isBlank c = false)
    (back : List Char) : ∃ c rest, text ++ back = c :: rest ∧ isBlank c = false := by
  obtain ⟨c, rest, starts⟩ := List.exists_cons_of_ne_nil filled
  refine ⟨c, rest ++ back, by rw [starts, List.cons_append], ?_⟩
  exact solid c (starts ▸ List.mem_cons_self)

theorem ends_solid (filled : text ≠ []) (solid : ∀ c ∈ text, isBlank c = false)
    (front : List Char) : ∃ rest c, front ++ text = rest ++ [c] ∧ isBlank c = false := by
  refine ⟨front ++ text.dropLast, text.getLast filled, ?_, solid _ (List.getLast_mem filled)⟩
  rw [List.append_assoc, List.dropLast_concat_getLast]

theorem dropWhile_solid (filled : text ≠ []) (solid : ∀ c ∈ text, isBlank c = false)
    (back : List Char) : (text ++ back).dropWhile isBlank = text ++ back := by
  obtain ⟨c, rest, starts, notBlank⟩ := starts_solid filled solid back
  rw [starts, List.dropWhile_cons_of_neg (by simp [notBlank])]

theorem trim_of_solid (solid : ∀ c ∈ text, isBlank c = false) : trim text = text := by
  by_cases empty : text = []
  · rw [empty]
    rfl
  · have starts := starts_solid empty solid []
    rw [List.append_nil] at starts
    exact trim_of_ends starts (ends_solid empty solid [])

end Solid

section Around

variable {front text back : List Char}

theorem trimEnd_append (blank : ∀ c ∈ back, isBlank c = true) (text : List Char) :
    trimEnd (text ++ back) = trimEnd text := by
  have reversed : ∀ c ∈ back.reverse, isBlank c = true :=
    fun c member => blank c (List.mem_reverse.mp member)
  rw [trimEnd, trimEnd, List.reverse_append, List.dropWhile_append_of_pos reversed]

theorem trim_around (before : ∀ c ∈ front, isBlank c = true)
    (behind : ∀ c ∈ back, isBlank c = true) : trim (front ++ text ++ back) = trim text := by
  rw [trim, trim, List.append_assoc, List.dropWhile_append_of_pos before, List.dropWhile_append]
  by_cases nothing : text.dropWhile isBlank = []
  · have gone := dropWhile_run behind noneAhead_nil
    rw [List.append_nil] at gone
    rw [nothing, List.isEmpty_nil, if_pos rfl, gone]
  · rw [if_neg (by simpa using nothing)]
    exact trimEnd_append behind _

end Around

end SchemaCheck.Text

import SchemaCheck.Net.Hostname

/-!
The labels of a name: the parts between its points (`labels_eq_splitOn`), and what a label is made
of (`isLabel_iff`). So a host name has no other characters than labels have, and points
(`characters_of_isHostname`).
-/

namespace SchemaCheck.Net.Hostname

structure Label (label : List Char) : Prop where
  filled : label ≠ []
  short : label.length ≤ 63
  first : label.head? ≠ some '-'
  last : label.getLast? ≠ some '-'
  characters : ∀ c ∈ label, c.isAlphanum = true ∨ c = '-'

theorem isLabel_iff {label : List Char} : isLabel label = true ↔ Label label := by
  simp only [isLabel, Bool.and_eq_true, Bool.not_eq_true', List.isEmpty_eq_false_iff,
    decide_eq_true_eq, bne_iff_ne, List.all_eq_true, Bool.or_eq_true, beq_iff_eq]
  constructor
  · rintro ⟨⟨⟨⟨filled, short⟩, first⟩, last⟩, characters⟩
    exact ⟨filled, short, first, last, characters⟩
  · rintro ⟨filled, short, first, last, characters⟩
    exact ⟨⟨⟨⟨filled, short⟩, first⟩, last⟩, characters⟩

theorem Label.noPoint {label : List Char} (proper : Label label) : '.' ∉ label := by
  intro member
  rcases proper.characters '.' member with letter | hyphen
  · cases letter
  · cases hyphen

theorem labels_eq_splitOn (text : List Char) : labels text = text.splitOn '.' := by
  induction text with
  | nil => rfl
  | cons c rest ih =>
    rw [List.splitOn, List.splitOnP_cons_eq_if_modifyHead, ← List.splitOn, ← ih, labels]
    by_cases point : c = '.'
    · rw [if_pos point, if_pos (beq_iff_eq.mpr point)]
    · rw [if_neg point, if_neg (by simpa using point)]
      have filled : labels rest ≠ [] := by
        rw [ih]
        exact List.splitOn_ne_nil _ _
      obtain ⟨label, more, spelled⟩ := List.exists_cons_of_ne_nil filled
      rw [spelled]
      rfl

theorem mem_intercalate {c : Char} {labels : List (List Char)}
    (member : c ∈ ['.'].intercalate labels) : c = '.' ∨ ∃ label ∈ labels, c ∈ label := by
  induction labels with
  | nil =>
    rw [List.intercalate_nil] at member
    cases member
  | cons label labels ih =>
    cases labels with
    | nil =>
      rw [List.intercalate_singleton] at member
      exact .inr ⟨label, List.mem_cons_self, member⟩
    | cons next labels =>
      rw [List.intercalate_cons_cons, List.mem_append, List.mem_append] at member
      rcases member with (inside | point) | behind
      · exact .inr ⟨label, List.mem_cons_self, inside⟩
      · exact .inl (List.mem_singleton.mp point)
      · refine (ih behind).imp_right fun ⟨other, member, inside⟩ => ?_
        exact ⟨other, List.mem_cons_of_mem label member, inside⟩

theorem Label.ends {label : List Char} (proper : Label label) :
    ∃ front c, label = front ++ [c] ∧ c.isAlphanum = true := by
  obtain ⟨front, c, rfl⟩ := (List.eq_nil_or_concat label).resolve_left proper.filled
  refine ⟨front, c, List.concat_eq_append, (proper.characters c (by simp)).resolve_right ?_⟩
  rintro rfl
  exact proper.last (by simp)

theorem suffix_intercalate {labels : List (List Char)} {last : List Char}
    (ends : labels.getLast? = some last) : last <:+ ['.'].intercalate labels := by
  induction labels with
  | nil => cases ends
  | cons label labels ih =>
    cases labels with
    | nil =>
      rw [List.intercalate_singleton, ← Option.some.inj ends]
      exact List.suffix_refl label
    | cons next labels =>
      rw [List.getLast?_cons_cons] at ends
      rw [List.intercalate_cons_cons]
      exact (ih ends).trans (List.suffix_append _ _)

theorem characters_of_isHostname {text : List Char} (host : isHostname text = true) :
    ∀ c ∈ text, c.isAlphanum = true ∨ c = '-' ∨ c = '.' := by
  have within : ∀ c ∈ text, c ∈ withoutRoot text ∨ c = '.' := by
    intro c member
    unfold withoutRoot
    split
    next root =>
      obtain ⟨name, rfl⟩ := List.getLast?_eq_some_iff.mp root
      rw [List.dropLast_concat]
      exact (List.mem_append.mp member).imp id List.mem_singleton.mp
    next => exact .inl member
  simp only [isHostname, Bool.and_eq_true, labels_eq_splitOn, List.all_eq_true] at host
  intro c member
  rcases within c member with inside | point
  · have joined : ['.'].intercalate ((withoutRoot text).splitOn '.') = withoutRoot text :=
      List.intercalate_splitOn '.'
    rw [← joined] at inside
    rcases mem_intercalate inside with point | ⟨label, among, letter⟩
    · exact .inr (.inr point)
    · exact ((isLabel_iff.mp (host.2 label among)).characters c letter).imp_right .inl
  · exact .inr (.inr point)

end SchemaCheck.Net.Hostname

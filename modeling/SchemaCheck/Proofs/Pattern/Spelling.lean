import SchemaCheck.Proofs.Pattern.Matching
import SchemaCheck.Proofs.Unicode.CharSet

/-!
The texts that a pattern spells. A pattern without conditions leads over exactly these
(`Pattern.leads_iff`), so that a pattern between the start and the end of the text matches the texts
that it spells (`Pattern.isMatch_whole`).
-/

namespace SchemaCheck

namespace Place

variable {text : List Char} {a b : Place}

theorem Within.eq_of_after (first : a.Within text) (second : b.Within text)
    (same : a.after = b.after) : a = b := by
  have left := first.length_after
  have right := second.length_after
  rw [same] at left
  exact first.eq_of_index second (by omega)

theorem exists_behind {word rest : List Char} (inside : a.Within text)
    (ahead : a.after = word ++ rest) : ∃ b : Place, b.Within text ∧ b.after = rest := by
  have left := inside.length_after
  have behind : text.drop a.index = word ++ rest := by
    rw [← ahead, inside.2]
    rfl
  rw [ahead, List.length_append] at left
  refine ⟨ofIndex text (a.index + word.length), within_ofIndex (by omega), ?_⟩
  rw [ofIndex, ← List.drop_drop, behind, List.drop_left]

theorem Within.after_of_before (inside : a.Within text) (start : a.before.isNone = true) :
    a.after = text := by
  obtain ⟨short, same⟩ := inside
  rw [same] at start ⊢
  simp only [ofIndex, Option.isNone_iff_eq_none, List.getLast?_eq_none_iff,
    List.take_eq_nil_iff] at start ⊢
  rcases start with zero | empty
  · rw [zero, List.drop_zero]
  · rw [empty, List.drop_nil]

end Place

namespace Pattern

open Unicode (CharSet)
open Place

deriving instance DecidableEq for Pattern

/-- Whether a pattern consists of characters only, without conditions on what is around. -/
def isPlain : Pattern → Bool
  | empty | char _ => true
  | look _ => false
  | cat p q | alt p q => p.isPlain && q.isPlain
  | times p _ _ => p.isPlain

/-- The texts that a pattern stands for; conditions are not looked at. -/
def Spells : Pattern → List Char → Prop
  | empty, word | look _, word => word = []
  | char set, word => ∃ c, word = [c] ∧ set.contains c.toNat = true
  | cat p q, word => ∃ u v, word = u ++ v ∧ p.Spells u ∧ q.Spells v
  | alt p q, word => p.Spells word ∨ q.Spells word
  | times p least most, word =>
    ∃ words : List (List Char), word = words.flatten ∧ least ≤ words.length ∧
      (∀ bound ∈ most, words.length ≤ max least bound) ∧ ∀ part ∈ words, p.Spells part

section Plain

variable {text : List Char} {a b : Place} {p : Pattern}

theorem step?_iff {set : CharSet} (first : a.Within text) (last : b.Within text) :
    a.step? set = some b ↔ ∃ c, a.after = c :: b.after ∧ set.contains c.toNat = true := by
  constructor
  · intro stepped
    unfold step? at stepped
    split at stepped
    · cases stepped
    next c rest ahead =>
      split at stepped
      next known =>
        cases stepped
        exact ⟨c, ahead, known⟩
      next => cases stepped
  · rintro ⟨c, ahead, known⟩
    have stepped : a.step? set = some ⟨a.index + 1, some c, b.after⟩ := by
      simp only [step?, ahead, if_pos known]
    rw [stepped, (first.step? stepped).eq_of_after last rfl]

theorem steps_iff (count : Nat)
    (single : ∀ {a b : Place}, a.Within text → b.Within text →
      (p.Leads a b ↔ ∃ word, p.Spells word ∧ a.after = word ++ b.after))
    (first : a.Within text) (last : b.Within text) :
    Steps p.Leads count a b ↔ ∃ words : List (List Char), words.length = count ∧
      (∀ part ∈ words, p.Spells part) ∧ a.after = words.flatten ++ b.after := by
  induction count generalizing a with
  | zero =>
    constructor
    · rintro rfl
      exact ⟨[], rfl, List.forall_mem_nil _, rfl⟩
    · rintro ⟨words, none, _, ahead⟩
      rw [List.length_eq_zero_iff.mp none] at ahead
      exact first.eq_of_after last ahead
  | succ count ih =>
    constructor
    · rintro ⟨c, leads, behind⟩
      have inside := (advance_follows text p).within first leads
      obtain ⟨word, spelled, ahead⟩ := (single first inside).mp leads
      obtain ⟨words, length, all, later⟩ := (ih inside).mp behind
      refine ⟨word :: words, by rw [List.length_cons, length], ?_, ?_⟩
      · exact List.forall_mem_cons.mpr ⟨spelled, all⟩
      · rw [ahead, later, List.flatten_cons, List.append_assoc]
    · rintro ⟨words, length, all, ahead⟩
      obtain ⟨word, more, rfl⟩ := List.exists_cons_of_length_eq_add_one length
      obtain ⟨spelled, others⟩ := List.forall_mem_cons.mp all
      rw [List.flatten_cons, List.append_assoc] at ahead
      obtain ⟨c, inside, behind⟩ := exists_behind first ahead
      have leads := (single first inside).mpr ⟨word, spelled, behind ▸ ahead⟩
      exact ⟨c, leads, (ih inside).mpr ⟨more, Nat.succ.inj length, others, behind⟩⟩

theorem leads_iff (plain : p.isPlain = true) (first : a.Within text) (last : b.Within text) :
    p.Leads a b ↔ ∃ word, p.Spells word ∧ a.after = word ++ b.after := by
  induction p generalizing a b with
  | empty =>
    simp only [Leads, Spells, exists_eq_left, List.nil_append]
    exact ⟨fun same => congrArg Place.after same, first.eq_of_after last⟩
  | char set =>
    rw [Leads, step?_iff first last]
    constructor
    · rintro ⟨c, ahead, known⟩
      exact ⟨[c], ⟨c, rfl, known⟩, ahead⟩
    · rintro ⟨_, ⟨c, rfl, known⟩, ahead⟩
      exact ⟨c, ahead, known⟩
  | look test => cases plain
  | cat p q left right =>
    obtain ⟨plainLeft, plainRight⟩ := Bool.and_eq_true_iff.mp plain
    constructor
    · rintro ⟨c, leads, behind⟩
      have inside := (advance_follows text p).within first leads
      obtain ⟨u, spelled, ahead⟩ := (left plainLeft first inside).mp leads
      obtain ⟨v, also, later⟩ := (right plainRight inside last).mp behind
      exact ⟨u ++ v, ⟨u, v, rfl, spelled, also⟩, by rw [ahead, later, List.append_assoc]⟩
    · rintro ⟨_, ⟨u, v, rfl, spelled, also⟩, ahead⟩
      rw [List.append_assoc] at ahead
      obtain ⟨c, inside, behind⟩ := exists_behind first ahead
      exact ⟨c, (left plainLeft first inside).mpr ⟨u, spelled, behind ▸ ahead⟩,
        (right plainRight inside last).mpr ⟨v, also, behind⟩⟩
  | alt p q left right =>
    obtain ⟨plainLeft, plainRight⟩ := Bool.and_eq_true_iff.mp plain
    rw [Leads, left plainLeft first last, right plainRight first last]
    simp only [Spells, or_and_right, exists_or]
  | times p least most inner =>
    have steps := fun count => steps_iff count (inner plain) first last
    simp only [Leads, steps, Spells]
    constructor
    · rintro ⟨_, enough, bounded, words, rfl, all, ahead⟩
      exact ⟨_, ⟨words, rfl, enough, bounded, all⟩, ahead⟩
    · rintro ⟨_, ⟨words, rfl, enough, bounded, all⟩, ahead⟩
      exact ⟨_, enough, bounded, words, rfl, all, ahead⟩

end Plain

section Sequences

variable {p : Pattern} {ps : List Pattern} {word : List Char}

theorem leads_cats_cons (p : Pattern) (ps : List Pattern) (a b : Place) :
    (cats (p :: ps)).Leads a b ↔ ∃ c, p.Leads a c ∧ (cats ps).Leads c b := by
  cases ps with
  | nil => simp [cats, Leads]
  | cons q qs => rfl

theorem leads_cats_append (ps qs : List Pattern) (a b : Place) :
    (cats (ps ++ qs)).Leads a b ↔ ∃ c, (cats ps).Leads a c ∧ (cats qs).Leads c b := by
  induction ps generalizing a with
  | nil => simp [cats, Leads]
  | cons p ps ih =>
    simp only [List.cons_append, leads_cats_cons, ih]
    grind

theorem spells_cats_cons : (cats (p :: ps)).Spells word ↔
    ∃ u v, word = u ++ v ∧ p.Spells u ∧ (cats ps).Spells v := by
  cases ps with
  | nil => simp [cats, Spells]
  | cons q qs => rfl

theorem isPlain_cats (plain : ∀ p ∈ ps, p.isPlain = true) : (cats ps).isPlain = true := by
  induction ps with
  | nil => rfl
  | cons p ps ih =>
    obtain ⟨here, others⟩ := List.forall_mem_cons.mp plain
    cases ps with
    | nil => exact here
    | cons q qs => exact Bool.and_eq_true_iff.mpr ⟨here, ih others⟩

theorem leads_whole (ps : List Pattern) (a b : Place) :
    (cats (look .textStart :: (ps ++ [look .textEnd]))).Leads a b ↔
      a.before.isNone = true ∧ (cats ps).Leads a b ∧ b.after = [] := by
  rw [leads_cats_cons]
  simp only [leads_cats_append, Leads, cats, Look.holds, List.isEmpty_iff]
  constructor
  · rintro ⟨_, ⟨start, rfl⟩, _, leads, finish, rfl⟩
    exact ⟨start, leads, finish⟩
  · rintro ⟨start, leads, finish⟩
    exact ⟨a, ⟨start, rfl⟩, b, leads, finish, rfl⟩

/-- Between the start and the end of a text, a pattern without conditions matches what it spells. -/
theorem isMatch_whole (plain : ∀ p ∈ ps, p.isPlain = true) (text : String) :
    (cats (look .textStart :: (ps ++ [look .textEnd]))).isMatch text = true ↔
      (cats ps).Spells text.toList := by
  have spelled {a b : Place} (first : a.Within text.toList) (last : b.Within text.toList) :=
    leads_iff (isPlain_cats plain) first last
  simp only [isMatch_iff, leads_whole]
  constructor
  · rintro ⟨a, b, first, start, leads, finish⟩
    have last := (advance_follows text.toList (cats ps)).within first leads
    obtain ⟨word, made, ahead⟩ := (spelled first last).mp leads
    rw [first.after_of_before start, finish, List.append_nil] at ahead
    exact ahead ▸ made
  · intro made
    have first : (ofIndex text.toList 0).Within text.toList := within_ofIndex (Nat.zero_le _)
    have last : (ofIndex text.toList text.toList.length).Within text.toList :=
      within_ofIndex (Nat.le_refl _)
    have finish : (ofIndex text.toList text.toList.length).after = [] := List.drop_length
    refine ⟨_, _, first, rfl, (spelled first last).mpr ⟨_, made, ?_⟩, finish⟩
    rw [finish, List.append_nil]
    rfl

end Sequences

section Characters

variable {set : CharSet} {word : List Char}

theorem spells_char_cons {ps : List Pattern} : (cats (char set :: ps)).Spells word ↔
    ∃ c rest, word = c :: rest ∧ set.contains c.toNat = true ∧ (cats ps).Spells rest := by
  rw [spells_cats_cons]
  constructor
  · rintro ⟨_, rest, rfl, ⟨c, rfl, known⟩, behind⟩
    exact ⟨c, rest, rfl, known, behind⟩
  · rintro ⟨c, rest, rfl, known, behind⟩
    exact ⟨[c], rest, rfl, ⟨c, rfl, known⟩, behind⟩

def letters (text : String) : List Pattern := text.toList.map fun c => char (.single c.toNat)

theorem spells_letters_append (text : String) (ps : List Pattern) :
    (cats (letters text ++ ps)).Spells word ↔
      ∃ rest, word = text.toList ++ rest ∧ (cats ps).Spells rest := by
  unfold letters
  generalize text.toList = chars
  induction chars generalizing word with
  | nil => simp
  | cons c chars ih =>
    simp only [List.map_cons, List.cons_append, spells_char_cons, CharSet.single_contains, ih]
    constructor
    · rintro ⟨_, _, rfl, rfl, rest, rfl, spelled⟩
      exact ⟨rest, rfl, spelled⟩
    · rintro ⟨rest, rfl, spelled⟩
      exact ⟨c, _, rfl, rfl, rest, rfl, spelled⟩

theorem spells_run (least : Nat) (most : Option Nat) : (times (char set) least most).Spells word ↔
    least ≤ word.length ∧ (∀ bound ∈ most, word.length ≤ max least bound) ∧
      ∀ c ∈ word, set.contains c.toNat = true := by
  constructor
  · rintro ⟨words, rfl, enough, bounded, all⟩
    have flat : ∃ chars : List Char, words = chars.map ([·]) := by
      clear enough bounded
      induction words with
      | nil => exact ⟨[], rfl⟩
      | cons part words ih =>
        obtain ⟨⟨c, rfl, _⟩, others⟩ := List.forall_mem_cons.mp all
        obtain ⟨chars, rfl⟩ := ih others
        exact ⟨c :: chars, rfl⟩
    obtain ⟨chars, rfl⟩ := flat
    have whole : (chars.map ([·])).flatten = chars := List.flatMap_singleton' chars
    rw [List.length_map] at enough bounded
    rw [whole]
    refine ⟨enough, bounded, fun c member => ?_⟩
    obtain ⟨d, same, known⟩ := all [c] (List.mem_map_of_mem member)
    rw [(List.cons.inj same).1]
    exact known
  · rintro ⟨enough, bounded, all⟩
    have whole : word = (word.map ([·])).flatten := (List.flatMap_singleton' word).symm
    refine ⟨word.map ([·]), whole, by rwa [List.length_map], by rwa [List.length_map], ?_⟩
    intro part member
    obtain ⟨c, inside, rfl⟩ := List.mem_map.mp member
    exact ⟨c, rfl, all c inside⟩

end Characters

end Pattern

end SchemaCheck

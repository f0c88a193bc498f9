import SchemaCheck.Net.Email
import SchemaCheck.Proofs.Net.Hostname
import SchemaCheck.Proofs.Text.Blank
import SchemaCheck.Proofs.Text.Run

/-!
Email addresses. An address consists of a mailbox, an at sign and labels with points in between
(`isAddress_iff`). Behind a display name, an address in angle brackets counts as if it stood alone
(`address?_displayed`).
-/

namespace SchemaCheck.Net.Email

open Text

section Addresses

variable {c : Char} {text : List Char}

theorem hasDoublePoint_iff : hasDoublePoint text = true ↔ ['.', '.'] <:+: text := by
  fun_induction hasDoublePoint text with
  | case1 rest => exact ⟨fun _ => (List.prefix_append ['.', '.'] rest).isInfix, fun _ => rfl⟩
  | case2 c rest noDouble ih =>
    rw [ih, List.infix_cons_iff, or_iff_right]
    rintro ⟨more, same⟩
    obtain ⟨first, second⟩ := List.cons.inj same
    exact noDouble more first.symm second.symm
  | case3 =>
    refine ⟨nofun, fun inside => ?_⟩
    cases List.infix_nil.mp inside

structure Mailbox (text : List Char) : Prop where
  filled : text ≠ []
  characters : ∀ c ∈ text, isMailboxChar c = true
  first : text.head? ≠ some '.'
  last : text.getLast? ≠ some '.'
  single : ¬['.', '.'] <:+: text

theorem isMailbox_iff : isMailbox text = true ↔ Mailbox text := by
  simp only [isMailbox, Bool.and_eq_true, Bool.not_eq_true', List.isEmpty_eq_false_iff,
    bne_iff_ne, List.all_eq_true]
  rw [← Bool.not_eq_true, hasDoublePoint_iff]
  constructor
  · rintro ⟨⟨⟨⟨filled, characters⟩, first⟩, last⟩, single⟩
    exact ⟨filled, characters, first, last, single⟩
  · rintro ⟨filled, characters, first, last, single⟩
    exact ⟨⟨⟨⟨filled, characters⟩, first⟩, last⟩, single⟩

/-- A mailbox, and the labels of the domain behind it. -/
structure Parts (address mailbox : List Char) (labels : List (List Char)) : Prop where
  written : address = mailbox ++ '@' :: ['.'].intercalate labels
  proper : Mailbox mailbox
  filled : labels ≠ []
  labels : ∀ label ∈ labels, Hostname.Label label

theorem Mailbox.noAt (proper : Mailbox text) : ∀ c ∈ text, (c != '@') = true := by
  intro c member
  rw [bne_iff_ne]
  rintro rfl
  cases proper.characters '@' member

theorem isAddress_iff : isAddress text = true ↔ ∃ mailbox labels, Parts text mailbox labels := by
  constructor
  · intro address
    unfold isAddress at address
    split at address
    next c domain behind =>
      obtain rfl : c = '@' := by simpa using dropWhile_starts behind
      rw [Bool.and_eq_true, isMailbox_iff, Hostname.labels_eq_splitOn, List.all_eq_true] at address
      refine ⟨_, domain.splitOn '.', ?_, address.1, List.splitOn_ne_nil _ _,
        fun label member => Hostname.isLabel_iff.mp (address.2 label member)⟩
      rw [List.intercalate_splitOn, ← behind, List.takeWhile_append_dropWhile]
    next => cases address
  · rintro ⟨mailbox, labels, written, proper, filled, each⟩
    have points : ∀ label ∈ labels, '.' ∉ label := fun label member => (each label member).noPoint
    have ahead : NoneAhead (· != '@') ('@' :: ['.'].intercalate labels) := noneAhead_cons rfl _
    rw [written, isAddress, dropWhile_run proper.noAt ahead, takeWhile_run proper.noAt ahead]
    simp only [isMailbox_iff.mpr proper, Hostname.labels_eq_splitOn,
      List.splitOn_intercalate _ points filled, Bool.true_and, List.all_eq_true]
    exact fun label member => Hostname.isLabel_iff.mpr (each label member)

theorem isMailboxChar_of_isAddress (address : isAddress text = true) :
    ∀ c ∈ text, c = '@' ∨ isMailboxChar c = true := by
  obtain ⟨mailbox, labels, parts⟩ := isAddress_iff.mp address
  rw [parts.written]
  have label : ∀ label ∈ labels, ∀ c ∈ label, isMailboxChar c = true := by
    intro label member c inside
    rcases (parts.labels label member).characters c inside with letter | rfl
    · rw [isMailboxChar, letter, Bool.true_or]
    · decide
  intro c member
  rcases List.mem_append.mp member with front | behind
  · exact .inr (parts.proper.characters c front)
  rcases List.mem_cons.mp behind with rfl | domain
  · exact .inl rfl
  rcases Hostname.mem_intercalate domain with rfl | ⟨part, member, inside⟩
  · exact .inr (by decide)
  · exact .inr (label part member c inside)

theorem noBracket_of_isAddress (address : isAddress text = true) : '<' ∉ text := by
  intro member
  rcases isMailboxChar_of_isAddress address '<' member with same | inside
  · cases same
  · cases inside

theorem Parts.count_at {mailbox : List Char} {labels : List (List Char)}
    (parts : Parts text mailbox labels) : text.count '@' = 1 := by
  have front : '@' ∉ mailbox := fun member => by simpa using parts.proper.noAt '@' member
  have behind : '@' ∉ ['.'].intercalate labels := by
    intro member
    rcases Hostname.mem_intercalate member with point | ⟨label, among, inside⟩
    · cases point
    · rcases (parts.labels label among).characters '@' inside with letter | hyphen
      · cases letter
      · cases hyphen
  rw [parts.written, List.count_append, List.count_cons_self, List.count_eq_zero.mpr front,
    List.count_eq_zero.mpr behind]

theorem isBlank_of_isMailboxChar (inside : isMailboxChar c = true) : isBlank c = false := by
  have marks : ("!#$%&'*+/=?^_`\x7b|\x7d~.-".toList.all fun c => !isBlank c) = true := by decide
  simp only [List.all_eq_true, Bool.not_eq_true'] at marks
  rw [isMailboxChar, Bool.or_eq_true] at inside
  rcases inside with letter | mark
  · have small : 48 ≤ c.toNat ∧ c.toNat ≤ 122 := by
      rcases Bool.or_eq_true_iff.mp letter with alpha | digit
      · have range := toNat_of_isAlpha alpha
        omega
      · have range := toNat_of_isDigit digit
        omega
    exact isBlank_of_visible (by omega) (by omega)
  · exact marks c (List.contains_iff_mem.mp mark)

theorem solid_of_isAddress (address : isAddress text = true) :
    ∀ c ∈ text, isBlank c = false := by
  intro c member
  rcases isMailboxChar_of_isAddress address c member with rfl | inside
  · rfl
  · exact isBlank_of_isMailboxChar inside

end Addresses

section Names

variable {name inner text : List Char}

/-- What may stand in front of an address in angle brackets: a text in quotes, with blanks behind
it, or a text without quotes and brackets. -/
inductive DisplayName : List Char → Prop where
  | quoted {text blanks : List Char} (noQuote : '"' ∉ text)
    (blank : ∀ c ∈ blanks, isBlank c = true) : DisplayName ('"' :: (text ++ '"' :: blanks))
  | plain {text : List Char} (free : ∀ c ∈ text, c ≠ '<' ∧ c ≠ '>' ∧ c ≠ '"') : DisplayName text

def inBrackets (inner : List Char) : List Char := '<' :: (inner ++ ['>'])

theorem bracketed?_inBrackets (free : ∀ c ∈ inner, c ≠ '<' ∧ c ≠ '>') :
    bracketed? (inBrackets inner) = if inner = [] then none else some inner := by
  have all : ∀ c ∈ inner, (c != '<' && c != '>') = true := by
    intro c member
    simp [free c member]
  have ahead : NoneAhead (fun c => c != '<' && c != '>') ['>'] := noneAhead_cons rfl []
  unfold inBrackets bracketed?
  simp only [takeWhile_run all ahead, dropWhile_run all ahead, beq_self_eq_true, Bool.and_true,
    Bool.not_eq_true', List.isEmpty_eq_false_iff, ite_not]

theorem named?_displayed (shown : DisplayName name) (free : ∀ c ∈ inner, c ≠ '<' ∧ c ≠ '>') :
    named? (name ++ inBrackets inner) = if inner = [] then none else some inner := by
  have bracket : NoneAhead isBlank (inBrackets inner) := noneAhead_cons rfl _
  cases shown with
  | @quoted text blanks noQuote blank =>
    have all : ∀ c ∈ text, (c != '"') = true := by
      intro c member
      rw [bne_iff_ne]
      exact fun same => noQuote (same ▸ member)
    have ahead : NoneAhead (· != '"') ('"' :: (blanks ++ inBrackets inner)) := noneAhead_cons rfl _
    rw [List.cons_append, List.append_assoc, List.cons_append, named?]
    simp only [dropWhile_run all ahead, dropWhile_run blank bracket, bracketed?_inBrackets free]
  | plain unmarked =>
    have all : ∀ c ∈ name, (c != '<' && c != '>' && c != '"') = true := by
      intro c member
      simp [unmarked c member]
    have ahead : NoneAhead (fun c => c != '<' && c != '>' && c != '"') (inBrackets inner) :=
      noneAhead_cons rfl _
    rw [named?]
    · rw [dropWhile_run all ahead, bracketed?_inBrackets free]
    -- It is not taken for a text in quotes.
    · intro rest same
      cases name with
      | nil => cases same
      | cons c more =>
        obtain ⟨first, _⟩ := List.cons.inj same
        exact (unmarked c List.mem_cons_self).2.2 first

theorem bracketed?_none (noBracket : '<' ∉ text) : bracketed? text = none := by
  unfold bracketed?
  split
  next rest => exact absurd List.mem_cons_self noBracket
  next => rfl

theorem named?_none (noBracket : '<' ∉ text) : named? text = none := by
  unfold named?
  split
  next rest =>
    split
    next c behind left =>
      refine bracketed?_none fun member => noBracket (List.mem_cons_of_mem _ ?_)
      refine (List.dropWhile_sublist _).mem (left ▸ List.mem_cons_of_mem c ?_)
      exact (List.dropWhile_sublist _).mem member
    next => rfl
  next => exact bracketed?_none fun member => noBracket ((List.dropWhile_sublist _).mem member)

/-- An address behind a display name counts as if it stood alone. -/
theorem address?_displayed (shown : DisplayName name) (free : ∀ c ∈ inner, c ≠ '<' ∧ c ≠ '>') :
    address? (name ++ inBrackets inner) = address? (trim inner) := by
  have alone : '<' ∉ trim inner := fun member => (free '<' (mem_of_mem_trim member)).1 rfl
  have named := named?_displayed shown free
  by_cases empty : inner = []
  -- There is no name in front of empty brackets, and the whole text is no address either.
  · have bracket : '<' ∈ name ++ inBrackets inner :=
      List.mem_append_right name List.mem_cons_self
    have notAddress : isAddress (name ++ inBrackets inner) = false :=
      Bool.eq_false_iff.mpr fun address => noBracket_of_isAddress address bracket
    rw [if_pos empty] at named
    rw [empty] at named notAddress ⊢
    simp only [address?, named, Option.map_none, Option.getD_none, notAddress]
    rfl
  · rw [if_neg empty] at named
    simp only [address?, named, named?_none alone, Option.map_some, Option.getD_some,
      Option.map_none, Option.getD_none]

theorem trim_displayed (name inner : List Char) :
    trim (name ++ inBrackets inner) = name.dropWhile isBlank ++ inBrackets inner := by
  have bracket : NoneAhead isBlank (inBrackets inner) := noneAhead_cons rfl _
  have last : name.dropWhile isBlank ++ inBrackets inner =
      (name.dropWhile isBlank ++ '<' :: inner) ++ ['>'] := by
    rw [List.append_assoc]
    rfl
  rw [trim, dropWhile_append_noneAhead bracket, last, trimEnd_of_end rfl]

theorem DisplayName.dropBlanks (shown : DisplayName name) :
    DisplayName (name.dropWhile isBlank) := by
  cases shown with
  | quoted noQuote blank => exact .quoted noQuote blank
  | plain unmarked =>
    exact .plain fun c member => unmarked c ((List.dropWhile_sublist _).mem member)

end Names

section Accepted

variable {text address : List Char}

theorem isAddress_of_address? (read : address? text = some address) :
    isAddress address = true := by
  unfold address? at read
  simp only at read
  split at read
  next accepted => exact Option.some.inj read ▸ accepted
  next => cases read

theorem address?_self (accepted : isAddress address = true) :
    address? address = some address := by
  simp only [address?, named?_none (noBracket_of_isAddress accepted), Option.map_none,
    Option.getD_none, if_pos accepted]

end Accepted

section Shape

variable {text inner address : List Char}

theorem bracketed?_some (read : bracketed? text = some inner) : text = inBrackets inner := by
  unfold bracketed? at read
  split at read
  next rest =>
    dsimp only at read
    split at read
    next closed =>
      obtain rfl := Option.some.inj read
      have behind := eq_of_beq (Bool.and_eq_true_iff.mp closed).2
      rw [inBrackets, ← behind, List.takeWhile_append_dropWhile]
    next => cases read
  next => cases read

theorem named?_some (read : named? text = some inner) : inBrackets inner <:+ text := by
  unfold named? at read
  split at read
  next rest =>
    split at read
    next c behind left =>
      have later : behind <:+ rest :=
        (List.suffix_cons c behind).trans (left ▸ List.dropWhile_suffix _)
      rw [← bracketed?_some read]
      exact (List.dropWhile_suffix _).trans (later.trans (List.suffix_cons _ rest))
    next => cases read
  next =>
    rw [← bracketed?_some read]
    exact List.dropWhile_suffix _

theorem ends_of_isAddress (accepted : isAddress text = true) :
    ∃ front c, text = front ++ [c] ∧ c.isAlphanum = true := by
  obtain ⟨mailbox, labels, parts⟩ := isAddress_iff.mp accepted
  have ends := List.getLast?_eq_some_getLast parts.filled
  obtain ⟨front, c, last, letter⟩ := (parts.labels _ (List.mem_of_getLast? ends)).ends
  obtain ⟨before, same⟩ := Hostname.suffix_intercalate ends
  refine ⟨mailbox ++ '@' :: (before ++ front), c, ?_, letter⟩
  rw [parts.written, ← same, last]
  simp

/-- Where an address is found, the text holds an at sign and ends with the address or a bracket. -/
theorem shape_of_address? (read : address? text = some address) :
    '@' ∈ text ∧ ∃ front c, text = front ++ [c] ∧ (c.isAlphanum = true ∨ c = '>') := by
  have at_sign {text : List Char} (accepted : isAddress text = true) : '@' ∈ text := by
    obtain ⟨mailbox, labels, parts⟩ := isAddress_iff.mp accepted
    rw [parts.written]
    exact List.mem_append_right _ List.mem_cons_self
  have accepted := isAddress_of_address? read
  unfold address? at read
  simp only at read
  split at read
  next =>
    obtain rfl := Option.some.inj read
    cases named : named? text with
    | none =>
      rw [named] at accepted
      obtain ⟨front, c, ends, letter⟩ := ends_of_isAddress accepted
      exact ⟨at_sign accepted, front, c, ends, .inl letter⟩
    | some inner =>
      rw [named] at accepted
      obtain ⟨front, same⟩ := named?_some named
      refine ⟨?_, front ++ '<' :: inner, '>', ?_, .inr rfl⟩
      · have member : '@' ∈ inner := mem_of_mem_trim (at_sign accepted)
        rw [← same, inBrackets]
        simp [member]
      · rw [← same, inBrackets]
        simp
  next => cases read

end Shape

end SchemaCheck.Net.Email

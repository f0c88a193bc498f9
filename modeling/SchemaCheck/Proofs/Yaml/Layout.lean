import Mathlib.Data.List.Basic
import SchemaCheck.Yaml.Printer

/-!
What a pen has written. Behind a scalar its line is ended (`Pen.ended_text`), so that the text of a
mapping is made of the lines of its fields.
-/

namespace SchemaCheck.Yaml

open Json (Value)

def blanks (count : Nat) : List Char := List.replicate count ' '

section Bodies

/-- What stands between single quotes for a text; `broken` tells that a line has just started. -/
def singleBody (indent : Nat) : (broken : Bool) → List Char → List Char
  | broken, [] => if broken then blanks indent else []
  | broken, c :: rest =>
    if isBreak c then c :: singleBody indent true rest
    else
      (if broken then blanks indent else []) ++
        ((if c = '\'' then ['\'', '\''] else [c]) ++ singleBody indent false rest)

def literalBody (indent : Nat) : (broken : Bool) → List Char → List Char
  | _, [] => []
  | broken, c :: rest =>
    if isBreak c then c :: literalBody indent true rest
    else (if broken then blanks indent else []) ++ c :: literalBody indent false rest

/-- The end of the last line, unless the text has it. -/
def lineEnd (text : List Char) : List Char := if text.getLast?.any isBreak then [] else ['\n']

/-- A scalar with the end of its line; its further lines stand in the column `indent`. -/
def scalarLine (indent : Nat) (s : String) : List Char :=
  match Writing.ofText s with
  | .plain => s.toList ++ ['\n']
  | .single => '\'' :: (singleBody indent false s.toList ++ ['\'', '\n'])
  | .double => '"' :: (s.toList.flatMap Pen.doubleChar ++ ['"', '\n'])
  | .literal =>
    '|' :: ((Pen.literalHints s.toList).toList ++
      '\n' :: (literalBody indent true s.toList ++ lineEnd s.toList))

end Bodies

section Pairs

variable {p q : Char → Bool} {c : Char} {rest : List Char}

theorem Writing.hasPair_cons : Writing.hasPair p q (c :: rest) = false ↔
    (p c = true → ∀ d ∈ rest.head?, q d = false) ∧ Writing.hasPair p q rest = false := by
  cases rest with
  | nil => simp [Writing.hasPair]
  | cons d rest =>
    have step : Writing.hasPair p q (c :: d :: rest) =
        (p c && q d || Writing.hasPair p q (d :: rest)) := rfl
    rw [step, Bool.or_eq_false_iff, Bool.and_eq_false_imp]
    simp

end Pairs

namespace Pen

variable {pen : Pen} {text : List Char}

/-- What a pen has written, in the order of reading. -/
def output (pen : Pen) : List Char := pen.written.reverse

@[simp]
theorem output_put (c : Char) (pen : Pen) : (pen.put c).output = pen.output ++ [c] :=
  List.reverse_cons

@[simp]
theorem output_breakLine (c : Char) (pen : Pen) : (pen.breakLine c).output = pen.output ++ [c] :=
  List.reverse_cons

@[simp]
theorem output_leave (pen : Pen) : pen.leave.output = pen.output := rfl

theorem puts_eq (text : List Char) (pen : Pen) : pen.puts text =
    { pen with written := text.reverse ++ pen.written, column := pen.column + text.length } := by
  induction text generalizing pen with
  | nil => rfl
  | cons c rest ih =>
    rw [puts, List.foldl_cons]
    change (pen.put c).puts rest = _
    rw [ih]
    simp [put]
    omega

@[simp]
theorem output_puts (text : List Char) (pen : Pen) :
    (pen.puts text).output = pen.output ++ text := by
  rw [puts_eq, output, List.reverse_append, List.reverse_reverse]
  rfl

@[simp]
theorem output_sign (text : String) (asks keeps : Bool) (pen : Pen) :
    (pen.sign text asks keeps).output =
      pen.output ++ ((if asks && !pen.spaced then [' '] else []) ++ text.toList) := by
  have inside (pen : Pen) (spaced indenting : Bool) :
      ({ pen.puts text.toList with spaced, indenting } : Pen).output = pen.output ++ text.toList :=
    output_puts text.toList pen
  rw [sign, inside]
  split <;> simp

@[simp]
theorem spaced_sign (text : String) (asks keeps : Bool) (pen : Pen) :
    (pen.sign text asks keeps).spaced = false := rfl

@[simp]
theorem indenting_sign (text : String) (asks keeps : Bool) (pen : Pen) :
    (pen.sign text asks keeps).indenting = (pen.indenting && keeps) := by
  rw [sign]
  split <;> rfl

def stand (text : List Char) (column : Nat) : Pen := ⟨text.reverse, column, true, true⟩

/-- Whatever column the pen goes to, the line before has been ended. -/
def Ended (pen : Pen) (text : List Char) : Prop :=
  ∀ column, pen.goTo column = stand (text ++ blanks column) column

theorem ended_start : Ended {} [] := by
  intro column
  cases column <;> simp [goTo, puts_eq, stand, blanks]

theorem ended_within (within : pen.indenting = false) : pen.Ended (pen.output ++ ['\n']) := by
  intro column
  simp [goTo, within, puts_eq, stand, blanks, breakLine, output]

theorem ended_fresh (fresh : pen.indenting = true) (spaced : pen.spaced = true)
    (column : pen.column = 0) : pen.Ended pen.output := by
  intro target
  cases target <;> simp [goTo, fresh, spaced, column, puts_eq, stand, blanks, output]

theorem goTo_fresh (fresh : pen.indenting = true) (column : pen.column = 0) {indent : Nat}
    (inside : 0 < indent) : pen.goTo indent =
      { pen with
        written := (blanks indent).reverse ++ pen.written
        column := indent
        spaced := true
        indenting := true } := by
  simp [goTo, fresh, column, inside, puts_eq, blanks]

section Scalars

variable {indent : Nat} {broken : Bool}

def Opened (broken : Bool) (pen : Pen) : Prop :=
  broken = true → pen.indenting = true ∧ pen.column = 0

theorem opened_within : Opened false pen := fun start => absurd start Bool.false_ne_true

theorem output_indented (inside : 0 < indent) (opened : Opened broken pen) :
    (if broken then pen.goTo indent else pen).output =
      pen.output ++ if broken then blanks indent else [] := by
  split
  next start =>
    obtain ⟨fresh, column⟩ := opened start
    rw [goTo_fresh fresh column inside]
    simp [output]
  next => exact (List.append_nil _).symm

/-- In single quotes no blank stands behind a line break, and no feed is written. -/
theorem output_singleChars (inside : 0 < indent) (noFeed : '\n' ∉ text)
    (apart : Writing.hasPair isBreak (· == ' ') text = false) (opened : Opened broken pen)
    (noBlank : broken = true → text.head? ≠ some ' ') :
    (pen.singleChars indent broken text).output = pen.output ++ singleBody indent broken text := by
  induction text generalizing broken pen with
  | nil => exact output_indented inside opened
  | cons c rest ih =>
    obtain ⟨behind, later⟩ := Writing.hasPair_cons.mp apart
    have fewer : '\n' ∉ rest := List.not_mem_of_not_mem_cons noFeed
    have within (pen : Pen) :
        (pen.singleChars indent false rest).output = pen.output ++ singleBody indent false rest :=
      ih fewer later opened_within fun start => absurd start Bool.false_ne_true
    rw [singleChars, singleBody]
    by_cases ends : isBreak c = true
    · have other : (!broken && c == '\n') = false := by
        simp [Ne.symm (List.ne_of_not_mem_cons noFeed)]
      have noSpace (_ : true = true) : rest.head? ≠ some ' ' := fun first =>
        absurd (behind ends ' ' first) (by decide)
      rw [if_pos ends, if_pos ends, other]
      dsimp only
      rw [if_neg Bool.false_ne_true, ih fewer later (fun _ => ⟨rfl, rfl⟩) noSpace]
      simp [output, breakLine]
    rw [if_neg ends, if_neg ends]
    by_cases space : c = ' '
    · subst space
      have here : broken = false := Bool.eq_false_iff.mpr fun start => noBlank start rfl
      subst here
      rw [if_pos rfl, within]
      simp
    · have indented := output_indented inside opened
      rw [if_neg space]
      dsimp only
      generalize (if broken then pen.goTo indent else pen) = ready at indented ⊢
      rw [within]
      by_cases quote : c = '\''
      · simp [output, put, quote] at indented ⊢
        simp [indented]
      · simp [output, put, quote] at indented ⊢
        simp [indented]

theorem output_literalChars (inside : 0 < indent) (opened : Opened broken pen) :
    (pen.literalChars indent broken text).output =
      pen.output ++ literalBody indent broken text := by
  induction text generalizing broken pen with
  | nil => exact (List.append_nil _).symm
  | cons c rest ih =>
    rw [literalChars, literalBody]
    by_cases ends : isBreak c = true
    · rw [if_pos ends, if_pos ends]
      dsimp only
      rw [ih fun _ => ⟨rfl, rfl⟩]
      simp [output, breakLine]
    · have indented := output_indented inside opened
      rw [if_neg ends, if_neg ends]
      dsimp only
      generalize (if broken then pen.goTo indent else pen) = ready at indented ⊢
      rw [ih opened_within]
      simp [output, put] at indented ⊢
      simp [indented]

/-- Behind the last character of a block the pen is at the start of a line if that is a break. -/
theorem literalChars_last (spaced : pen.spaced = true) (filled : text ≠ []) :
    (pen.literalChars indent broken text).spaced = true ∧
      if text.getLast?.any isBreak then
        (pen.literalChars indent broken text).indenting = true ∧
          (pen.literalChars indent broken text).column = 0
      else (pen.literalChars indent broken text).indenting = false := by
  induction text generalizing broken pen with
  | nil => exact absurd rfl filled
  | cons c rest ih =>
    have ready : (if broken then pen.goTo indent else pen).spaced = true := by
      split
      · rfl
      · exact spaced
    rw [literalChars]
    cases rest with
    | nil =>
      by_cases ends : isBreak c = true
      · simp [literalChars, ends, spaced, breakLine]
      · simp [literalChars, ends, ready, put]
    | cons d others =>
      rw [List.getLast?_cons_cons]
      split
      · exact ih spaced (List.cons_ne_nil _ _)
      · exact ih ready (List.cons_ne_nil _ _)

theorem ended_literalChars (inside : 0 < indent) (spaced : pen.spaced = true)
    (opened : Opened broken pen) (filled : text ≠ []) :
    (pen.literalChars indent broken text).Ended
      (pen.output ++ (literalBody indent broken text ++ lineEnd text)) := by
  have written : (pen.literalChars indent broken text).output = _ :=
    output_literalChars inside opened
  obtain ⟨still, last⟩ : (pen.literalChars indent broken text).spaced = true ∧ _ :=
    literalChars_last spaced filled
  rw [lineEnd]
  by_cases ends : text.getLast?.any isBreak = true
  · rw [if_pos ends] at last ⊢
    have fresh := ended_fresh last.1 still last.2
    rwa [written, ← List.append_nil (literalBody _ _ _)] at fresh
  · rw [if_neg ends] at last ⊢
    have within := ended_within last
    rwa [written, List.append_assoc] at within

end Scalars

end Pen

namespace Writing

variable {s : String}

theorem ofText_plain (written : ofText s = .plain) :
    isMistakable s = false ∧ allowsPlain s.toList = true := by
  unfold ofText quietest at written
  grind

theorem ofText_single (written : ofText s = .single) :
    '\n' ∉ s.toList ∧ allowsSingle s.toList = true := by
  unfold ofText quietest at written
  grind

theorem ofText_literal (written : ofText s = .literal) : allowsLiteral s.toList = true := by
  unfold ofText quietest at written
  grind

theorem ne_empty_of_plain (written : ofText s = .plain) : s.toList ≠ [] := by
  intro empty
  have known := (ofText_plain written).1
  rw [String.toList_eq_nil_iff.mp empty] at known
  exact absurd known (by decide)

end Writing

namespace Pen

variable {pen : Pen}

theorem ended_text {indent : Nat} (inside : 0 < indent) (s : String) (behind : pen.spaced = false) :
    (pen.text indent s).Ended (pen.output ++ ' ' :: scalarLine indent s) := by
  rw [text, scalarLine]
  cases written : Writing.ofText s with
  | plain =>
    have filled : s.toList.isEmpty = false :=
      List.isEmpty_eq_false_iff.mpr (Writing.ne_empty_of_plain written)
    have spelled : (pen.plain s.toList).output = pen.output ++ ' ' :: s.toList := by
      simp [plain, behind, filled]
    simpa [spelled] using (ended_within rfl : (pen.plain s.toList).Ended _)
  | single =>
    obtain ⟨noFeed, allowed⟩ := Writing.ofText_single written
    have apart : Writing.hasPair isBreak (· == ' ') s.toList = false := by
      simp only [Writing.allowsSingle, Bool.not_or, Bool.and_eq_true, Bool.not_eq_true'] at allowed
      exact allowed.2
    have spelled : (pen.single indent s.toList).output =
        pen.output ++ ' ' :: '\'' :: (singleBody indent false s.toList ++ ['\'']) := by
      have opened : Opened false (pen.sign "'" true false) := opened_within
      have body := output_singleChars inside noFeed apart opened fun start =>
        absurd start Bool.false_ne_true
      rw [single, output_leave, output_sign, body]
      simp [behind]
    simpa [spelled] using (ended_within rfl : (pen.single indent s.toList).Ended _)
  | double =>
    have spelled : (pen.double s.toList).output =
        pen.output ++ ' ' :: '"' :: (s.toList.flatMap doubleChar ++ ['"']) := by
      simp [double, behind]
    simpa [spelled] using (ended_within rfl : (pen.double s.toList).Ended _)
  | literal =>
    have allowed := Writing.ofText_literal written
    have filled : s.toList ≠ [] := by
      simp only [Writing.allowsLiteral, Bool.not_or, Bool.and_eq_true, Bool.not_eq_true',
        List.isEmpty_eq_false_iff] at allowed
      exact allowed.1.1
    let header : Pen := (pen.sign "|" true false).sign (literalHints s.toList) false false
    let ready : Pen := { header.breakLine '\n' with spaced := true, indenting := true }
    have lines : (ready.literalChars indent true s.toList).Ended _ :=
      ended_literalChars inside rfl (fun _ => ⟨rfl, rfl⟩) filled
    have spelled : ready.output =
        pen.output ++ ' ' :: '|' :: ((literalHints s.toList).toList ++ ['\n']) := by
      have same : ready.output = (header.breakLine '\n').output := rfl
      rw [same, output_breakLine, output_sign, output_sign]
      simp [behind]
    change (ready.literalChars indent true s.toList).Ended _
    simpa [spelled] using lines

/-- The pen is within its line, behind a text. -/
structure Behind (pen : Pen) (text : List Char) : Prop where
  output : pen.output = text
  spaced : pen.spaced = false
  indenting : pen.indenting = false

theorem Behind.ended_plain {text word : List Char} (behind : pen.Behind text) (filled : word ≠ []) :
    (pen.plain word).Ended (text ++ ' ' :: (word ++ ['\n'])) := by
  have spelled : (pen.plain word).output = text ++ ' ' :: word := by
    simp [plain, behind.spaced, filled, behind.output]
  simpa [spelled] using (ended_within rfl : (pen.plain word).Ended _)

end Pen

section Collections

def fieldText (name : String) (content : List Char) : List Char := name.toList ++ ':' :: content

def flagLine (b : Bool) : List Char := (if b then "true" else "false").toList ++ ['\n']

/-- The lines of a sequence behind a key; its dashes stand in a column. -/
def listLines {α : Type} (column : Nat) (lines : α → List Char) (items : List α) : List Char :=
  if items.isEmpty then [' ', '[', ']', '\n']
  else '\n' :: items.flatMap fun item => blanks column ++ '-' :: ' ' :: lines item

/-- Words that stand as keys just as they are. -/
structure KeyWord (name : String) : Prop where
  plain : Writing.ofText name = .plain
  simple : Pen.isSimpleKey name = true
  letters : ∀ c ∈ name.toList, c.isAlpha = true
  short : name.toList.length ≤ 1024

namespace Pen

variable {pen : Pen} {text : List Char} {name : String} {indent column : Nat}

theorem behind_key (word : KeyWord name) (stands : pen.goTo indent = stand text indent) :
    (pen.key indent name).Behind (text ++ (name.toList ++ [':'])) := by
  have written : pen.key indent name =
      ((stand text indent).plain name.toList).sign ":" false false := by
    rw [key, stands, if_pos word.simple, Pen.text, word.plain]
  have spelled : ((stand text indent).plain name.toList).output = text ++ name.toList := by
    simp [plain, stand, output_leave]
    simp [output]
  rw [written]
  refine ⟨?_, rfl, by simp⟩
  rw [output_sign, spelled]
  simp

theorem ended_textField (word : KeyWord name) (stands : pen.goTo indent = stand text indent)
    (s : String) : (value (some indent) true (.string s) (pen.key indent name)).Ended
      (text ++ fieldText name (' ' :: scalarLine (indent + 2) s)) := by
  have behind := behind_key word stands
  have written := ended_text (Nat.succ_pos (indent + 1)) s behind.spaced
  rw [behind.output] at written
  simpa [value, withinScalar, fieldText] using written

theorem ended_flagField (word : KeyWord name) (stands : pen.goTo indent = stand text indent)
    (b : Bool) : (value (some indent) true (.bool b) (pen.key indent name)).Ended
      (text ++ fieldText name (' ' :: flagLine b)) := by
  have filled : (if b then "true" else "false").toList ≠ [] := by cases b <;> decide
  have written := (behind_key word stands).ended_plain filled
  simpa [value, fieldText, flagLine] using written

def dashed (text : List Char) (column : Nat) : Pen := (stand text column).sign "-" true true

@[simp]
theorem output_dashed (text : List Char) (column : Nat) :
    (dashed text column).output = text ++ ['-'] := by
  rw [dashed, output_sign]
  simp [stand, output]

/-- The first key of an item stands on the line of its dash. -/
theorem goTo_dashed (text : List Char) (column : Nat) :
    (dashed text column).goTo (column + 2) = stand (text ++ ['-', ' ']) (column + 2) := by
  simp [goTo, dashed, sign, stand, puts_eq]

variable {α : Type} {toValue : α → Value} {lines : α → List Char}

theorem ended_items
    (item : ∀ x text, (value (some column) false (toValue x) (dashed text column)).Ended
      (text ++ '-' :: ' ' :: lines x))
    (items : List α) (ended : pen.Ended text) :
    (Pen.items column (items.map toValue) pen).Ended
      (text ++ items.flatMap fun x => blanks column ++ '-' :: ' ' :: lines x) := by
  induction items generalizing pen text with
  | nil => rwa [List.flatMap_nil, List.append_nil]
  | cons x rest ih =>
    have written := ih (item x (text ++ blanks column))
    rw [List.map_cons, Pen.items, ended column]
    simpa [dashed] using written

theorem ended_listField (word : KeyWord name) (stands : pen.goTo indent = stand text indent)
    (item : ∀ x text, (value (some indent) false (toValue x) (dashed text indent)).Ended
      (text ++ '-' :: ' ' :: lines x))
    (items : List α) :
    (value (some indent) true (.array (items.map toValue)) (pen.key indent name)).Ended
      (text ++ fieldText name (listLines indent lines items)) := by
  have behind := behind_key word stands
  cases items with
  | nil =>
    have within :
        (((pen.key indent name).sign "[" true false).sign "]" false false).indenting = false := by
      simp
    have written := ended_within within
    rw [List.map_nil, value]
    simpa [behind.spaced, behind.output, fieldText, listLines] using written
  | cons x rest =>
    have fresh := ended_within behind.indenting
    have written := ended_items item (x :: rest) fresh
    rw [List.map_cons, value, ← List.map_cons]
    simpa [fieldText, listLines, behind.indenting, behind.output] using written

end Pen

theorem print_eq {v : Value} {text : List Char}
    (ended : (Pen.value none false v {}).Ended text) : print v = String.ofList text := by
  rw [print, ended 0]
  simp [Pen.stand, blanks]

end Collections

end SchemaCheck.Yaml

import SchemaCheck.Pattern.Matching

/-!
Where a pattern leads in a text. `Pattern.Leads` says it for single places, by recursion over the
pattern; the search by lists of places finds exactly these (`Pattern.advance_follows`). The lists
stay in order, which the search needs to know a place again, and a repetition goes round at most once
for each character that is left, since a round that consumes nothing leads nowhere new.
-/

namespace SchemaCheck

namespace Place

def ofIndex (text : List Char) (index : Nat) : Place :=
  ⟨index, (text.take index).getLast?, text.drop index⟩

def Within (text : List Char) (place : Place) : Prop :=
  place.index ≤ text.length ∧ place = ofIndex text place.index

variable {text : List Char} {a b : Place}

theorem within_ofIndex {index : Nat} (inside : index ≤ text.length) :
    (ofIndex text index).Within text := ⟨inside, rfl⟩

theorem Within.eq_of_index (first : a.Within text) (second : b.Within text)
    (same : a.index = b.index) : a = b := by
  rw [first.2, second.2, same]

theorem Within.length_after (inside : a.Within text) :
    a.index + a.after.length = text.length := by
  obtain ⟨short, same⟩ := inside
  rw [same]
  simp only [ofIndex, List.length_drop]
  omega

theorem step?_index {set : Unicode.CharSet} (stepped : a.step? set = some b) :
    b.index = a.index + 1 := by
  unfold step? at stepped
  split at stepped
  · cases stepped
  · split at stepped
    · cases stepped
      rfl
    · cases stepped

theorem Within.step? {set : Unicode.CharSet} (inside : a.Within text)
    (stepped : a.step? set = some b) : b.Within text := by
  have left := inside.length_after
  obtain ⟨_, same⟩ := inside
  unfold Place.step? at stepped
  split at stepped
  · cases stepped
  next c rest ahead =>
    have behind : text.drop a.index = c :: rest := by
      rw [← ahead, same]
      rfl
    split at stepped
    · cases stepped
      rw [ahead, List.length_cons] at left
      have taken : text.take (a.index + 1) = text.take a.index ++ [c] := by
        rw [List.take_add, behind]
        rfl
      have dropped : text.drop (a.index + 1) = rest := by
        rw [← List.drop_drop, behind]
        rfl
      refine ⟨by dsimp only; omega, ?_⟩
      simp only [ofIndex, taken, dropped, List.getLast?_concat]
    · cases stepped

/-- Places of a text, each one further on than those in front of it. -/
structure Orderly (text : List Char) (places : List Place) : Prop where
  within : ∀ place ∈ places, place.Within text
  ascending : places.Pairwise fun a b => a.index < b.index

namespace Orderly

variable {places others : List Place} {place : Place}

theorem nil : Orderly text [] := ⟨fun _ member => (nomatch member), .nil⟩

theorem head (orderly : Orderly text (place :: places)) : place.Within text :=
  orderly.within place List.mem_cons_self

theorem below (orderly : Orderly text (place :: places)) :
    ∀ other ∈ places, place.index < other.index := (List.pairwise_cons.mp orderly.ascending).1

theorem tail (orderly : Orderly text (place :: places)) : Orderly text places :=
  ⟨fun other member => orderly.within other (List.mem_cons_of_mem _ member),
    (List.pairwise_cons.mp orderly.ascending).2⟩

theorem cons (inside : place.Within text) (below : ∀ other ∈ places, place.index < other.index)
    (orderly : Orderly text places) : Orderly text (place :: places) := by
  refine ⟨?_, List.pairwise_cons.mpr ⟨below, orderly.ascending⟩⟩
  intro other member
  rcases List.mem_cons.mp member with rfl | member
  · exact inside
  · exact orderly.within other member

theorem filter (orderly : Orderly text places) (keep : Place → Bool) :
    Orderly text (places.filter keep) :=
  ⟨fun place member => orderly.within place (List.mem_filter.mp member).1,
    orderly.ascending.filter keep⟩

end Orderly

section Lists

theorem onward_eq (front rest : List Char) :
    onward front.length front.getLast? rest =
      (List.range' front.length (rest.length + 1)).map (ofIndex (front ++ rest)) := by
  induction rest generalizing front with
  | nil => simp [onward, ofIndex]
  | cons c rest ih =>
    have later := ih (front ++ [c])
    simp only [List.length_append, List.length_singleton, List.getLast?_concat,
      List.append_assoc, List.singleton_append] at later
    simp only [onward, List.length_cons, List.range'_succ, List.map_cons] at later ⊢
    rw [later]
    simp [ofIndex]

theorem all_eq (text : List Char) :
    all text = (List.range (text.length + 1)).map (ofIndex text) := by
  rw [List.range_eq_range']
  exact onward_eq [] text

theorem mem_all : a ∈ all text ↔ a.Within text := by
  rw [all_eq, List.mem_map]
  constructor
  · rintro ⟨index, inRange, rfl⟩
    exact within_ofIndex (Nat.le_of_lt_succ (List.mem_range.mp inRange))
  · intro inside
    exact ⟨a.index, List.mem_range.mpr (Nat.lt_succ_of_le inside.1), inside.2.symm⟩

theorem all_orderly (text : List Char) : Orderly text (all text) := by
  refine ⟨fun place => mem_all.mp, ?_⟩
  rw [all_eq, List.pairwise_map]
  exact List.pairwise_lt_range

variable {places others : List Place} {place : Place}

theorem merge_spec (first : Orderly text places) (second : Orderly text others) :
    Orderly text (merge places others) ∧
      ∀ b, b ∈ merge places others ↔ b ∈ places ∨ b ∈ others := by
  induction places generalizing others with
  | nil => simpa [merge] using second
  | cons place rest outer =>
    rw [merge]
    induction others with
    | nil => simpa [mergeBehind] using first
    | cons other later inner =>
      obtain ⟨kept, members⟩ := outer first.tail second
      obtain ⟨keptBehind, membersBehind⟩ := outer first.tail second.tail
      obtain ⟨keptFront, membersFront⟩ := inner second.tail
      rw [mergeBehind]
      rcases Nat.lt_trichotomy place.index other.index with less | same | more
      · rw [if_pos less]
        refine ⟨.cons first.head ?_ kept, fun b => ?_⟩
        · intro b member
          rcases (members b).mp member with member | member
          · exact first.below b member
          · rcases List.mem_cons.mp member with rfl | member
            · exact less
            · exact Nat.lt_trans less (second.below b member)
        · simp only [List.mem_cons, members b, or_assoc]
      · rw [if_neg (by omega), if_pos same]
        obtain rfl := first.head.eq_of_index second.head same
        refine ⟨.cons first.head ?_ keptBehind, fun b => ?_⟩
        · intro b member
          rcases (membersBehind b).mp member with member | member
          · exact first.below b member
          · exact second.below b member
        · simp only [List.mem_cons, membersBehind b]
          grind
      · rw [if_neg (by omega), if_neg (by omega)]
        refine ⟨.cons second.head ?_ keptFront, fun b => ?_⟩
        · intro b member
          rcases (membersFront b).mp member with member | member
          · rcases List.mem_cons.mp member with rfl | member
            · exact more
            · exact Nat.lt_trans more (first.below b member)
          · exact second.below b member
        · simp only [List.mem_cons, membersFront b]
          grind

/-- In a list that is in order, a place is known again by its index. -/
theorem isAmong_iff (inside : place.Within text) (orderly : Orderly text others) :
    place.isAmong others = true ↔ place ∈ others := by
  induction others with
  | nil => simp [isAmong]
  | cons other more ih =>
    rw [isAmong, List.mem_cons]
    by_cases less : other.index < place.index
    · rw [if_pos less, ih orderly.tail]
      constructor
      · exact .inr
      · rintro (rfl | member)
        · exact absurd less (Nat.lt_irrefl _)
        · exact member
    · rw [if_neg less, beq_iff_eq]
      constructor
      · intro same
        exact .inl (inside.eq_of_index orderly.head same.symm)
      · rintro (rfl | member)
        · rfl
        · exact absurd (orderly.below place member) less

theorem mem_without (first : Orderly text places) (second : Orderly text others) :
    b ∈ without places others ↔ b ∈ places ∧ b ∉ others := by
  rw [without, List.mem_filter]
  constructor
  · rintro ⟨member, fresh⟩
    refine ⟨member, fun known => ?_⟩
    rw [(isAmong_iff (first.within b member) second).mpr known] at fresh
    cases fresh
  · rintro ⟨member, fresh⟩
    refine ⟨member, ?_⟩
    cases known : b.isAmong others with
    | false => rfl
    | true => exact absurd ((isAmong_iff (first.within b member) second).mp known) fresh

end Lists

end Place

namespace Pattern

open Place

def Steps {α : Type} (relation : α → α → Prop) : Nat → α → α → Prop
  | 0, a, b => a = b
  | count + 1, a, b => ∃ c, relation a c ∧ Steps relation count c b

/-- Where the pattern may end in a text when it starts at a place of it. -/
def Leads : Pattern → Place → Place → Prop
  | empty, a, b => a = b
  | char set, a, b => a.step? set = some b
  | look test, a, b => test.holds a = true ∧ a = b
  | cat p q, a, b => ∃ c, p.Leads a c ∧ q.Leads c b
  | alt p q, a, b => p.Leads a b ∨ q.Leads a b
  | times p least most, a, b =>
    ∃ count, least ≤ count ∧ (∀ bound ∈ most, count ≤ max least bound) ∧ Steps p.Leads count a b

theorem Steps.append {α : Type} {relation : α → α → Prop} {a b : α} (m n : Nat) :
    Steps relation (m + n) a b ↔ ∃ c, Steps relation m a c ∧ Steps relation n c b := by
  induction m generalizing a with
  | zero => simp [Steps]
  | succ m ih =>
    rw [Nat.add_right_comm]
    simp only [Steps, ih]
    grind

theorem Steps.stays {α : Type} {relation : α → α → Prop} {known : α → Prop}
    (closed : ∀ a, known a → ∀ b, relation a b → known b) {count : Nat} {a b : α} (start : known a)
    (leads : Steps relation count a b) : known b := by
  induction count generalizing a with
  | zero => exact leads ▸ start
  | succ count ih =>
    obtain ⟨c, first, behind⟩ := leads
    exact ih (closed a start c first) behind

/-- A step from list to list goes where a relation on places leads, and never back. -/
structure Follows (text : List Char) (step : List Place → List Place)
    (relation : Place → Place → Prop) : Prop where
  orderly : ∀ {places}, Orderly text places → Orderly text (step places)
  mem : ∀ {places}, Orderly text places → ∀ b, b ∈ step places ↔ ∃ a ∈ places, relation a b
  onward : ∀ {a b}, a.Within text → relation a b → a.index ≤ b.index

namespace Follows

variable {text : List Char} {step step' : List Place → List Place}
  {relation relation' : Place → Place → Prop} {a b : Place} {places found latest : List Place}

theorem within (follows : Follows text step relation) (inside : a.Within text)
    (leads : relation a b) : b.Within text := by
  have single : Orderly text [a] := .cons inside (fun _ member => nomatch member) .nil
  exact (follows.orderly single).within b
    ((follows.mem single b).mpr ⟨a, List.mem_singleton_self a, leads⟩)

theorem comp (first : Follows text step relation) (second : Follows text step' relation') :
    Follows text (fun places => step' (step places))
      (fun a b => ∃ c, relation a c ∧ relation' c b) where
  orderly orderly := second.orderly (first.orderly orderly)
  mem orderly b := by
    rw [second.mem (first.orderly orderly)]
    constructor
    · rintro ⟨c, reached, leads⟩
      obtain ⟨a, member, before⟩ := (first.mem orderly c).mp reached
      exact ⟨a, member, c, before, leads⟩
    · rintro ⟨a, member, c, before, leads⟩
      exact ⟨c, (first.mem orderly c).mpr ⟨a, member, before⟩, leads⟩
  onward inside leads := by
    obtain ⟨c, before, behind⟩ := leads
    exact Nat.le_trans (first.onward inside before)
      (second.onward (first.within inside before) behind)

theorem merge (first : Follows text step relation) (second : Follows text step' relation') :
    Follows text (fun places => Place.merge (step places) (step' places))
      (fun a b => relation a b ∨ relation' a b) where
  orderly orderly := (merge_spec (first.orderly orderly) (second.orderly orderly)).1
  mem orderly b := by
    rw [(merge_spec (first.orderly orderly) (second.orderly orderly)).2, first.mem orderly,
      second.mem orderly]
    grind
  onward inside leads := leads.elim (first.onward inside) (second.onward inside)

theorem steps (follows : Follows text step relation) (count : Nat) :
    Follows text (iterate step count) (Steps relation count) := by
  induction count with
  | zero =>
    refine ⟨fun orderly => orderly, fun _ b => by simp [iterate, Steps], ?_⟩
    rintro a b - rfl
    exact Nat.le_refl _
  | succ count ih =>
    have whole := follows.comp ih
    have empty : step [] = [] := by
      refine List.eq_nil_iff_forall_not_mem.mpr fun b member => ?_
      obtain ⟨_, none, _⟩ := (follows.mem .nil b).mp member
      cases none
    -- Without a place to start from, the steps are not taken at all.
    have same : ∀ places, iterate step (count + 1) places = iterate step count (step places) := by
      intro places
      cases places with
      | nil =>
        rw [empty]
        cases count <;> rfl
      | cons place rest => rfl
    refine ⟨fun {places} orderly => ?_, fun {places} orderly b => ?_, whole.onward⟩
    · rw [same]
      exact whole.orderly orderly
    · rw [same]
      exact whole.mem orderly b

/-- Where all places that the latest ones do not account for have been followed, the search finds
what any number of steps up to `count` leads to. -/
theorem mem_closure (follows : Follows text step relation) (count : Nat)
    (known : Orderly text found) (recent : Orderly text latest)
    (followed : ∀ a ∈ found, a ∉ latest → ∀ b, relation a b → b ∈ found)
    (among : ∀ a ∈ latest, a ∈ found) :
    Orderly text (closure step count found latest) ∧
      ∀ b, b ∈ closure step count found latest ↔
        ∃ steps ≤ count, ∃ a ∈ found, Steps relation steps a b := by
  induction count generalizing found latest with
  | zero =>
    refine ⟨known, fun b => ?_⟩
    simp [closure, Steps]
  | succ count ih =>
    have next := follows.orderly recent
    have members := fun b => mem_without (b := b) next known
    -- Whatever is one step behind a place that is found, is found or fresh.
    have reached : ∀ a ∈ found, ∀ b, relation a b →
        b ∈ found ∨ b ∈ without (step latest) found := by
      intro a member b leads
      by_cases here : b ∈ found
      · exact .inl here
      by_cases late : a ∈ latest
      · exact .inr ((members b).mpr ⟨(follows.mem recent b).mpr ⟨a, late, leads⟩, here⟩)
      · exact .inl (followed a member late b leads)
    rw [closure]
    split
    next none =>
      have closed : ∀ a, a ∈ found → ∀ b, relation a b → b ∈ found := by
        intro a member b leads
        have kept := reached a member b leads
        rw [none] at kept
        exact kept.resolve_right List.not_mem_nil
      refine ⟨known, fun b => ⟨fun member => ⟨0, Nat.zero_le _, b, member, rfl⟩, ?_⟩⟩
      rintro ⟨steps, _, a, member, leads⟩
      exact Steps.stays closed member leads
    next fresh =>
      have recent' : Orderly text (without (step latest) found) := next.filter _
      obtain ⟨known', members'⟩ := merge_spec known recent'
      have followed' : ∀ a ∈ Place.merge found (without (step latest) found),
          a ∉ without (step latest) found → ∀ b, relation a b →
            b ∈ Place.merge found (without (step latest) found) := by
        intro a member old b leads
        rw [members'] at member ⊢
        exact reached a (member.resolve_right old) b leads
      obtain ⟨kept, found'⟩ := ih known' recent' followed'
        fun a member => (members' a).mpr (.inr member)
      refine ⟨kept, fun b => ?_⟩
      rw [found' b]
      constructor
      · rintro ⟨steps, few, a, member, leads⟩
        rcases (members' a).mp member with old | new
        · exact ⟨steps, Nat.le_succ_of_le few, a, old, leads⟩
        · obtain ⟨c, late, before⟩ := (follows.mem recent a).mp ((members a).mp new).1
          exact ⟨steps + 1, Nat.succ_le_succ few, c, among c late, a, before, leads⟩
      · rintro ⟨steps, few, a, member, leads⟩
        cases steps with
        | zero => exact ⟨0, Nat.zero_le _, a, (members' a).mpr (.inl member), leads⟩
        | succ steps =>
          obtain ⟨c, before, behind⟩ := leads
          exact ⟨steps, Nat.le_of_succ_le_succ few, c, (members' c).mpr (reached a member c before),
            behind⟩

/-- Steps that lead nowhere can be left out, so that no more are needed than there are characters
in between. -/
theorem shorten (follows : Follows text step relation) {count : Nat} (inside : a.Within text)
    (leads : Steps relation count a b) :
    ∃ steps ≤ count, a.index + steps ≤ b.index ∧ Steps relation steps a b := by
  induction count generalizing a with
  | zero => exact ⟨0, Nat.le_refl _, by rw [show a = b from leads]; omega, leads⟩
  | succ count ih =>
    obtain ⟨c, first, behind⟩ := leads
    have further := follows.onward inside first
    have within := follows.within inside first
    obtain ⟨steps, few, near, leads⟩ := ih within behind
    rcases Nat.eq_or_lt_of_le further with same | less
    · obtain rfl := inside.eq_of_index within same
      exact ⟨steps, Nat.le_succ_of_le few, near, leads⟩
    · exact ⟨steps + 1, Nat.succ_le_succ few, by omega, c, first, leads⟩

theorem onward_steps (follows : Follows text step relation) {count : Nat} (inside : a.Within text)
    (leads : Steps relation count a b) : b.Within text ∧ a.index ≤ b.index :=
  ⟨(follows.steps count).within inside leads, (follows.steps count).onward inside leads⟩

theorem le_reach (orderly : Orderly text places) (member : a ∈ places) :
    a.after.length ≤ reach places := by
  cases places with
  | nil => cases member
  | cons place rest =>
    rcases List.mem_cons.mp member with rfl | later
    · exact Nat.le_refl _
    · have below := orderly.below a later
      have first := orderly.head.length_after
      have second := (orderly.within a member).length_after
      rw [reach]
      omega

theorem times (follows : Follows text step relation) (least : Nat) (most : Option Nat) :
    Follows text
      (fun places =>
        closure step (stepBound least most (iterate step least places))
          (iterate step least places) (iterate step least places))
      (fun a b => ∃ count, least ≤ count ∧ (∀ bound ∈ most, count ≤ max least bound) ∧
        Steps relation count a b) := by
  have start := follows.steps least
  have spec {places : List Place} (orderly : Orderly text places) :=
    follows.mem_closure (stepBound least most (iterate step least places))
      (start.orderly orderly) (start.orderly orderly) (fun a member fresh => absurd member fresh)
      fun _ member => member
  refine ⟨fun orderly => (spec orderly).1, fun {places} orderly b => ?_, ?_⟩
  · rw [(spec orderly).2]
    constructor
    · rintro ⟨steps, few, c, member, behind⟩
      obtain ⟨a, first, before⟩ := (start.mem orderly c).mp member
      refine ⟨a, first, least + steps, Nat.le_add_right _ _, fun bound bounded => ?_,
        (Steps.append least steps).mpr ⟨c, before, behind⟩⟩
      rw [Option.mem_def.mp bounded, stepBound] at few
      omega
    · rintro ⟨a, first, count, enough, bounded, leads⟩
      obtain ⟨extra, rfl⟩ := Nat.exists_eq_add_of_le enough
      obtain ⟨c, before, behind⟩ := (Steps.append least extra).mp leads
      have member := (start.mem orderly c).mpr ⟨a, first, before⟩
      have inside := (start.orderly orderly).within c member
      obtain ⟨steps, few, near, shorter⟩ := follows.shorten inside behind
      have far := le_reach (start.orderly orderly) member
      have left := inside.length_after
      have last := (follows.onward_steps inside behind).1.1
      refine ⟨steps, ?_, c, member, shorter⟩
      cases most with
      | none =>
        rw [stepBound]
        omega
      | some bound =>
        have limit := bounded bound rfl
        rw [stepBound]
        omega
  · rintro a b inside ⟨count, _, _, leads⟩
    exact (follows.onward_steps inside leads).2

end Follows

/-- The search by lists of places finds where the pattern leads. -/
theorem advance_follows (text : List Char) (p : Pattern) : Follows text p.advance p.Leads := by
  induction p with
  | empty =>
    refine ⟨fun orderly => by simpa only [advance] using orderly, fun _ b => ?_, ?_⟩
    · simp [advance, Leads]
    · rintro a b - rfl
      exact Nat.le_refl _
  | char set =>
    refine ⟨fun {places} orderly => ⟨fun b member => ?_, ?_⟩, fun _ b => ?_, ?_⟩
    · obtain ⟨a, before, stepped⟩ := List.mem_filterMap.mp member
      exact (orderly.within a before).step? stepped
    · rw [advance, List.pairwise_filterMap]
      refine orderly.ascending.imp fun {a b} less c first d second => ?_
      rw [step?_index first, step?_index second]
      omega
    · simp only [advance, Leads, List.mem_filterMap]
    · intro a b _ stepped
      rw [step?_index stepped]
      omega
  | look test =>
    refine ⟨fun orderly => orderly.filter _, fun _ b => ?_, ?_⟩
    · simp only [advance, Leads, List.mem_filter]
      grind
    · rintro a b - ⟨_, rfl⟩
      exact Nat.le_refl _
  | cat p q first second => exact first.comp second
  | alt p q first second => exact first.merge second
  | times p least most inner => exact inner.times least most

/-- A pattern matches where it leads from some place of the text to another. -/
theorem isMatch_iff (p : Pattern) (text : String) :
    p.isMatch text = true ↔ ∃ a b, a.Within text.toList ∧ p.Leads a b := by
  have follows := advance_follows text.toList p
  have found := follows.mem (all_orderly text.toList)
  rw [isMatch, Bool.not_eq_true', List.isEmpty_eq_false_iff_exists_mem]
  simp only [found, mem_all]
  grind

end Pattern

end SchemaCheck

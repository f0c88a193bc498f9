import SchemaCheck.Net.Url
import SchemaCheck.Proofs.Text.Digits
import SchemaCheck.Proofs.Text.Hex
import SchemaCheck.Proofs.Text.Run

/-!
Web addresses. Nothing is read without a scheme, and behind a scheme that is none of the special
ones there have to be two slashes (`Url.ofText?_none`). The text of an address that has been read
holds the mark behind its scheme, and it has no blanks at its ends (`trim_render`): what is encoded
in the path, the query and the fragment has no blanks in it, and where all of these are empty the
text ends with an opaque host or a port.
-/

namespace SchemaCheck.Net.Url

variable {text : List Char}

/-- A letter, and then letters, digits and a few marks. -/
structure IsScheme (scheme : List Char) : Prop where
  first : scheme.head?.any Char.isAlpha = true
  characters : ∀ c ∈ scheme, isSchemeChar c = true

theorem IsScheme.taken {scheme : List Char} (proper : IsScheme scheme) (rest : List Char) :
    (scheme ++ ':' :: rest).takeWhile isSchemeChar = scheme ∧
      (scheme ++ ':' :: rest).dropWhile isSchemeChar = ':' :: rest := by
  have ahead : Text.NoneAhead isSchemeChar (':' :: rest) := Text.noneAhead_cons rfl rest
  exact ⟨Text.takeWhile_run proper.characters ahead, Text.dropWhile_run proper.characters ahead⟩

def MarkAhead (text : List Char) : Prop :=
  ∃ scheme rest, IsScheme scheme ∧ text = scheme ++ ':' :: '/' :: '/' :: rest

def SpecialAhead (text : List Char) : Prop :=
  ∃ scheme rest, IsScheme scheme ∧ text = scheme ++ ':' :: rest ∧
    (SchemeKind.ofScheme (String.ofList (Text.asciiLower scheme))).isSpecial = true

theorem exists_scheme {lower rest : List Char} (found : splitScheme? text = some (lower, rest)) :
    ∃ scheme, IsScheme scheme ∧ text = scheme ++ ':' :: rest ∧ lower = Text.asciiLower scheme := by
  unfold splitScheme? at found
  split at found
  next first =>
    split at found
    next behind left =>
      injection found with found
      obtain ⟨rfl, rfl⟩ := Prod.mk.inj found
      refine ⟨text.takeWhile isSchemeChar, ⟨?_, ?_⟩, ?_, rfl⟩
      · cases text with
        | nil => cases first
        | cons c text =>
          have letter : c.isAlpha = true := first
          have inside : isSchemeChar c = true := by
            rw [isSchemeChar, Char.isAlphanum, letter, Bool.true_or, Bool.true_or, Bool.true_or,
              Bool.true_or]
          rw [List.takeWhile_cons_of_pos inside]
          exact letter
      · exact List.all_eq_true.mp List.all_takeWhile
      · rw [← left, List.takeWhile_append_dropWhile]
    next => cases found
  next => cases found

/-- Nothing is read from a text without a scheme, nor where two slashes are missing behind a scheme
that is not special. -/
theorem ofText?_none (noMark : ¬MarkAhead (relevant text))
    (notSpecial : ¬SpecialAhead (relevant text)) : ofText? text = none := by
  unfold ofText?
  rw [Option.bind_eq_bind, Option.bind_eq_none_iff]
  rintro ⟨lower, rest⟩ found
  obtain ⟨scheme, proper, starts, rfl⟩ := exists_scheme found
  simp only
  cases kind : SchemeKind.ofScheme (String.ofList (Text.asciiLower scheme)) with
  | web => exact absurd ⟨scheme, rest, proper, starts, by rw [kind]; rfl⟩ notSpecial
  | file => exact absurd ⟨scheme, rest, proper, starts, by rw [kind]; rfl⟩ notSpecial
  | other =>
    simp only
    split
    next behind => exact absurd ⟨scheme, behind, proper, starts⟩ noMark
    next => rfl

end SchemaCheck.Net.Url

namespace SchemaCheck.Net

open Text (isBlank)

def Solid (text : List Char) : Prop := ∀ c ∈ text, isBlank c = false

def EndsSolid (text : List Char) : Prop := ∃ front c, text = front ++ [c] ∧ isBlank c = false

section Ends

variable {front text back : List Char}

theorem solid_nil : Solid [] := List.forall_mem_nil _

theorem solid_cons {c : Char} (first : isBlank c = false) (rest : Solid text) : Solid (c :: text) :=
  List.forall_mem_cons.mpr ⟨first, rest⟩

theorem Solid.append (solid : Solid text) (more : Solid back) : Solid (text ++ back) :=
  List.forall_mem_append.mpr ⟨solid, more⟩

theorem EndsSolid.append (ends : EndsSolid text) (solid : Solid back) :
    EndsSolid (text ++ back) := by
  by_cases empty : back = []
  · rw [empty, List.append_nil]
    exact ends
  · exact Text.ends_solid empty solid text

theorem EndsSolid.behind (ends : EndsSolid text) (front : List Char) :
    EndsSolid (front ++ text) := by
  obtain ⟨rest, c, rfl, solid⟩ := ends
  exact ⟨front ++ rest, c, (List.append_assoc _ _ _).symm, solid⟩

theorem Solid.endsSolid (solid : Solid text) (filled : text ≠ []) : EndsSolid text :=
  Text.ends_solid filled solid []

end Ends

namespace Percent

theorem upperHexDigit_solid : ∀ n < 16, isBlank (Text.upperHexDigit n) = false := by decide

theorem encodeByte_solid (b : UInt8) : Solid (encodeByte b) := by
  have small := b.toNat_lt
  refine solid_cons rfl (solid_cons ?_ (solid_cons ?_ solid_nil))
  · exact upperHexDigit_solid _ (by omega)
  · exact upperHexDigit_solid _ (by omega)

/-- Encoding leaves no blanks when all blanks of the text that are ASCII characters are encoded. -/
theorem encode_solid {inSet : Char → Bool} {text : List Char}
    (covers : ∀ c ∈ text, c.toNat < 0x80 → isBlank c = true → inSet c = true) :
    Solid (encode inSet text) := by
  intro d member
  obtain ⟨c, inside, member⟩ := List.mem_flatMap.mp member
  unfold encodeChar at member
  split at member
  next =>
    obtain ⟨b, _, member⟩ := List.mem_flatMap.mp member
    exact encodeByte_solid b d member
  next plain =>
    obtain rfl := List.mem_singleton.mp member
    simp only [Bool.or_eq_true, decide_eq_true_eq, not_or] at plain
    exact Bool.eq_false_iff.mpr fun blank => plain.2 (covers d inside (by omega) blank)

/-- The blanks among the ASCII characters are the space and five of the controls. -/
theorem isControl_of_isBlank {c : Char} (ascii : c.toNat < 0x80) (blank : isBlank c = true) :
    isControl c = true ∨ c = ' ' := by
  have table : ∀ code < 0x80, isBlank (Char.ofNat code) = true →
      isControl (Char.ofNat code) = true ∨ Char.ofNat code = ' ' := by decide
  have found := table c.toNat ascii
  rw [Char.ofNat_toNat] at found
  exact found blank

theorem encode_ne_nil {inSet : Char → Bool} {text : List Char} (filled : text ≠ []) :
    encode inSet text ≠ [] := by
  obtain ⟨c, rest, rfl⟩ := List.exists_cons_of_ne_nil filled
  rw [encode, List.flatMap_cons]
  refine List.append_ne_nil_of_left_ne_nil ?_ _
  unfold encodeChar
  split
  next =>
    have positive := c.utf8Size_pos
    rw [← String.length_utf8EncodeChar] at positive
    obtain ⟨b, bytes, encoded⟩ := List.exists_cons_of_length_pos positive
    rw [encoded]
    exact List.cons_ne_nil _ _
  next => exact List.cons_ne_nil _ _

end Percent

namespace Url

section Parts

variable {kind : SchemeKind} {text : List Char}

theorem encode_solid {inSet : Char → Bool}
    (controls : ∀ c, Percent.isControl c = true → inSet c = true)
    (space : inSet ' ' = true) (text : List Char) : Solid (Percent.encode inSet text) := by
  refine Percent.encode_solid fun c _ ascii blank => ?_
  rcases Percent.isControl_of_isBlank ascii blank with control | rfl
  · exact controls c control
  · exact space

theorem inFragmentSet_control (c : Char) (control : Percent.isControl c = true) :
    inFragmentSet c = true := by
  rw [inFragmentSet, control, Bool.true_or]

theorem inPathSet_control (c : Char) (control : Percent.isControl c = true) :
    inPathSet c = true := by
  rw [inPathSet, inFragmentSet_control c control, Bool.true_or]

theorem inQuerySet_control (kind : SchemeKind) (c : Char) (control : Percent.isControl c = true) :
    inQuerySet kind c = true := by
  rw [inQuerySet, control, Bool.true_or, Bool.true_or]

theorem mem_dropSegment {segment : List Char} {done : List (List Char)}
    (member : segment ∈ dropSegment done) : segment ∈ done := by
  unfold dropSegment at member
  split at member
  · exact member
  · split at member
    · exact member
    · exact List.mem_cons_of_mem _ member

/-- Segments without dots are encoded, or empty behind dots at the end. -/
theorem resolve_solid {segments done : List (List Char)}
    (before : ∀ segment ∈ done, Solid segment) :
    ∀ segment ∈ resolve done segments, Solid segment := by
  induction segments generalizing done with
  | nil =>
    rw [resolve]
    exact fun segment member => before segment (List.mem_reverse.mp member)
  | cons segment rest ih =>
    have finish {done : List (List Char)} (before : ∀ segment ∈ done, Solid segment) :
        ∀ segment ∈ if rest.isEmpty then ([] :: done).reverse else resolve done rest,
          Solid segment := by
      split
      · intro segment member
        rcases List.mem_cons.mp (List.mem_reverse.mp member) with rfl | member
        · exact solid_nil
        · exact before segment member
      · exact ih before
    rw [resolve]
    simp only
    split
    · exact finish fun segment member => before segment (mem_dropSegment member)
    · split
      · exact finish before
      · refine ih (List.forall_mem_cons.mpr ⟨?_, before⟩)
        exact encode_solid inPathSet_control (by decide) segment

theorem resolve_ne_nil {segments done : List (List Char)} (filled : segments ≠ [] ∨ done ≠ []) :
    resolve done segments ≠ [] := by
  induction segments generalizing done with
  | nil =>
    rw [resolve]
    exact mt List.reverse_eq_nil_iff.mp (filled.resolve_left fun other => other rfl)
  | cons segment rest ih =>
    have finish (done : List (List Char)) :
        (if rest.isEmpty then ([] :: done).reverse else resolve done rest) ≠ [] := by
      split
      next => exact mt List.reverse_eq_nil_iff.mp (List.cons_ne_nil _ _)
      next more => exact ih (.inl fun empty => more (List.isEmpty_iff.mpr empty))
    rw [resolve]
    simp only
    split
    · exact finish _
    · split
      · exact finish _
      · exact ih (.inr (List.cons_ne_nil _ _))

theorem segments_ne_nil (kind : SchemeKind) (text : List Char) : segments kind text ≠ [] := by
  cases text with
  | nil => exact List.cons_ne_nil _ _
  | cons c rest =>
    rw [segments]
    split
    · exact List.cons_ne_nil _ _
    · split <;> exact List.cons_ne_nil _ _

theorem pathOf_solid (kind : SchemeKind) (text : List Char) : Solid (pathOf kind text) := by
  cases text with
  | nil =>
    rw [pathOf]
    split
    · exact solid_cons rfl solid_nil
    · exact solid_nil
  | cons c rest =>
    rw [pathOf]
    intro d member
    obtain ⟨segment, resolved, member⟩ := List.mem_flatMap.mp member
    have solid := resolve_solid (List.forall_mem_nil _) segment resolved
    exact solid_cons rfl solid d member

theorem pathOf_ne_nil (special : kind.isSpecial = true) (text : List Char) :
    pathOf kind text ≠ [] := by
  cases text with
  | nil =>
    rw [pathOf, if_pos special]
    exact List.cons_ne_nil _ _
  | cons c rest =>
    rw [pathOf, joinSegments]
    generalize (if kind.isSlash c then rest else c :: rest) = behind
    have filled : resolve [] (segments kind behind) ≠ [] :=
      resolve_ne_nil (.inl (segments_ne_nil kind behind))
    obtain ⟨segment, more, resolved⟩ := List.exists_cons_of_ne_nil filled
    rw [resolved, List.flatMap_cons]
    exact List.cons_ne_nil _ _

theorem tail_solid (kind : SchemeKind) (text : List Char) :
    (∀ query ∈ (Tail.ofText kind text).query, Solid query) ∧
      ∀ fragment ∈ (Tail.ofText kind text).fragment, Solid fragment := by
  constructor
  · intro query member
    simp only [Tail.ofText] at member
    split at member
    · cases member
    · obtain rfl := Option.some.inj member
      exact encode_solid (inQuerySet_control kind) rfl _
  · intro fragment member
    simp only [Tail.ofText] at member
    split at member
    · cases member
    · obtain rfl := Option.some.inj member
      exact encode_solid inFragmentSet_control (by decide) _

end Parts

end Url

theorem Host.bracketed?_ends {text : List Char} {host : Host} (read : bracketed? text = some host) :
    EndsSolid host.render := by
  unfold bracketed? at read
  split at read
  · obtain ⟨address, _, rfl⟩ := Option.map_eq_some_iff.mp read
    exact ⟨'[' :: address.renderCompressed, ']', rfl, rfl⟩
  · cases read

theorem Host.ofOpaque?_ends {text : List Char} {host : Host} (read : ofOpaque? text = some host) :
    EndsSolid host.render := by
  unfold ofOpaque? at read
  split at read
  · exact bracketed?_ends read
  split at read
  next => cases read
  next allowed =>
    obtain rfl := Option.some.inj read
    simp only [Bool.or_eq_true, List.isEmpty_iff, List.any_eq_true, not_or, not_exists,
      not_and] at allowed
    refine Solid.endsSolid (Percent.encode_solid fun c member ascii blank => ?_)
      (Percent.encode_ne_nil allowed.1)
    rcases Percent.isControl_of_isBlank ascii blank with control | rfl
    · exact control
    · exact absurd (by decide) (allowed.2 ' ' member)

namespace Url

/-- What a web address that has been read has for its text to start and end without a blank. -/
structure Tidy (u : Url) : Prop where
  scheme : ∃ c rest, u.scheme = c :: rest ∧ isBlank c = false
  path : Solid u.path
  query : ∀ query ∈ u.query, Solid query
  fragment : ∀ fragment ∈ u.fragment, Solid fragment
  ends : u.path ≠ [] ∨ EndsSolid u.host.render

section Render

variable {u : Url} {kind : SchemeKind} {scheme text : List Char}

theorem optional_solid {part : Option (List Char)} {mark : Char} (solid : ∀ text ∈ part, Solid text)
    (first : isBlank mark = false) : Solid ((part.map (mark :: ·)).getD []) := by
  cases part with
  | none => exact solid_nil
  | some text => exact solid_cons first (solid text rfl)

theorem port_solid (port : Option Nat) :
    Solid ((port.map fun n => ':' :: Text.digitsOf n).getD []) := by
  cases port with
  | none => exact solid_nil
  | some n =>
    exact solid_cons rfl fun c member => Text.isBlank_of_isDigit (Text.digitsOf_all n c member)

theorem Tidy.trim_render (tidy : u.Tidy) : Text.trim u.render = u.render := by
  have starts : ∃ c rest, u.render = c :: rest ∧ isBlank c = false := by
    obtain ⟨c, rest, spelled, solid⟩ := tidy.scheme
    simp only [render, spelled, List.cons_append]
    exact ⟨c, _, rfl, solid⟩
  refine Text.trim_of_ends starts ?_
  refine EndsSolid.append (EndsSolid.append ?_ (optional_solid tidy.query rfl))
    (optional_solid tidy.fragment rfl)
  rcases tidy.ends with filled | host
  · exact (tidy.path.endsSolid filled).behind _
  · exact ((host.behind _).append (port_solid u.port)).append tidy.path

theorem render_mark (u : Url) : "://".toList <:+: u.render := by
  refine ⟨u.scheme, u.userText ++ u.host.render ++
    (u.port.map fun n => ':' :: Text.digitsOf n).getD [] ++ u.path ++
    (u.query.map ('?' :: ·)).getD [] ++ (u.fragment.map ('#' :: ·)).getD [], ?_⟩
  simp only [render, List.append_assoc]

end Render

section Read

variable {address : Url} {kind : SchemeKind} {scheme text : List Char}

theorem asciiLower_starts (proper : IsScheme scheme) :
    ∃ c rest, Text.asciiLower scheme = c :: rest ∧ isBlank c = false := by
  obtain ⟨first, _⟩ := proper
  cases scheme with
  | nil => cases first
  | cons c rest =>
    have table : ∀ code ≤ 122, (Char.ofNat code).isAlpha = true →
        isBlank (Char.ofNat code).toLower = false := by decide
    have letter : c.isAlpha = true := first
    have found := table c.toNat (Text.toNat_of_isAlpha letter).2
    rw [Char.ofNat_toNat] at found
    exact ⟨c.toLower, Text.asciiLower rest, rfl, found letter⟩

theorem ofAuthority?_tidy (starts : ∃ c rest, scheme = c :: rest ∧ isBlank c = false)
    (read : ofAuthority? kind scheme text = some address) : address.Tidy := by
  simp only [ofAuthority?, Option.bind_eq_bind] at read
  split at read
  next special =>
    obtain ⟨host, _, read⟩ := Option.bind_eq_some_iff.mp read
    obtain ⟨⟨port, behind⟩, _, read⟩ := Option.bind_eq_some_iff.mp read
    obtain rfl := Option.some.inj read
    obtain ⟨query, fragment⟩ := tail_solid kind behind
    exact ⟨starts, pathOf_solid kind _, query, fragment, .inl (pathOf_ne_nil special _)⟩
  next =>
    obtain ⟨host, named, read⟩ := Option.bind_eq_some_iff.mp read
    obtain ⟨⟨port, behind⟩, _, read⟩ := Option.bind_eq_some_iff.mp read
    obtain rfl := Option.some.inj read
    obtain ⟨query, fragment⟩ := tail_solid kind behind
    exact ⟨starts, pathOf_solid kind _, query, fragment, .inr (Host.ofOpaque?_ends named)⟩

theorem ofFile?_tidy (starts : ∃ c rest, scheme = c :: rest ∧ isBlank c = false)
    (read : ofFile? scheme text = some address) : address.Tidy := by
  simp only [ofFile?, Option.bind_eq_bind] at read
  split at read
  next => cases read
  next =>
    obtain ⟨host, _, read⟩ := Option.bind_eq_some_iff.mp read
    split at read
    next => cases read
    next =>
      obtain rfl := Option.some.inj read
      generalize text.drop _ = behind
      obtain ⟨query, fragment⟩ := tail_solid .file behind
      have path : Solid (trimSlashes (Tail.ofText .file behind).path) :=
        solid_cons rfl fun c member =>
          pathOf_solid .file _ c ((List.dropWhile_sublist _).mem member)
      exact ⟨starts, path, query, fragment, .inl (List.cons_ne_nil _ _)⟩

/-- Every web address that is read has a text that starts with its scheme and holds no blank at its
end. -/
theorem ofText?_tidy (read : ofText? text = some address) : address.Tidy := by
  simp only [ofText?, Option.bind_eq_bind] at read
  obtain ⟨⟨lower, behind⟩, found, read⟩ := Option.bind_eq_some_iff.mp read
  obtain ⟨scheme, proper, _, rfl⟩ := exists_scheme found
  have starts := asciiLower_starts proper
  simp only at read
  split at read
  · exact ofAuthority?_tidy starts read
  · split at read
    · split at read
      · exact ofFile?_tidy starts read
      · cases read
    · cases read
  · split at read
    · exact ofAuthority?_tidy starts read
    · cases read

end Read

end Url

end SchemaCheck.Net

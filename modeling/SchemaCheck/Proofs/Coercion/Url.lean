import SchemaCheck.Proofs.Coercion.Semantic
import SchemaCheck.Proofs.Net.Url

/-!
Coercion to web addresses. A text without the mark behind a scheme stands for the same address as
with `https` in front of it. With the mark in another place it is not read, unless it starts with a
special scheme (`SemanticFormat.url_scheme`). The canonical text is read as the same address again
when the full text of the address is (`SemanticFormat.url_again`).
-/

namespace SchemaCheck

open Net.Url (IsScheme MarkAhead SpecialAhead relevant)
open Json (Value)

namespace Coercion

variable {text : List Char}

theorem hasSchemeMark_iff : hasSchemeMark text = true ↔ "://".toList <:+: text := by
  induction text with
  | nil =>
    refine ⟨nofun, fun inside => ?_⟩
    cases List.infix_nil.mp inside
  | cons c rest ih =>
    rw [hasSchemeMark, Bool.or_eq_true, List.isPrefixOf_iff_prefix, ih, List.infix_cons_iff]

theorem toUrl?_trimmed (filled : text ≠ []) (trimmed : Text.trim text = text) :
    toUrl? (.string (String.ofList text)) =
      (Net.Url.ofText? (withScheme text)).map fun address =>
        (address, urlText address (withScheme text)) := by
  rw [toUrl?, givenText?_trimmed filled trimmed]
  simp only [Option.bind_eq_bind, Option.bind_some]
  cases Net.Url.ofText? (withScheme text) <;> rfl

theorem withScheme_noMark (noMark : ¬"://".toList <:+: text) :
    withScheme text = "https://".toList ++ text :=
  if_neg (mt hasSchemeMark_iff.mp noMark)

theorem withScheme_mark (mark : "://".toList <:+: text) : withScheme text = text :=
  if_pos (hasSchemeMark_iff.mpr mark)

theorem withScheme_https (text : List Char) :
    withScheme ("https://".toList ++ text) = "https://".toList ++ text :=
  withScheme_mark ⟨"https".toList, text, rfl⟩

theorem trim_withScheme (filled : text ≠ []) (trimmed : Text.trim text = text) :
    Text.trim (withScheme text) = withScheme text := by
  unfold withScheme
  split
  next => exact trimmed
  next =>
    obtain ⟨front, c, ends, solid⟩ := Text.ends_of_trim filled trimmed
    refine Text.trim_of_ends ⟨'h', _, rfl, rfl⟩ ⟨"https://".toList ++ front, c, ?_, solid⟩
    rw [List.append_assoc, ← ends]

theorem withScheme_withScheme (text : List Char) :
    withScheme (withScheme text) = withScheme text := by
  by_cases mark : "://".toList <:+: text
  · rw [withScheme_mark mark, withScheme_mark mark]
  · rw [withScheme_noMark mark, withScheme_https]

theorem withScheme_ne_nil (filled : text ≠ []) : withScheme text ≠ [] := by
  unfold withScheme
  split
  next => exact filled
  next => exact List.append_ne_nil_of_right_ne_nil _ filled

theorem toUrl?_noMark (filled : text ≠ []) (trimmed : Text.trim text = text)
    (noMark : ¬"://".toList <:+: text) : toUrl? (.string (String.ofList text)) =
      toUrl? (.string (String.ofList ("https://".toList ++ text))) := by
  have more := trim_withScheme filled trimmed
  rw [withScheme_noMark noMark] at more
  rw [toUrl?_trimmed filled trimmed,
    toUrl?_trimmed (List.append_ne_nil_of_right_ne_nil _ filled) more, withScheme_noMark noMark,
    withScheme_https]

theorem read?_url_iff {value : Value} {address : Net.Url} {canonical : List Char} :
    SemanticFormat.url.read? value = some (.url address canonical) ↔
      toUrl? value = some (address, canonical) := by
  rw [SemanticFormat.read?]
  cases toUrl? value with
  | none => exact ⟨nofun, nofun⟩
  | some found =>
    rw [Option.map_some, Option.some.injEq, Option.some.injEq, Meaning.url.injEq, Prod.ext_iff]

theorem toUrl?_written {text : String} {address : Net.Url} {canonical : List Char}
    (read : toUrl? (.string text) = some (address, canonical)) :
    Text.trim text.toList ≠ [] ∧
      Net.Url.ofText? (withScheme (Text.trim text.toList)) = some address ∧
      canonical = urlText address (withScheme (Text.trim text.toList)) := by
  simp only [toUrl?, givenText?, Option.bind_eq_bind] at read
  split at read
  next => cases read
  next filled =>
    rw [Option.bind_some] at read
    obtain ⟨found, parsed, read⟩ := Option.bind_eq_some_iff.mp read
    obtain ⟨rfl, rfl⟩ := Prod.mk.inj (Option.some.inj read)
    exact ⟨fun empty => filled (List.isEmpty_iff.mpr empty), parsed, rfl⟩

theorem toUrl?_render {address : Net.Url} (tidy : address.Tidy)
    (reparsed : Net.Url.ofText? address.render = some address) :
    toUrl? (.string (String.ofList address.render)) = some (address, address.render) := by
  have filled : address.render ≠ [] := fun empty => by
    have mark := address.render_mark
    rw [empty] at mark
    cases List.infix_nil.mp mark
  have longer : ¬address.render = address.render ++ ['/'] := fun same => by
    have lengths := congrArg List.length same
    rw [List.length_append, List.length_singleton] at lengths
    omega
  rw [toUrl?_trimmed filled tidy.trim_render, withScheme_mark address.render_mark, reparsed,
    Option.map_some, urlText, if_neg longer]

end Coercion

open Coercion

/-- Without a mark in it, a text stands for what it stands for behind `https`. With a mark, no
scheme is put in front, so that a text with the mark in another place than behind a scheme is not
read, unless the scheme is a special one. -/
theorem SemanticFormat.url_scheme {text : List Char} (filled : text ≠ [])
    (trimmed : Text.trim text = text) :
    (¬"://".toList <:+: text → toUrl? (.string (String.ofList text)) =
        toUrl? (.string (String.ofList ("https://".toList ++ text)))) ∧
      ("://".toList <:+: text →
        (toUrl? (.string (String.ofList text))).map Prod.fst = Net.Url.ofText? text ∧
          (¬MarkAhead (relevant text) → ¬SpecialAhead (relevant text) →
            toUrl? (.string (String.ofList text)) = none)) := by
  refine ⟨toUrl?_noMark filled trimmed, fun mark => ?_⟩
  rw [toUrl?_trimmed filled trimmed, withScheme_mark mark, Option.map_map]
  refine ⟨Option.map_id', fun noScheme notSpecial => ?_⟩
  rw [Net.Url.ofText?_none noScheme notSpecial, Option.map_none]

/-- The canonical text is the full text of the address, or the text as written where only a slash
has been added to it. Provided that the full text of the address is parsed as the address, the
canonical text is read as the same address with the same canonical text. -/
theorem SemanticFormat.url_again {name text : String} {address : Net.Url} {canonical : List Char}
    (named : SemanticFormat.ofName? name = some .url)
    (read : SemanticFormat.url.read? (.string text) = some (.url address canonical))
    (reparsed : Net.Url.ofText? address.render = some address) :
    let written := withScheme (Text.trim text.toList)
    canonical = (if address.render = written ++ ['/'] then written else address.render) ∧
      SemanticFormat.url.read? (.string (String.ofList canonical)) =
        some (.url address canonical) ∧
      Kind.read? .string (some name) (.string text) =
        some (.json (.string (String.ofList canonical))) ∧
      Kind.read? .string (some name) (.string (String.ofList canonical)) =
        some (.json (.string (String.ofList canonical))) := by
  intro written
  obtain ⟨filled, parsed, chosen⟩ := toUrl?_written (read?_url_iff.mp read)
  have again : toUrl? (.string (String.ofList canonical)) = some (address, canonical) := by
    rw [chosen]
    unfold urlText
    by_cases slash : address.render = written ++ ['/']
    · have trimmed := trim_withScheme filled (Text.trim_trim text.toList)
      rw [if_pos slash, toUrl?_trimmed (withScheme_ne_nil filled) trimmed, withScheme_withScheme,
        parsed, Option.map_some, urlText, if_pos slash]
    · rw [if_neg slash]
      exact toUrl?_render (Net.Url.ofText?_tidy parsed) reparsed
  have reread := read?_url_iff.mpr again
  have kept : Kind.read? .string (some name) (.string (Meaning.url address canonical).text) =
      some (.json (.string (Meaning.url address canonical).text)) := Kind.read?_again named reread
  refine ⟨chosen, reread, ?_, kept⟩
  rw [Kind.read?_named named, read, Option.map_some]
  rfl

/-- A scheme in capitals, zeros in the host, the usual port, dots in the path and a space. -/
theorem SemanticFormat.url_again_full :
    let text := " HTTPS://[0:0::1]:443/a/../b?x y "
    let canonical := "https://[::1]/b?x%20y".toList
    ∃ address, SemanticFormat.url.read? (.string text) = some (.url address canonical) ∧
      Net.Url.ofText? address.render = some address ∧
      Kind.read? .string (some "uri") (.string text) =
        some (.json (.string (String.ofList canonical))) ∧
      Kind.read? .string (some "uri") (.string (String.ofList canonical)) =
        some (.json (.string (String.ofList canonical))) := by
  intro text canonical
  let address : Net.Url :=
    ⟨"https".toList, [], none, .v6 ⟨[0, 0, 0, 0, 0, 0, 0, 1], rfl⟩, none, "/b".toList,
      some "x%20y".toList, none⟩
  have read : SemanticFormat.url.read? (.string text) = some (.url address canonical) :=
    read?_url_iff.mpr (by decide +kernel)
  have reparsed : Net.Url.ofText? address.render = some address := by decide +kernel
  have named : SemanticFormat.ofName? "uri" = some .url := rfl
  have kept := (url_again named read reparsed).2.2
  exact ⟨address, read, reparsed, kept⟩

/-- A path without a mark, and a mark in the query behind a port. -/
theorem SemanticFormat.url_scheme_port :
    toUrl? (.string "localhost/docs") = toUrl? (.string "https://localhost/docs") ∧
      toUrl? (.string "localhost:80/?next=http://a.b") = none := by
  constructor
  · have noMark : ¬"://".toList <:+: "localhost/docs".toList :=
      mt hasSchemeMark_iff.mpr (by decide)
    have trimmed : Text.trim "localhost/docs".toList = "localhost/docs".toList := rfl
    have alike := (url_scheme (by decide) trimmed).1 noMark
    have whole : "https://".toList ++ "localhost/docs".toList = "https://localhost/docs".toList :=
      rfl
    rw [whole, String.ofList_toList, String.ofList_toList] at alike
    exact alike
  · have mark : "://".toList <:+: "localhost:80/?next=http://a.b".toList :=
      hasSchemeMark_iff.mp (by decide)
    have relevantAll : relevant "localhost:80/?next=http://a.b".toList =
        "localhost:80/?next=http://a.b".toList := rfl
    have noScheme : ¬MarkAhead (relevant "localhost:80/?next=http://a.b".toList) := by
      rw [relevantAll]
      rintro ⟨scheme, rest, proper, starts⟩
      have behind := (proper.taken ('/' :: '/' :: rest)).2
      rw [← starts] at behind
      cases behind
    have notSpecial : ¬SpecialAhead (relevant "localhost:80/?next=http://a.b".toList) := by
      rw [relevantAll]
      rintro ⟨scheme, rest, proper, starts, special⟩
      rw [← (proper.taken rest).1, ← starts] at special
      cases special
    have trimmed : Text.trim "localhost:80/?next=http://a.b".toList =
        "localhost:80/?next=http://a.b".toList := rfl
    have unread := ((url_scheme (by decide) trimmed).2 mark).2 noScheme notSpecial
    rwa [String.ofList_toList] at unread

/-- An address whose query holds another address. It begins with no scheme, but is not read, though
it is read behind `https`. -/
theorem SemanticFormat.url_laterMark :
    "[::1]/?next=http://a.b".toList ≠ [] ∧
      Text.trim "[::1]/?next=http://a.b".toList = "[::1]/?next=http://a.b".toList ∧
      ¬MarkAhead "[::1]/?next=http://a.b".toList ∧
      toUrl? (.string "[::1]/?next=http://a.b") = none ∧
      (toUrl? (.string "https://[::1]/?next=http://a.b")).map Prod.snd =
        some "https://[::1]/?next=http://a.b".toList := by
  have noScheme : ¬MarkAhead "[::1]/?next=http://a.b".toList := by
    rintro ⟨scheme, rest, proper, starts⟩
    have front := (proper.taken ('/' :: '/' :: rest)).1
    rw [← starts] at front
    have first := proper.first
    rw [← front] at first
    cases first
  exact ⟨by decide, by decide, noScheme, rfl, rfl⟩

end SchemaCheck

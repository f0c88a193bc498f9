import Mathlib.Tactic.Common
import SchemaCheck.Net.Ip
import SchemaCheck.Proofs.Text.Hex
import SchemaCheck.Proofs.Text.Scan

/-!
Internet addresses and their texts. The text of an address is read as the address, in each family
(`Ipv4.ofText?_render`, `Ipv6.ofText?_render`). No text is read in both families, so it does not
matter which of them is tried first (`Ip.ofText?_v4_iff`, `Ip.ofText?_v6_iff`).
-/

namespace SchemaCheck.Net

open Text

namespace Ipv4

variable {rest : List Char}

theorem readOctet_digitsOf (n : UInt8) (ahead : NoDigitAhead rest) :
    readOctet (digitsOf n.toNat ++ rest) = some (n, rest) := by
  have small := n.toNat_lt
  have short : (digitsOf n.toNat).length ≤ 3 :=
    (Nat.length_toDigits_le_iff (by decide) (by decide)).mpr (by omega)
  have filled := List.isEmpty_eq_false_iff.mpr (digitsOf_ne_nil n.toNat)
  have noZero : ¬((digitsOf n.toNat).head? = some '0' ∧ 1 < (digitsOf n.toNat).length) := by
    rintro ⟨first, long⟩
    by_cases zero : n.toNat = 0
    · rw [zero] at long
      exact absurd long (by decide)
    · obtain ⟨c, others, spelled, notZero⟩ := digitsOf_head n.toNat zero
      rw [spelled] at first
      exact notZero (Option.some.inj first)
  have inRange : ¬(false = true ∨ 3 < (digitsOf n.toNat).length ∨ 255 < n.toNat) := by
    rintro (nothing | long | large)
    · cases nothing
    · omega
    · omega
  simp only [readOctet, takeWhile_digits (digitsOf_all _) ahead,
    dropWhile_digits (digitsOf_all _) ahead, numeral_digits, filled, if_neg inRange,
    if_neg noZero, UInt8.ofNat_toNat]

theorem readNext_digitsOf (n : UInt8) (ahead : NoDigitAhead rest) :
    readNext ('.' :: (digitsOf n.toNat ++ rest)) = some (n, rest) := readOctet_digitsOf n ahead

theorem read_render (address : Ipv4) (ahead : NoDigitAhead rest) :
    read (address.render ++ rest) = some (address, rest) := by
  have point : ∀ text, NoDigitAhead ('.' :: text) := noDigitAhead_cons '.' rfl
  simp only [read, render, List.append_assoc, List.cons_append, readOctet_digitsOf _ (point _),
    readNext_digitsOf _ (point _), readNext_digitsOf _ ahead, Option.bind_eq_bind,
    Option.bind_some]
  rfl

theorem ofText?_eq_some_iff {text : List Char} {address : Ipv4} :
    ofText? text = some address ↔ read text = some (address, []) := by
  unfold ofText?
  split
  next found read =>
    rw [read, Option.some.injEq, Option.some.injEq, Prod.mk.injEq, and_iff_left rfl]
  next other =>
    exact ⟨nofun, fun read => absurd read (other address)⟩

theorem ofText?_render (address : Ipv4) : ofText? address.render = some address := by
  have read := read_render address noDigitAhead_nil
  rw [List.append_nil] at read
  exact ofText?_eq_some_iff.mpr read

theorem render_solid (address : Ipv4) : ∀ c ∈ address.render, isBlank c = false := by
  intro c member
  have digits : ∀ n, ∀ c ∈ digitsOf n, isBlank c = false := fun n => (digitsOf_all n).solid
  simp only [render, List.mem_append, List.mem_cons] at member
  rcases member with a | rfl | b | rfl | c | rfl | d
  · exact digits _ _ a
  · rfl
  · exact digits _ _ b
  · rfl
  · exact digits _ _ c
  · rfl
  · exact digits _ _ d

theorem read_none {text : List Char} (noPoint : (text.dropWhile Char.isDigit).head? ≠ some '.') :
    read text = none := by
  have next : readNext (text.dropWhile Char.isDigit) = none := by
    unfold readNext
    split
    next rest point =>
      rw [point] at noPoint
      exact absurd rfl noPoint
    next => rfl
  unfold read readOctet
  simp only
  split_ifs
  · rfl
  · rfl
  · simp only [Option.bind_eq_bind, Option.bind_some, next, Option.bind_none]

section Points

variable {text : List Char} {address : Ipv4}

theorem readOctet_rest {n : UInt8} (read : readOctet text = some (n, rest)) :
    rest = text.dropWhile Char.isDigit := by
  unfold readOctet at read
  simp only at read
  split_ifs at read
  cases read
  rfl

theorem count_octet {n : UInt8} (read : readOctet text = some (n, rest)) :
    rest.count '.' ≤ text.count '.' := by
  rw [readOctet_rest read]
  exact (List.dropWhile_sublist _).count_le _

theorem count_next {n : UInt8} (read : readNext text = some (n, rest)) :
    rest.count '.' + 1 ≤ text.count '.' := by
  unfold readNext at read
  split at read
  next behind =>
    rw [List.count_cons_self]
    exact Nat.succ_le_succ (count_octet read)
  next => cases read

theorem count_of_read (read : Ipv4.read text = some (address, rest)) : 3 ≤ text.count '.' := by
  simp only [Ipv4.read, Option.bind_eq_bind, Option.bind_eq_some_iff] at read
  obtain ⟨_, first, _, second, _, third, _, fourth, _⟩ := read
  have a := count_octet first
  have b := count_next second
  have c := count_next third
  have d := count_next fourth
  omega

end Points

end Ipv4

namespace Ipv6

section Reading

variable {rest : List Char}

/-- A text that may stand behind a group: neither the group nor an IPv4 address goes on in it. -/
structure Closed (rest : List Char) : Prop where
  noDigit : NoneAhead isHexDigit rest
  noPoint : rest.head? ≠ some '.'

theorem closed_nil : Closed [] := ⟨noneAhead_nil, nofun⟩

theorem closed_colon (rest : List Char) : Closed (':' :: rest) := ⟨noneAhead_cons rfl rest, nofun⟩

theorem readGroup_hexDigitsOf (group : UInt16) (ahead : NoneAhead isHexDigit rest) :
    readGroup (hexDigitsOf group.toNat ++ rest) = some (group, rest) := by
  have short : (hexDigitsOf group.toNat).length ≤ 4 :=
    length_hexDigitsOf (by decide) group.toNat_lt
  simp only [readGroup, takeWhile_run (hexDigitsOf_all _) ahead,
    dropWhile_run (hexDigitsOf_all _) ahead, if_neg (Nat.not_lt.mpr short),
    hexNumeral?_hexDigitsOf, Option.map_some, UInt16.ofNat_toNat]

theorem readGroup_none (ahead : NoneAhead isHexDigit rest) : readGroup rest = none := by
  simp only [readGroup, takeWhile_noneAhead ahead]
  rfl

theorem Closed.noDecimal (closed : Closed rest) : rest.dropWhile Char.isDigit = rest := by
  refine dropWhile_noneAhead fun c first => ?_
  have other := closed.noDigit c first
  rw [isHexDigit, Bool.or_eq_false_iff, Bool.or_eq_false_iff] at other
  exact other.1.1

theorem Closed.read_none (closed : Closed rest) : Ipv4.read rest = none := by
  refine Ipv4.read_none ?_
  rw [closed.noDecimal]
  exact closed.noPoint

/-- A group is not taken for the first number of an IPv4 address. -/
theorem Closed.read_group (closed : Closed rest) (n : Nat) :
    Ipv4.read (hexDigitsOf n ++ rest) = none := by
  refine Ipv4.read_none fun point => ?_
  rw [List.dropWhile_append] at point
  split at point
  next =>
    rw [closed.noDecimal] at point
    exact closed.noPoint point
  next left =>
    -- The decimal digits end within the group, where no point can stand.
    obtain ⟨c, more, spelled⟩ := List.exists_cons_of_ne_nil (mt List.isEmpty_iff.mpr left)
    rw [spelled, List.cons_append, List.head?_cons, Option.some.injEq] at point
    have member : '.' ∈ (hexDigitsOf n).dropWhile Char.isDigit := by
      rw [spelled, point]
      exact List.mem_cons_self
    have digit := hexDigitsOf_all n '.' ((List.dropWhile_sublist _).mem member)
    cases digit

/-- Groups with a colon in front of each. -/
def tailText (groups : List UInt16) : List Char :=
  groups.flatMap fun group => ':' :: hexDigitsOf group.toNat

theorem renderGroups_cons (group : UInt16) (groups : List UInt16) :
    renderGroups (group :: groups) = hexDigitsOf group.toNat ++ tailText groups := by
  induction groups generalizing group with
  | nil => rw [renderGroups, tailText, List.flatMap_nil, List.append_nil]
  | cons next groups ih =>
    rw [renderGroups, ih, tailText, tailText, List.flatMap_cons, List.cons_append]
    exact List.cons_ne_nil next groups

theorem closed_tailText (closed : Closed rest) (groups : List UInt16) :
    Closed (tailText groups ++ rest) := by
  cases groups with
  | nil => exact closed
  | cons => exact closed_colon _

def Groups.behind (front : List UInt16) (more : Groups) : Groups :=
  { more with groups := front ++ more.groups }

variable {first : Bool} {text : List Char} {room : Nat} {groups : List UInt16}

theorem readGroups_group {group : UInt16}
    (start : dropSeparator first text = some (hexDigitsOf group.toNat ++ rest))
    (closed : Closed rest) :
    readGroups first (room + 1) text = (readGroups false room rest).behind [group] := by
  simp only [readGroups, start, Option.bind_some, closed.read_group, ite_self,
    readGroup_hexDigitsOf group closed.noDigit]
  rfl

theorem readGroups_tailText (fits : groups.length ≤ room) (closed : Closed rest) :
    readGroups false room (tailText groups ++ rest) =
      (readGroups false (room - groups.length) rest).behind groups := by
  -- Each group takes one place of the room, and all that follows it is closed.
  induction groups generalizing room with
  | nil => rfl
  | cons group groups ih =>
    rw [List.length_cons] at fits
    obtain ⟨less, rfl⟩ : ∃ less, room = less + 1 := ⟨room - 1, by omega⟩
    have spelled : tailText (group :: groups) ++ rest =
        ':' :: (hexDigitsOf group.toNat ++ (tailText groups ++ rest)) := by
      rw [tailText, List.flatMap_cons, List.cons_append, List.cons_append, List.append_assoc]
      rfl
    have start : dropSeparator false (tailText (group :: groups) ++ rest) =
        some (hexDigitsOf group.toNat ++ (tailText groups ++ rest)) := by
      rw [spelled]
      rfl
    rw [readGroups_group start (closed_tailText closed groups), ih (by omega), List.length_cons,
      Nat.add_sub_add_right]
    rfl

theorem readGroups_renderGroups (filled : groups ≠ []) (fits : groups.length ≤ room)
    (closed : Closed rest) :
    readGroups true room (renderGroups groups ++ rest) =
      (readGroups false (room - groups.length) rest).behind groups := by
  obtain ⟨group, groups, rfl⟩ := List.exists_cons_of_ne_nil filled
  rw [List.length_cons] at fits
  obtain ⟨less, rfl⟩ : ∃ less, room = less + 1 := ⟨room - 1, by omega⟩
  have start : dropSeparator true (renderGroups (group :: groups) ++ rest) =
      some (hexDigitsOf group.toNat ++ (tailText groups ++ rest)) := by
    rw [renderGroups_cons, List.append_assoc]
    rfl
  rw [readGroups_group start (closed_tailText closed groups), readGroups_tailText (by omega) closed,
    List.length_cons, Nat.add_sub_add_right]
  rfl

theorem readGroups_stop (room : Nat) (start : ∀ rest ∈ dropSeparator first text, Closed rest) :
    readGroups first room text = ⟨[], false, text⟩ := by
  cases room with
  | zero => rfl
  | succ room =>
    have noAddress : (dropSeparator first text).bind Ipv4.read = none :=
      Option.bind_eq_none_iff.mpr fun rest found => (start rest found).read_none
    have noGroup : (dropSeparator first text).bind readGroup = none :=
      Option.bind_eq_none_iff.mpr fun rest found => readGroup_none (start rest found).noDigit
    simp only [readGroups, noAddress, noGroup, ite_self]

/-- What stands behind the last group: nothing, or a run of zeros that has been left out. -/
def Gap (rest : List Char) : Prop := rest = [] ∨ ∃ more, rest = ':' :: ':' :: more

theorem Gap.closed (gap : Gap rest) : Closed rest := by
  rcases gap with rfl | ⟨more, rfl⟩
  · exact closed_nil
  · exact closed_colon _

theorem Gap.stops (gap : Gap rest) (first : Bool) (room : Nat) :
    readGroups first room rest = ⟨[], false, rest⟩ := by
  refine readGroups_stop room ?_
  cases first with
  | true => exact fun _ same => Option.some.inj same ▸ gap.closed
  | false =>
    rcases gap with rfl | ⟨more, rfl⟩
    · exact nofun
    · exact fun _ same => Option.some.inj same ▸ closed_colon more

theorem Gap.readGroups (gap : Gap rest) (fits : groups.length ≤ room) :
    readGroups true room (renderGroups groups ++ rest) = ⟨groups, false, rest⟩ := by
  by_cases empty : groups = []
  · rw [empty, renderGroups, List.nil_append, gap.stops]
  · rw [readGroups_renderGroups empty fits gap.closed, gap.stops, Groups.behind, List.append_nil]

end Reading

section Rendering

variable {groups : List UInt16}

/-- Where a run of zeros is left out, the groups consist of those in front, of as many zeros, and of
those behind. -/
theorem longestZeros_split {start : Nat} (positive : 0 < (longestZeros start groups).2) :
    ∃ front back, groups = front ++ List.replicate (longestZeros start groups).2 0 ++ back ∧
      (longestZeros start groups).1 = start + front.length := by
  induction groups generalizing start with
  | nil => cases positive
  | cons group groups ih =>
    simp only [longestZeros] at positive ⊢
    split at positive
    next here =>
      rw [if_pos here]
      refine ⟨[], (group :: groups).dropWhile (· == 0), ?_, rfl⟩
      have zeros : (group :: groups).takeWhile (· == 0) =
          List.replicate (zerosAtStart (group :: groups)) 0 :=
        List.eq_replicate_iff.mpr ⟨rfl, fun zero member =>
          eq_of_beq (List.all_eq_true.mp List.all_takeWhile zero member)⟩
      rw [List.nil_append, ← zeros, List.takeWhile_append_dropWhile]
    next later =>
      rw [if_neg later]
      obtain ⟨front, back, split, place⟩ := ih positive
      refine ⟨group :: front, back, ?_, ?_⟩
      · rw [List.cons_append, List.cons_append, ← split]
      · rw [place, List.length_cons]
        omega

theorem ofHalves?_groups {address : Ipv6} {front back : List UInt16}
    (whole : front ++ List.replicate (8 - front.length - back.length) 0 ++ back = address.groups) :
    ofHalves? front back = some address := by
  obtain ⟨groups, eight⟩ := address
  subst whole
  exact dif_pos eight

theorem ofText?_renderGroups (address : Ipv6) :
    ofText? (renderGroups address.groups) = some address := by
  have gap : Gap [] := .inl rfl
  have read : readGroups true 8 (renderGroups address.groups ++ []) =
      ⟨address.groups, false, []⟩ := gap.readGroups (Nat.le_of_eq address.length_eq)
  rw [List.append_nil] at read
  simp only [ofText?, read, address.length_eq, if_true, List.isEmpty_nil]
  refine ofHalves?_groups ?_
  rw [address.length_eq, List.append_nil]
  exact List.append_nil _

theorem ofText?_gap {address : Ipv6} {front back : List UInt16} {count : Nat} (long : 2 ≤ count)
    (split : address.groups = front ++ List.replicate count 0 ++ back) :
    ofText? (renderGroups front ++ ':' :: ':' :: renderGroups back) = some address := by
  have total : front.length + count + back.length = 8 := by
    rw [← address.length_eq, split, List.length_append, List.length_append, List.length_replicate]
  have gap : Gap (':' :: ':' :: renderGroups back) := .inr ⟨_, rfl⟩
  have readFront : readGroups true 8 (renderGroups front ++ ':' :: ':' :: renderGroups back) =
      ⟨front, false, ':' :: ':' :: renderGroups back⟩ := gap.readGroups (by omega)
  have last : Gap [] := .inl rfl
  have readBack : readGroups true (7 - front.length) (renderGroups back ++ []) =
      ⟨back, false, []⟩ := last.readGroups (by omega)
  rw [List.append_nil] at readBack
  have notAll : front.length ≠ 8 := by omega
  simp only [ofText?, readFront, if_neg notAll, Bool.false_eq_true, if_false, readBack,
    List.isEmpty_nil, if_true]
  refine ofHalves?_groups ?_
  have zeros : 8 - front.length - back.length = count := by omega
  rw [zeros, split]

theorem ofText?_renderCompressed (address : Ipv6) :
    ofText? address.renderCompressed = some address := by
  unfold renderCompressed
  simp only
  split
  next => exact ofText?_renderGroups address
  next long =>
    have positive : 0 < (longestZeros 0 address.groups).2 := by omega
    obtain ⟨front, back, split, place⟩ := longestZeros_split positive
    rw [Nat.zero_add] at place
    generalize (longestZeros 0 address.groups).2 = count at *
    rw [place]
    have before : address.groups.take front.length = front := by
      rw [split, List.append_assoc, List.take_left]
    have behind : address.groups.drop (front.length + count) = back := by
      rw [split]
      exact List.drop_left' (by rw [List.length_append, List.length_replicate])
    rw [before, behind]
    exact ofText?_gap (Nat.not_lt.mp long) split

def ofIpv4 (inner : Ipv4) : Ipv6 := ⟨[0, 0, 0, 0, 0, 0xFFFF] ++ inner.groups, rfl⟩

section Halves

variable (a b : UInt8)

theorem toNat_halves :
    (UInt16.ofNat (a.toNat * 256 + b.toNat)).toNat = a.toNat * 256 + b.toNat := by
  have high := a.toNat_lt
  have low := b.toNat_lt
  exact UInt16.toNat_ofNat_of_lt' (by rw [UInt16.size]; omega)

theorem highHalf : UInt8.ofNat ((UInt16.ofNat (a.toNat * 256 + b.toNat)).toNat / 256) = a := by
  have low := b.toNat_lt
  have quotient : (a.toNat * 256 + b.toNat) / 256 = a.toNat := by omega
  rw [toNat_halves, quotient, UInt8.ofNat_toNat]

theorem lowHalf : UInt8.ofNat ((UInt16.ofNat (a.toNat * 256 + b.toNat)).toNat % 256) = b := by
  have low := b.toNat_lt
  have remainder : (a.toNat * 256 + b.toNat) % 256 = b.toNat := by omega
  rw [toNat_halves, remainder, UInt8.ofNat_toNat]

theorem join_halves (group : UInt16) :
    UInt16.ofNat ((UInt8.ofNat (group.toNat / 256)).toNat * 256 +
      (UInt8.ofNat (group.toNat % 256)).toNat) = group := by
  have small := group.toNat_lt
  have high : (UInt8.ofNat (group.toNat / 256)).toNat = group.toNat / 256 :=
    UInt8.toNat_ofNat_of_lt' (by rw [UInt8.size]; omega)
  have low : (UInt8.ofNat (group.toNat % 256)).toNat = group.toNat % 256 :=
    UInt8.toNat_ofNat_of_lt' (Nat.mod_lt _ (by decide))
  have whole : group.toNat / 256 * 256 + group.toNat % 256 = group.toNat := by omega
  rw [high, low, whole, UInt16.ofNat_toNat]

end Halves

theorem mapped?_eq_some_iff {address : Ipv6} {inner : Ipv4} :
    address.mapped? = some inner ↔ address = ofIpv4 inner := by
  constructor
  · intro mapped
    obtain ⟨groups, eight⟩ := address
    unfold mapped? at mapped
    split at mapped
    next high low spelled =>
      obtain rfl := Option.some.inj mapped
      simp only at spelled
      subst spelled
      simp only [ofIpv4, Ipv4.groups, join_halves]
      rfl
    next => cases mapped
  · rintro rfl
    show some (Ipv4.mk _ _ _ _) = some inner
    rw [highHalf, lowHalf, highHalf, lowHalf]

theorem ofText?_ofIpv4 (inner : Ipv4) :
    ofText? ("::ffff:".toList ++ inner.render) = some (ofIpv4 inner) := by
  have mark : renderGroups [0xFFFF] = "ffff".toList := by decide
  have spelled : "::ffff:".toList ++ inner.render =
      ':' :: ':' :: (renderGroups [0xFFFF] ++ ':' :: inner.render) := by
    rw [mark]
    rfl
  have address := Ipv4.read_render inner noDigitAhead_nil
  rw [List.append_nil] at address
  have embedded : readGroups false 6 (':' :: inner.render) = ⟨inner.groups, true, []⟩ := by
    simp only [readGroups, dropSeparator, Bool.false_eq_true, if_false, Option.bind_some, address]
    rfl
  have back : readGroups true 7 (renderGroups [0xFFFF] ++ ':' :: inner.render) =
      ⟨0xFFFF :: inner.groups, true, []⟩ := by
    rw [readGroups_renderGroups (List.cons_ne_nil _ _) (by decide) (closed_colon _)]
    show (readGroups false 6 (':' :: inner.render)).behind [0xFFFF] = _
    rw [embedded]
    rfl
  have gap : Gap (':' :: ':' :: (renderGroups [0xFFFF] ++ ':' :: inner.render)) := .inr ⟨_, rfl⟩
  rw [spelled]
  simp only [ofText?, gap.stops, List.length_nil, Nat.reduceEqDiff, if_false, Bool.false_eq_true,
    Nat.sub_zero, back, List.isEmpty_nil, if_true]
  exact ofHalves?_groups rfl

theorem ofText?_render (address : Ipv6) : ofText? address.render = some address := by
  unfold render
  split
  next inner mapped =>
    rw [mapped?_eq_some_iff.mp mapped]
    exact ofText?_ofIpv4 inner
  next => exact ofText?_renderCompressed address

end Rendering

section Solid

theorem renderGroups_solid (groups : List UInt16) :
    ∀ c ∈ renderGroups groups, isBlank c = false := by
  have digits : ∀ n, ∀ c ∈ hexDigitsOf n, isBlank c = false :=
    fun n c member => isBlank_of_isHexDigit (hexDigitsOf_all n c member)
  cases groups with
  | nil => exact nofun
  | cons group groups =>
    intro c member
    rw [renderGroups_cons, List.mem_append, tailText, List.mem_flatMap] at member
    rcases member with front | ⟨next, _, behind⟩
    · exact digits _ c front
    · rcases List.mem_cons.mp behind with rfl | digit
      · rfl
      · exact digits _ c digit

theorem renderCompressed_solid (address : Ipv6) :
    ∀ c ∈ address.renderCompressed, isBlank c = false := by
  unfold renderCompressed
  simp only
  split
  next => exact renderGroups_solid _
  next =>
    intro c member
    simp only [List.mem_append, List.mem_cons] at member
    rcases member with front | rfl | rfl | back
    · exact renderGroups_solid _ c front
    · rfl
    · rfl
    · exact renderGroups_solid _ c back

theorem render_solid (address : Ipv6) : ∀ c ∈ address.render, isBlank c = false := by
  unfold render
  split
  next inner _ =>
    have mark : ("::ffff:".toList.all fun c => !isBlank c) = true := by decide
    simp only [List.all_eq_true, Bool.not_eq_true'] at mark
    intro c member
    exact (List.mem_append.mp member).elim (mark c) (inner.render_solid c)
  next => exact address.renderCompressed_solid

end Solid

section Colons

variable {text : List Char}

/-- Without a colon, one group at most is read, or an IPv4 address. -/
theorem readGroups_noColon (noColon : ':' ∉ text) (room : Nat) :
    (readGroups true (room + 1) text).groups.length ≤ 2 ∧
      ((readGroups true (room + 1) text).mixed = true ∨
        (readGroups true (room + 1) text).rest <:+ text) := by
  have stop {rest : List Char} (within : rest <:+ text) :
      readGroups false room rest = ⟨[], false, rest⟩ := by
    refine readGroups_stop room fun behind found => ?_
    unfold dropSeparator at found
    split at found
    next first => cases first
    next =>
      split at found
      next => exact absurd (within.mem List.mem_cons_self) noColon
      next => cases found
  rw [readGroups]
  simp only [dropSeparator, if_true, Option.bind_some]
  split
  next inner rest _ => exact ⟨Nat.le_refl 2, .inl rfl⟩
  next =>
    split
    next => exact ⟨Nat.zero_le 2, .inr (List.suffix_refl text)⟩
    next group rest found =>
      have within : rest <:+ text := by
        simp only [readGroup] at found
        split at found
        next => cases found
        next =>
          obtain ⟨n, _, made⟩ := Option.map_eq_some_iff.mp found
          cases made
          exact List.dropWhile_suffix _
      rw [stop within]
      exact ⟨Nat.le_succ 1, .inr within⟩

theorem ofText?_none (noColon : ':' ∉ text) : ofText? text = none := by
  obtain ⟨few, within⟩ := readGroups_noColon noColon 7
  unfold ofText?
  generalize readGroups true 8 text = front at *
  have notAll : front.groups.length ≠ 8 := by omega
  simp only [if_neg notAll]
  rcases within with embedded | within
  · rw [if_pos embedded]
  · split
    next => rfl
    next =>
      split
      next rest spelled =>
        rw [spelled] at within
        exact absurd (within.mem List.mem_cons_self) noColon
      next => rfl

theorem Closed.ofText?_none (closed : Closed text) (noColon : text.head? ≠ some ':') :
    ofText? text = none := by
  have stop : readGroups true 8 text = ⟨[], false, text⟩ :=
    readGroups_stop 8 fun rest found => Option.some.inj found ▸ closed
  simp only [ofText?, stop, List.length_nil, Nat.reduceEqDiff, if_false, Bool.false_eq_true]
  split
  next => exact absurd rfl noColon
  next => rfl

end Colons

section Families

variable {text : List Char}

/-- An IPv4 address is not the start of any IPv6 address. -/
theorem ofText?_of_ipv4 {inner : Ipv4} (read : Ipv4.ofText? text = some inner) :
    ofText? text = none := by
  have embedded : readGroups true 8 text = ⟨inner.groups, true, []⟩ := by
    simp only [readGroups, dropSeparator, if_true, Option.bind_some,
      Ipv4.ofText?_eq_some_iff.mp read, Nat.reduceLeDiff]
  simp only [ofText?, embedded, if_true]
  rfl

end Families

end Ipv6

namespace Ip

variable {text : List Char}

theorem ofText?_v4_iff {address : Ipv4} :
    ofText? text = some (.v4 address) ↔ Ipv4.ofText? text = some address := by
  unfold ofText?
  split
  next found read => rw [read, Option.some.injEq, Option.some.injEq, v4.injEq]
  next none => rw [none]; simp

/-- It does not matter that the other family is tried first. -/
theorem ofText?_v6_iff {address : Ipv6} :
    ofText? text = some (.v6 address) ↔ Ipv6.ofText? text = some address := by
  unfold ofText?
  split
  next found read => rw [Ipv6.ofText?_of_ipv4 read]; simp
  next => rw [Option.map_eq_some_iff]; simp

theorem ofText?_render (address : Ip) : ofText? address.render = some address := by
  cases address with
  | v4 address => exact ofText?_v4_iff.mpr address.ofText?_render
  | v6 address => exact ofText?_v6_iff.mpr address.ofText?_render

theorem render_solid (address : Ip) : ∀ c ∈ address.render, isBlank c = false := by
  cases address with
  | v4 address => exact address.render_solid
  | v6 address => exact address.render_solid

theorem render_ne_nil (address : Ip) : address.render ≠ [] := by
  intro empty
  have read := address.ofText?_render
  rw [empty] at read
  cases read

end Ip

end SchemaCheck.Net

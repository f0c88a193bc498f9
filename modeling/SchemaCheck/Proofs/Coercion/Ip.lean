import Mathlib.Logic.Basic
import SchemaCheck.Proofs.Coercion.Semantic
import SchemaCheck.Proofs.Net.Ip

/-!
Coercion to Internet addresses. The canonical text of an address is settled, and what is read as an
address of either family is read by just one of the two strict formats, unless it is an IPv6 address
that stands for an IPv4 address (`SemanticFormat.ip_families`).
-/

namespace SchemaCheck

open Net (Ipv4 Ipv6)
open Json (Value)

namespace Coercion

variable {value : Value}

theorem toIp?_render (address : Net.Ip) :
    toIp? (.string (String.ofList address.render)) = some address := by
  have trimmed := Text.trim_of_solid address.render_solid
  rw [toIp?, givenText?_trimmed address.render_ne_nil trimmed, Option.bind_some,
    address.ofText?_render]

theorem toIp?_v4_iff {address : Ipv4} :
    toIp? value = some (.v4 address) ↔ toIpv4? value = some address := by
  simp only [toIp?, toIpv4?, Option.bind_eq_some_iff, Net.Ip.ofText?_v4_iff]

theorem toIpv6?_eq_some_iff {address : Ipv6} : toIpv6? value = some address ↔
    toIp? value = some (.v6 address) ∧ ∀ inner, address ≠ .ofIpv4 inner := by
  have strict : ∀ found : Ipv6, (if found.mapped?.isSome then none else some found) = some address ↔
      found = address ∧ ∀ inner, address ≠ .ofIpv4 inner := by
    intro found
    cases mapped : found.mapped? with
    | none =>
      have other : ∀ inner, found ≠ .ofIpv4 inner := by
        intro inner same
        rw [Ipv6.mapped?_eq_some_iff.mpr same] at mapped
        cases mapped
      simp only [Option.isSome_none, Bool.false_eq_true, if_false, Option.some.injEq]
      exact ⟨fun same => ⟨same, same ▸ other⟩, fun both => both.1⟩
    | some inner =>
      simp only [Option.isSome_some, if_true]
      exact ⟨nofun, fun both => absurd (both.1 ▸ Ipv6.mapped?_eq_some_iff.mp mapped) (both.2 inner)⟩
  simp only [toIpv6?, toIp?, Option.bind_eq_bind, Option.bind_eq_some_iff, strict,
    Net.Ip.ofText?_v6_iff]
  constructor
  · rintro ⟨found, ⟨text, given, read⟩, rfl, other⟩
    exact ⟨⟨text, given, read⟩, other⟩
  · rintro ⟨⟨text, given, read⟩, other⟩
    exact ⟨address, ⟨text, given, read⟩, rfl, other⟩

end Coercion

open Coercion

/-- The text of an address is settled. An address of either family is what its strict format reads,
save that an IPv6 address that stands for an IPv4 address has no strict format. No value is read by
both strict formats, and whatever has one is read by it. -/
theorem SemanticFormat.ip_families :
    (∀ address : Net.Ip,
      ip.read? (.string (Meaning.ip address).text) = some (.ip address) ∧
        Kind.read? .string (some "ip") (.string (Meaning.ip address).text) =
          some (.json (.string (Meaning.ip address).text))) ∧
      ∀ value : Value,
        (∀ address, toIp? value = some (.v4 address) ↔ toIpv4? value = some address) ∧
          (∀ address, toIp? value = some (.v6 address) ∧ (∀ inner, address ≠ .ofIpv4 inner) ↔
            toIpv6? value = some address) ∧
          ¬((toIpv4? value).isSome ∧ (toIpv6? value).isSome) ∧
          ∀ address, toIp? value = some address → (∀ inner, address ≠ .v6 (.ofIpv4 inner)) →
            Xor (toIpv4? value).isSome (toIpv6? value).isSome := by
  constructor
  · intro address
    have again : ip.read? (.string (Meaning.ip address).text) = some (.ip address) := by
      rw [read?, Meaning.text, toIp?_render, Option.map_some]
    exact ⟨again, Kind.read?_again rfl again⟩
  intro value
  have oneFamily : ¬((toIpv4? value).isSome ∧ (toIpv6? value).isSome) := by
    rintro ⟨four, six⟩
    obtain ⟨a, four⟩ := Option.isSome_iff_exists.mp four
    obtain ⟨b, six⟩ := Option.isSome_iff_exists.mp six
    have also := (toIpv6?_eq_some_iff.mp six).1
    rw [toIp?_v4_iff.mpr four] at also
    cases also
  refine ⟨fun _ => toIp?_v4_iff, fun _ => toIpv6?_eq_some_iff.symm, oneFamily, ?_⟩
  intro address read other
  cases address with
  | v4 a =>
    have four : (toIpv4? value).isSome := by rw [toIp?_v4_iff.mp read, Option.isSome_some]
    exact .inl ⟨four, fun six => oneFamily ⟨four, six⟩⟩
  | v6 b =>
    have strict : ∀ inner, b ≠ .ofIpv4 inner := fun inner same => other inner (congrArg _ same)
    have six : (toIpv6? value).isSome := by
      rw [toIpv6?_eq_some_iff.mpr ⟨read, strict⟩, Option.isSome_some]
    exact .inr ⟨six, fun four => oneFamily ⟨four, six⟩⟩

/-- An address with an IPv4 address at its end that does not stand for it. -/
theorem SemanticFormat.ip_families_tail :
    toIp? (.string " 64:FF9B::192.0.2.33\t") =
        some (.v6 ⟨[0x64, 0xFF9B, 0, 0, 0, 0, 0xC000, 0x221], rfl⟩) ∧
      (∀ inner, Net.Ip.v6 ⟨[0x64, 0xFF9B, 0, 0, 0, 0, 0xC000, 0x221], rfl⟩ ≠ .v6 (.ofIpv4 inner)) ∧
      Xor (toIpv4? (.string " 64:FF9B::192.0.2.33\t")).isSome
        (toIpv6? (.string " 64:FF9B::192.0.2.33\t")).isSome := by
  have read : toIp? (.string " 64:FF9B::192.0.2.33\t") =
      some (.v6 ⟨[0x64, 0xFF9B, 0, 0, 0, 0, 0xC000, 0x221], rfl⟩) := by rfl
  have other : ∀ inner,
      Net.Ip.v6 ⟨[0x64, 0xFF9B, 0, 0, 0, 0, 0xC000, 0x221], rfl⟩ ≠ .v6 (.ofIpv4 inner) := by
    intro inner same
    injection same with same
    have mapped := Ipv6.mapped?_eq_some_iff.mpr same
    cases mapped
  exact ⟨read, other, (ip_families.2 _).2.2.2 _ read other⟩

end SchemaCheck
